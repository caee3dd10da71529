import DocScript.Proofs.Expr.Blanks
import DocScript.Proofs.Expr.Failing
import DocScript.Proofs.Markdown.Placed
import DocScript.Proofs.Markdown.Plain
import DocScript.Proofs.Program.Nesting

/-! # The passages of a document

A passage is a text that is read as an expression, and the heading, paragraph or item that holds it.
A document is read if all of its passages are. Otherwise the first one that is not, in the order in
which they stand, says what is wrong and on which line.
-/

namespace DocScript

open Markdown (Node Content)

/-- A text that is read as an expression, and the block that holds it. -/
structure Passage where
  block : Node
  text : String

namespace Passage

def read (passage : Passage) : Result Expr := parseAt passage.block.line passage.text

/-- Whether the text of a passage is an expression. -/
def IsWellFormed (passage : Passage) : Prop := ∃ e, Expr.parse passage.text = .ok e

/-- Reads passages in turn. -/
def readAll : List Passage → Result Unit
  | [] => .ok ()
  | passage :: rest => do
    let _ ← passage.read
    readAll rest

end Passage

/-- The expression in a stretch of a template, if it has one. -/
def Segment.expressions : Segment → List String
  | .text _ => []
  | .braced inside => [String.ofList inside]

/-- The expressions in a text in bold. -/
def printedExpressions (text : String) : List String :=
  match wholeExpression? text with
  | some inside => [inside]
  | none =>
    if text.contains '\x7b' && text.contains '\x7d' then
      (segments [] text.toList).flatMap Segment.expressions
    else []

/-- The expression that a paragraph assigns, if it is an assignment. -/
def assignedExpressions (node : Node) : List String :=
  match readAssignment? node.plainText with
  | some (_, _, text) => [text]
  | none => []

/-- The expressions in a paragraph: those that it prints, the arguments of a call, or the value of
an assignment. -/
def paragraphExpressions (node : Node) : List String :=
  match node.children.filter fun child => !child.isBlankText with
  | [sole] =>
    match sole.content with
    | .strong => printedExpressions sole.plainText
    | .link _ => splitArguments sole.plainText
    | _ => assignedExpressions node
  | _ => assignedExpressions node

/-- The value that an item gives a variable, if it gives one. -/
def itemExpressions (item : Node) : List String :=
  match readDeclaration? item.plainText with
  | some (_, value) => [value]
  | none => []

namespace Markdown.Node

def holding (node : Node) (texts : List String) : List Passage := texts.map (Passage.mk node)

/-- The condition of a heading that opens a block at a level, if it does. -/
def condition? (node : Node) (level : Nat) (depth : Int) : Option String :=
  node.emphasized?.filter fun condition => depth.toNat ≤ level + 1 ∧ condition ≠ ""

/-- The passages in a block at a level. -/
def passages (node : Node) (level : Nat) : List Passage :=
  match node.content with
  | .heading (some depth) => node.holding (node.condition? level depth).toList
  | .paragraph => node.holding (paragraphExpressions node)
  | .list false => node.children.flatMap fun item => item.holding (itemExpressions item)
  | _ => []

/-- The level after a block. -/
def levelAfter (node : Node) (level : Nat) : Nat :=
  match node.content with
  | .heading (some depth) =>
    if (node.condition? level depth).isSome then depth.toNat else min level (depth.toNat - 1)
  | .thematicBreak => max 1 (level - 1)
  | _ => level

end Markdown.Node

/-- The passages of a document from some block on. There is no level before the first function. -/
def passages (level : Option Nat) : List Node → List Passage
  | [] => []
  | node :: rest =>
    if node.content = .heading (some 1) then passages (some 1) rest
    else level.toList.flatMap node.passages ++ passages (level.map node.levelAfter) rest

/-! ## Reading in turn -/

/-- Whether a result is there, and else its failure. -/
def Result.ends {α : Type} (result : Result α) : Result Unit := result.map fun _ => ()

variable {α β : Type} {line : Line} {text : String} {node : Node}

theorem Result.ends_map (result : Result α) (f : α → β) :
    Result.ends (result.map f) = result.ends := by
  cases result <;> rfl

theorem Passage.readAll_append (ps qs : List Passage) :
    readAll (ps ++ qs) = (readAll ps >>= fun _ => readAll qs) := by
  induction ps with
  | nil => rfl
  | cons p ps ih =>
    rw [List.cons_append, readAll, readAll, ih]
    cases p.read <;> rfl

theorem ends_mapM {f : α → Result β} {found : α → List Passage}
    (h : ∀ a, (f a).ends = Passage.readAll (found a)) (as : List α) :
    Result.ends (as.mapM f) = Passage.readAll (as.flatMap found) := by
  induction as with
  | nil => rfl
  | cons a as ih =>
    rw [List.mapM_cons, List.flatMap_cons, Passage.readAll_append, ← h, ← ih]
    cases f a with
    | error failure => rfl
    | ok b => cases as.mapM f <;> rfl

theorem ends_parseAt (h : node.line = line) (text : String) :
    (parseAt line text).ends = Passage.readAll (node.holding [text]) := by
  subst h
  rfl

theorem mapError_mapM {f : α → Result β} (e : Failure → Failure) (as : List α) :
    (as.mapM f).mapError e = as.mapM fun a => (f a).mapError e := by
  induction as with
  | nil => rfl
  | cons a as ih =>
    rw [List.mapM_cons, List.mapM_cons, ← ih]
    cases f a with
    | error failure => rfl
    | ok b => cases as.mapM f <;> rfl

/-! ## One block -/

theorem holding_flatMap (node : Node) (as : List α) (texts : α → List String) :
    node.holding (as.flatMap texts) = as.flatMap fun a => node.holding (texts a) := by
  rw [Node.holding, List.map_flatMap]
  rfl

theorem ends_template (h : node.line = line) (text : String) :
    Result.ends ((Template.parse text).mapError (Failure.withLine line)) =
      Passage.readAll (node.holding ((segments [] text.toList).flatMap Segment.expressions)) := by
  rw [Template.parse, mapError_mapM, holding_flatMap]
  refine ends_mapM (fun segment => ?_) _
  cases segment with
  | text chars => rfl
  | braced inside =>
    rw [Segment.expressions, ← ends_parseAt h, parseAt, Segment.parse]
    cases Expr.parse (String.ofList inside) <;> rfl

theorem ends_printed (h : node.line = line) (text : String) :
    (Printed.read line text).ends = Passage.readAll (node.holding (printedExpressions text)) := by
  unfold Printed.read printedExpressions
  cases wholeExpression? text with
  | some inside =>
    dsimp only
    rw [Result.ends_map]
    exact ends_parseAt h inside
  | none =>
    dsimp only
    split
    · rw [Result.ends_map]
      exact ends_template h text
    · rfl

theorem ends_readCall (h : node.line = line) (url text : String) :
    (readCall line url text).ends = Passage.readAll (node.holding (splitArguments text)) := by
  rw [readCall, Result.ends_map, ends_mapM (ends_parseAt h), ← holding_flatMap,
    List.flatMap_singleton']

theorem ends_readAssigned (node : Node) :
    (readAssigned node).ends = Passage.readAll (node.holding (assignedExpressions node)) := by
  unfold readAssigned assignedExpressions
  rcases readAssignment? node.plainText with _ | ⟨name, op, text⟩
  · rfl
  · dsimp only
    rw [Result.ends_map]
    exact ends_parseAt rfl text

theorem ends_readParagraph (node : Node) :
    (readParagraph node).ends = Passage.readAll (node.holding (paragraphExpressions node)) := by
  unfold readParagraph paragraphExpressions
  generalize List.filter _ node.children = kept
  rcases kept with _ | ⟨sole, _ | ⟨other, more⟩⟩
  · exact ends_readAssigned node
  · dsimp only
    cases sole.content with
    | strong =>
      dsimp only
      rw [Result.ends_map]
      exact ends_printed rfl sole.plainText
    | link url =>
      dsimp only
      rw [Result.ends_map]
      exact ends_readCall rfl url sole.plainText
    | _ => exact ends_readAssigned node
  · exact ends_readAssigned node

theorem ends_readItem (item : Node) :
    (readItem item).ends = Passage.readAll (item.holding (itemExpressions item)) := by
  unfold readItem itemExpressions
  dsimp only
  rcases readDeclaration? item.plainText with _ | ⟨name, value⟩
  · rfl
  · dsimp only
    rw [Result.ends_map]
    exact ends_parseAt rfl value

namespace Outline

variable {outline next : Outline} {draft : Draft}

theorem ends_addHeading (outline : Outline) (draft : Draft) {depth : Nat} (hd : 2 ≤ depth) :
    (outline.addHeading draft depth node).ends =
      Passage.readAll (node.holding (node.condition? draft.depth depth).toList) := by
  have hlevel := draft.depth_closeTo (draft.depth + 1 - (depth : Int).toNat)
  have hpos : 1 ≤ draft.depth := Nat.succ_pos _
  have hdeep : ¬ (depth : Int) < 1 := by omega
  rw [addHeading, if_neg hdeep]
  dsimp only
  generalize draft.closeTo (draft.depth + 1 - (depth : Int).toNat) = closed at hlevel ⊢
  have hopens : closed.depth + 1 = (depth : Int).toNat ↔ (depth : Int).toNat ≤ draft.depth + 1 := by
    omega
  simp only [hopens, Node.condition?]
  cases node.emphasized? with
  | none => simp [Result.ends, Except.map, Node.holding, Passage.readAll]
  | some condition =>
    by_cases ho : (depth : Int).toNat ≤ draft.depth + 1 ∧ condition ≠ ""
    · rw [if_pos (by simpa using ho), Option.filter_some, if_pos (by simpa using ho),
        Result.ends_map]
      exact ends_parseAt rfl condition
    · rw [if_neg (by simpa using ho), Option.filter_some, if_neg (by simpa using ho)]
      rfl

theorem ends_addItems (outline : Outline) (draft : Draft) (items : List Node) :
    (outline.addItems draft items).ends =
      Passage.readAll (items.flatMap fun item => item.holding (itemExpressions item)) := by
  rw [addItems, Result.ends_map]
  exact ends_mapM ends_readItem items

/-- What is read in a block are its passages at the depth of the draft. -/
theorem ends_addToDraft {count : Nat} (hp : node.IsPlaced count)
    (hn : node.content ≠ .heading (some 1)) (outline : Outline) (draft : Draft) :
    (outline.addToDraft draft node).ends = Passage.readAll (node.passages draft.depth) := by
  unfold addToDraft Node.passages
  cases hc : node.content with
  | heading depth =>
    obtain ⟨d, h1, -, rfl⟩ := hp.depth depth hc
    have hd : 2 ≤ d := by
      rcases Nat.lt_or_ge 1 d with h | h
      · exact h
      · rw [hc, Nat.le_antisymm h h1] at hn
        exact absurd rfl hn
    exact ends_addHeading outline draft hd
  | list ordered =>
    cases ordered with
    | true => rfl
    | false => exact ends_addItems outline draft node.children
  | paragraph =>
    dsimp only
    rw [Result.ends_map]
    exact ends_readParagraph node
  | _ => rfl

end Outline

/-! ## Levels -/

theorem isSome_condition? {level : Nat} {depth : Int} (hd : 1 ≤ depth.toNat) :
    (node.condition? level depth).isSome = true ↔
      min level (depth.toNat - 1) = depth.toNat - 1 ∧ (node.emphasized?).getD "" ≠ "" := by
  have hm : min level (depth.toNat - 1) = depth.toNat - 1 ↔ depth.toNat ≤ level + 1 := by omega
  rw [hm, Node.condition?]
  cases node.emphasized? with
  | none => simp
  | some condition => simp [Option.filter_some]

/-- The level that a block leaves. -/
theorem eq_levelAfter {level level' : Nat} {pairs : List (Statement × Nat)}
    (h : yieldOf level node = .ok (pairs, level')) : level' = node.levelAfter level := by
  unfold yieldOf at h
  unfold Node.levelAfter
  cases hc : node.content with
  | heading depth =>
    rw [hc] at h
    cases depth with
    | none => cases h
    | some depth =>
      dsimp only at h ⊢
      split at h
      · cases h
      · have hd : 1 ≤ depth.toNat := by omega
        have hs : (node.condition? level depth).isSome = true ↔ _ := isSome_condition? hd
        simp only [← hs] at h
        split at h
        · obtain ⟨condition, -, he⟩ := Result.map_eq_ok.mp h
          cases he
          rw [if_pos ‹_›]
        · cases h
          rw [if_neg ‹_›]
  | paragraph =>
    rw [hc] at h
    obtain ⟨statement, -, he⟩ := Result.map_eq_ok.mp h
    cases he
    rfl
  | list ordered =>
    rw [hc] at h
    cases ordered with
    | true =>
      cases h
      rfl
    | false =>
      obtain ⟨declared, -, he⟩ := Result.map_eq_ok.mp h
      cases he
      rfl
  | _ =>
    rw [hc] at h
    cases h
    rfl

namespace Outline

variable {outline next : Outline} {draft : Draft}

/-- The depth of the innermost open block, if there is a function. -/
def level (outline : Outline) : Option Nat := outline.current.map Draft.depth

theorem level_of_addToDraft (hc : outline.current = some draft)
    (hn : node.content ≠ .heading (some 1)) (h : outline.addToDraft draft node = .ok next) :
    next.level = some (node.levelAfter draft.depth) := by
  obtain ⟨after, pairs, -, hcurrent, hyield, -⟩ := addToDraft_reads hc hn h
  rw [level, hcurrent, Option.map_some, eq_levelAfter hyield]

end Outline

/-- A document is read as its passages are. -/
theorem ends_compileNodes {count : Nat} {nodes : List Node}
    (hp : ∀ node ∈ nodes, node.IsPlaced count) (outline : Outline) :
    (compileNodes outline nodes).program.ends = Passage.readAll (passages outline.level nodes) := by
  induction nodes generalizing outline with
  | nil => rfl
  | cons node rest ih =>
    have ih := ih fun other ho => hp other (List.mem_cons_of_mem node ho)
    by_cases hb : node.content = .heading (some 1)
    · rw [compileNodes, Outline.add, if_pos hb, passages, if_pos hb]
      exact ih _
    · rw [compileNodes, Outline.add, if_neg hb, passages, if_neg hb, Passage.readAll_append]
      cases hc : outline.current with
      | none =>
        have hl : outline.level = none := by rw [Outline.level, hc]; rfl
        dsimp only
        rw [ih outline, hl]
        rfl
      | some draft =>
        have hl : outline.level = some draft.depth := by rw [Outline.level, hc]; rfl
        have he := Outline.ends_addToDraft (hp node List.mem_cons_self) hb outline draft
        rw [hl, Option.toList_some, List.flatMap_singleton, ← he]
        dsimp only
        cases ha : outline.addToDraft draft node with
        | error failure => rfl
        | ok next =>
          dsimp only
          rw [ih next, Outline.level_of_addToDraft hc hb ha]
          rfl

/-! ## The first passage that is no expression -/

/-- A heading or a paragraph among some blocks, or an item of a bullet list among them. -/
inductive Markdown.IsHolder (blocks : List Node) : Node → Prop where
  | heading {block : Node} {depth : Option Int} (hm : block ∈ blocks)
      (hc : block.content = .heading depth) : IsHolder blocks block
  | paragraph {block : Node} (hm : block ∈ blocks) (hc : block.content = .paragraph) :
      IsHolder blocks block
  | item {list item : Node} (hm : list ∈ blocks) (hc : list.content = .list false)
      (hi : item ∈ list.children) : IsHolder blocks item

theorem Markdown.IsHolder.isLineOf {count : Nat} {blocks : List Node} {block : Node}
    (h : IsHolder blocks block) (hp : ∀ node ∈ blocks, node.IsPlaced count) :
    IsLineOf count block.line := by
  cases h with
  | heading hm | paragraph hm => exact (hp block hm).line
  | item hm hc hi => exact (hp _ hm).items false hc block hi

theorem block_of_mem_holding {texts : List String} {passage : Passage}
    (h : passage ∈ node.holding texts) : passage.block = node := by
  obtain ⟨text, -, rfl⟩ := List.mem_map.mp h
  rfl

theorem isHolder_of_mem_node {blocks : List Node} {level : Nat} (hm : node ∈ blocks)
    {passage : Passage} (h : passage ∈ node.passages level) :
    Markdown.IsHolder blocks passage.block := by
  unfold Node.passages at h
  split at h
  · rw [block_of_mem_holding h]
    exact .heading hm ‹_›
  · rw [block_of_mem_holding h]
    exact .paragraph hm ‹_›
  · obtain ⟨item, hi, h⟩ := List.mem_flatMap.mp h
    rw [block_of_mem_holding h]
    exact .item hm ‹_› hi
  · cases h

theorem isHolder_of_mem_passages {blocks nodes : List Node} (hs : nodes ⊆ blocks)
    {level : Option Nat} {passage : Passage} (h : passage ∈ passages level nodes) :
    Markdown.IsHolder blocks passage.block := by
  induction nodes generalizing level with
  | nil => cases h
  | cons node rest ih =>
    obtain ⟨hm, hr⟩ := List.cons_subset.mp hs
    unfold passages at h
    split at h
    · exact ih hr h
    · rcases List.mem_append.mp h with h | h
      · obtain ⟨level, -, h⟩ := List.mem_flatMap.mp h
        exact isHolder_of_mem_node hm h
      · exact ih hr h

theorem Passage.readAll_cases (ps : List Passage) :
    readAll ps = .ok () ∧ (∀ p ∈ ps, p.IsWellFormed) ∨
      ∃ before p after failure, ps = before ++ p :: after ∧ (∀ q ∈ before, q.IsWellFormed) ∧
        Expr.parse p.text = .error failure ∧
        readAll ps = .error (failure.withLine p.block.line) := by
  induction ps with
  | nil => exact .inl ⟨rfl, nofun⟩
  | cons p ps ih =>
    rw [readAll, Passage.read, parseAt]
    cases he : Expr.parse p.text with
    | error failure => exact .inr ⟨[], p, ps, failure, rfl, nofun, he, rfl⟩
    | ok e =>
      have hp : p.IsWellFormed := ⟨e, he⟩
      rcases ih with ⟨hr, hw⟩ | ⟨before, q, after, failure, rfl, hw, hq, hr⟩
      · exact .inl ⟨hr, List.forall_mem_cons.mpr ⟨hp, hw⟩⟩
      · exact .inr ⟨p :: before, q, after, failure, rfl, List.forall_mem_cons.mpr ⟨hp, hw⟩, hq, hr⟩

theorem withLine_failure (cause : Cause) {n : Nat} (h : 1 ≤ n) :
    (cause.failure none).withLine (some (n : Int)) = cause.failure (some (n : Int)) := by
  have hn : n ≠ 0 := Nat.ne_of_gt h
  simp [Cause.failure, Failure.withLine, ScriptError.withLine, ScriptError.keepsLine, Line.isSet,
    hn]

theorem eq_of_ends {result : Result α} {failure : Failure}
    (h : result.ends = .error failure) : result = .error failure := by
  cases result <;> cases h
  rfl

/-- A text is read as a program if its passages are expressions. Otherwise reading it fails by what
is wrong with the first one that is none, a syntax error with the line of the heading, paragraph or
item that holds it, or the fault of an integer numeral over the limit in it. -/
theorem parse_ends_at_first_malformed (text : String) :
    let blocks := (Markdown.parseDocument text).children
    let found := passages none blocks
    let parsed := (Program.parse text).program
    (∃ program, parsed = .ok program) ∧ (∀ p ∈ found, p.IsWellFormed) ∨
      ∃ before p after, ∃ n : Nat, found = before ++ p :: after ∧
        (∀ q ∈ before, q.IsWellFormed) ∧ ¬p.IsWellFormed ∧
        Markdown.IsHolder blocks p.block ∧ p.block.line = some (n : Int) ∧ 1 ≤ n ∧
        n ≤ Markdown.lineCount text ∧
        ((∃ cause : Cause, cause.kind = .malformed ∧
            Expr.parse p.text = .error (cause.failure none) ∧
            parsed = .error (cause.failure (some (n : Int)))) ∨
          ∃ digits, Numeral.maxDigits < digits ∧ HasDigits p.text.toList digits ∧
            parsed = .error (.fault (.tooManyDigits digits))) := by
  intro blocks found parsed
  have hp := Markdown.isPlaced_of_mem_document text
  have he : parsed.ends = Passage.readAll found := ends_compileNodes hp ⟨[], none, []⟩
  rcases Passage.readAll_cases found with ⟨hr, hw⟩ | ⟨before, p, after, failure, hf, hw, hq, hr⟩
  · left
    rw [hr] at he
    refine ⟨?_, hw⟩
    cases hs : parsed with
    | ok program => exact ⟨program, rfl⟩
    | error failure =>
      rw [hs] at he
      cases he
  · right
    have hh : Markdown.IsHolder blocks p.block := by
      apply isHolder_of_mem_passages (List.Subset.refl blocks)
      exact hf ▸ List.mem_append_right before List.mem_cons_self
    obtain ⟨n, h1, hn, hl⟩ := hh.isLineOf hp
    have hb : ¬p.IsWellFormed := by
      rintro ⟨e, h⟩
      cases hq.symm.trans h
    have hs : parsed = .error (failure.withLine (some (n : Int))) := by
      rw [hr, hl] at he
      exact eq_of_ends he
    refine ⟨before, p, after, n, hf, hw, hb, hh, hl, h1, hn, ?_⟩
    rcases Expr.parse_error hq with ⟨cause, hk, rfl⟩ | ⟨digits, hm, hd, rfl⟩
    · rw [withLine_failure cause h1] at hs
      exact .inl ⟨cause, hk, hq, hs⟩
    · exact .inr ⟨digits, hm, hd, hs⟩

/-! ## An assignment of a long integer -/

section Example

open Markdown

/-- The text of an assignment of an integer numeral of so many digits. -/
def assigned (count : Nat) : List Char := 'x' :: '=' :: List.replicate count '1'

/-- A document with a function that makes this assignment. -/
def assigning (count : Nat) : String :=
  String.ofList (['#', ' ', 'f', '\n', '\n'] ++ assigned count)

theorem forall_assigned {P : Char → Prop} (hx : P 'x') (he : P '=') (h1 : P '1') (count : Nat) :
    ∀ c ∈ assigned count, P c := by
  refine List.forall_mem_cons.mpr ⟨hx, List.forall_mem_cons.mpr ⟨he, fun c hc => ?_⟩⟩
  rwa [List.eq_of_mem_replicate hc]

theorem notMem_assigned {c : Char} (hx : 'x' ≠ c) (he : '=' ≠ c) (h1 : '1' ≠ c) (count : Nat) :
    c ∉ assigned count :=
  fun hc => forall_assigned (P := (· ≠ c)) hx he h1 count c hc rfl

theorem trim_assigned (count : Nat) : Text.trim (assigned count) = assigned count :=
  trim_of_forall (forall_assigned (by decide) (by decide) (by decide) count)

theorem linesOf_assigning (count : Nat) :
    linesOf 0 [] (normalizeText (assigning count).toList) =
      [.ofChars 0 true "# f".toList, .ofChars 1 true [], .ofChars 2 false (assigned count)] := by
  have hm {c : Char} (hf : c ∉ ['#', ' ', 'f', '\n', '\n']) (hx : 'x' ≠ c) (he : '=' ≠ c)
      (h1 : '1' ≠ c) : c ∉ ['#', ' ', 'f', '\n', '\n'] ++ assigned count := by
    rw [List.mem_append, not_or]
    exact ⟨hf, notMem_assigned hx he h1 count⟩
  have hr : '\r' ∉ ['#', ' ', 'f', '\n', '\n'] ++ assigned count := by apply hm <;> decide
  have hz : '\x00' ∉ ['#', ' ', 'f', '\n', '\n'] ++ assigned count := by apply hm <;> decide
  have hl : linesOf 0 [] (['#', ' ', 'f', '\n', '\n'] ++ assigned count) =
      .ofChars 0 true "# f".toList :: .ofChars 1 true [] :: linesOf 2 [] (assigned count) := rfl
  have hn : '\n' ∉ assigned count := by apply notMem_assigned <;> decide
  have hs : (assigned count).all isSpace = false := rfl
  rw [assigning, String.toList_ofList, normalizeText_eq hr hz, hl, linesOf_of_notMem hn]
  simp [hs]

/-- The paragraph of the document. -/
def assignment (count : Nat) : Node :=
  .mk .paragraph (some 3) [.inlined (.text (String.ofList (assigned count))) []]

theorem parseDocument_assigning (count : Nat) :
    (parseDocument (assigning count)).children =
      [.mk (.heading (some 1)) (some 1) [.inlined (.text "f") []], assignment count] := by
  have hread : readBlocks (blockFuel 3) ⟨0, -1, 0⟩ []
      [.ofChars 0 true "# f".toList, .ofChars 1 true [], .ofChars 2 false (assigned count)] =
      ⟨[.inline (.heading (some 1)) 0 ['f'], .inline .paragraph 2 (Text.trim (assigned count))],
        [], []⟩ := rfl
  have hp := forall_assigned (P := fun c => isPlain c = true) (by decide) (by decide) (by decide)
    count
  have hf : parseInline [] ['f'] = [.inlined (.text "f") []] :=
    parseInline_plain [] (List.forall_mem_singleton.mpr rfl) nofun
  have hi := parseInline_plain [] hp nofun
  unfold parseDocument
  rw [linesOf_assigning]
  dsimp only [List.length_cons, List.length_nil]
  rw [hread, trim_assigned]
  simp only [Node.children, Block.toNodes, Block.toNode, hf, hi]
  rfl

theorem plainText_assignment (count : Nat) :
    (assignment count).plainText = String.ofList (assigned count) := by
  have hc : (assignment count).collectText = assigned count := by
    simp [assignment, Node.collectText, Node.collectTexts, Node.inlined]
  rw [Node.plainText, hc, trim_assigned]

theorem readAssignment?_assigned {count : Nat} (h : 0 < count) :
    readAssignment? (String.ofList (assigned count)) =
      some ("x", none, String.ofList (List.replicate count '1')) := by
  have hv : takeVariable? (assigned count) = some ("x", '=' :: List.replicate count '1') := rfl
  have ha : takeAssigned? ('=' :: List.replicate count '1') =
      some (String.ofList (List.replicate count '1')) := by
    obtain ⟨n, rfl⟩ := Nat.exists_eq_add_one.mpr h
    have hn : (List.replicate (n + 1) '1').contains '\n' = false := by simp
    simp only [List.replicate_succ] at hn ⊢
    have hb : ('1' :: List.replicate n '1').dropWhile Text.isBlank =
        '1' :: List.replicate n '1' := rfl
    simp only [takeAssigned?, hb, hn]
    rfl
  rw [readAssignment?, String.toList_ofList, hv]
  show (takeAssigned? ('=' :: List.replicate count '1')).bind _ = _
  rw [ha]
  rfl

theorem readParagraph_assignment {count : Nat} (h : 0 < count) :
    readParagraph (assignment count) =
      (parseAt (some 3) (String.ofList (List.replicate count '1'))).map fun value =>
        some (.assign "x" none value (some 3)) := by
  have ht : (Text.trim (assigned count)).isEmpty = false := by
    rw [trim_assigned]
    rfl
  have hb : (Node.inlined (.text (String.ofList (assigned count))) []).isBlankText = false := by
    simpa [Node.isBlankText, Node.inlined, Node.content] using ht
  have hk : (assignment count).children.filter (fun child => !child.isBlankText) =
      [.inlined (.text (String.ofList (assigned count))) []] := by
    simp [assignment, Node.children, hb]
  rw [readParagraph, hk]
  show readAssigned (assignment count) = _
  rw [readAssigned, plainText_assignment, readAssignment?_assigned h]
  rfl

/-- Reading a text whose first assignment has an integer numeral over the limit faults. -/
theorem parse_assigning {count : Nat} (h : Numeral.maxDigits < count) :
    (Program.parse (assigning count)).program = .error (.fault (.tooManyDigits count)) := by
  have hd : Digits (String.ofList (List.replicate count '1')).toList (List.replicate count 1) := by
    rw [String.toList_ofList]
    exact digits_replicate (by decide) count
  have hp := readParagraph_assignment (Nat.zero_lt_of_lt h)
  rw [parseAt, Expr.parse_overlong hd (by rwa [List.length_replicate]), List.length_replicate] at hp
  have ha : Outline.add ⟨[], some (.ofName "f"), []⟩ (assignment count) =
      .error (.fault (.tooManyDigits count)) := by
    show (readParagraph (assignment count)).map _ = _
    rw [hp]
    rfl
  rw [Program.parse, compile, parseDocument_assigning]
  show (compileNodes ⟨[], some (.ofName "f"), []⟩ [assignment count]).program = _
  rw [compileNodes, ha]

/-- No program and no syntax error comes of such a document with a numeral of 4301 digits. -/
theorem parse_overlong_assignment :
    ¬((∃ program, (Program.parse (assigning 4301)).program = .ok program) ∨
      ∃ (cause : Cause) (line : Line), cause.kind = .malformed ∧
        (Program.parse (assigning 4301)).program = .error (cause.failure line)) := by
  have hp : (Program.parse (assigning 4301)).program = .error (.fault (.tooManyDigits 4301)) :=
    parse_assigning (by decide)
  rintro (⟨program, h⟩ | ⟨cause, line, -, h⟩)
  · cases hp.symm.trans h
  · cases hp.symm.trans h

end Example

end DocScript
