import DocScript.Proofs.Expr.Names
import DocScript.Proofs.Machine.Assignments
import DocScript.Proofs.Program.Expressions

/-! # Names that documents give to variables

What a document declares or assigns to is a word. If it is one that expressions read as a variable,
a print of it in braces prints the value that it was declared with.
-/

namespace DocScript

open Markdown (Node Content)

/-- The variable that a statement declares or assigns to. -/
def Statement.target? : Statement → Option String
  | .assign name _ _ _ => some name
  | .declare name _ _ => some name
  | _ => none

section Targets

variable {text name : String} {rest : List Char} {node : Node} {s : Statement}

theorem isWord_of_takeVariable? {chars : List Char} (h : takeVariable? chars = some (name, rest)) :
    IsWord name.toList := by
  unfold takeVariable? at h
  split at h
  · cases h
  · rename_i hne
    cases h
    rw [String.toList_ofList]
    exact ⟨hne, fun c hc => List.mem_takeWhile_imp hc⟩

theorem isWord_of_isVariable (h : isVariable text = true) : IsWord text.toList := by
  obtain ⟨hne, hall⟩ := Bool.and_eq_true_iff.mp h
  refine ⟨fun hn => of_decide_eq_true hne (String.toList_eq_nil_iff.mp hn), ?_⟩
  exact List.all_eq_true.mp hall

theorem isWord_of_readDeclaration? {value : String}
    (h : readDeclaration? text = some (name, value)) : IsWord name.toList := by
  obtain ⟨⟨found, rest⟩, hf, h⟩ := Option.bind_eq_some_iff.mp h
  obtain ⟨assigned, -, h⟩ := Option.bind_eq_some_iff.mp h
  cases h
  exact isWord_of_takeVariable? hf

theorem isWord_of_readAssignment? {op : Option Compound} {value : String}
    (h : readAssignment? text = some (name, op, value)) : IsWord name.toList := by
  obtain ⟨⟨found, rest⟩, hf, h⟩ := Option.bind_eq_some_iff.mp h
  obtain ⟨assigned, -, h⟩ := Option.bind_eq_some_iff.mp h
  cases h
  exact isWord_of_takeVariable? hf

theorem isWord_of_isMadeBy (h : s.IsMadeBy node) (ht : s.target? = some name) :
    IsWord name.toList := by
  cases h with
  | print | call => cases ht
  | assign hr =>
    cases ht
    exact isWord_of_readAssignment? hr
  | declare hr =>
    cases ht
    exact isWord_of_readDeclaration? hr
  | bare hv =>
    cases ht
    exact isWord_of_isVariable hv

theorem isWord_of_isRead (h : s.IsRead) (ht : s.target? = some name) : IsWord name.toList := by
  cases h with
  | paragraph h => exact isWord_of_isMadeBy (isMadeBy_of_readParagraph h) ht
  | item h => exact isWord_of_isMadeBy (isMadeBy_of_readItem h) ht
  | heading | thematicBreak | quote => cases ht

end Targets

section Prints

variable {name : String} {e : Expr} {line : Line} {session declared : Session}

/-- A name in braces. -/
def braced (name : String) : String := "\x7b" ++ name ++ "\x7d"

theorem wholeExpression?_braced (hw : IsWord name.toList) :
    wholeExpression? (braced name) = some name := by
  have hl : (braced name).toList = '\x7b' :: (name.toList ++ ['\x7d']) := by simp [braced]
  have hb : Text.isWord '\x7d' = false := by decide +kernel
  have hall : ∀ c ∈ name.toList, decide (c ≠ '\x7d') = true := fun c hc =>
    decide_eq_true fun he => by
      rw [he] at hc
      rw [hw.2 _ hc] at hb
      cases hb
  have ht : (name.toList ++ ['\x7d']).takeWhile (· ≠ '\x7d') = name.toList := by
    rw [List.takeWhile_append_of_pos hall]
    exact List.append_nil _
  have he : name.toList.isEmpty = false := by simpa using hw.1
  rw [wholeExpression?, hl]
  simp only [ht, he, List.drop_left, Bool.not_false, Bool.true_and, decide_true, if_true,
    String.ofList_toList]

theorem read_braced (hw : IsWord name.toList) (hr : isReadable name = true) (line : Line) :
    Printed.read line (braced name) = .ok (.expr (.variableName name)) := by
  rw [Printed.read, wholeExpression?_braced hw]
  simp only [parseAt, (Expr.parse_word_iff hw).mpr hr]
  rfl

/-- A declared variable has the value that it has been declared with. -/
theorem get_of_perform_declare
    (h : session.perform (.declare name (some e) line) = .ok declared) :
    session.eval e line = .ok (declared.get name) := by
  obtain ⟨value, hv, h⟩ := Result.bind_eq_ok.mp h
  obtain ⟨_ | ⟨frame, rest⟩, printed, inputs, provider⟩ := session
  · cases h
  · cases h
    have hg := (frame.get?_set name name value).trans (if_pos rfl)
    exact hv.trans (congrArg (fun found => Except.ok (found.getD Value.none)) hg.symm)

end Prints

/-- What a document declares or assigns to is read as a variable exactly if it begins as names do
and stands for no value, and else as a literal, if at all. If it is a variable, a print of it in
braces prints the value that it was declared with. -/
theorem target_read_iff {document : Node} {program : Program}
    (h : (compile document).program = .ok program) {f : Function} (hf : f ∈ program.functions)
    {s : Statement} {level : Nat} (hs : (s, level) ∈ preorderAll 1 f.body) {name : String}
    (ht : s.target? = some name) :
    (Expr.parse name = .ok (.variableName name) ↔ isReadable name = true) ∧
    (isReadable name = false → ∀ e, Expr.parse name = .ok e → ∃ v source, e = .literal v source) ∧
    (isReadable name = true → ∀ (session declared : Session) (e : Expr) (line line' : Line),
      session.perform (.declare name (some e) line) = .ok declared →
      ∃ v content, session.eval e line = .ok v ∧ Printed.read line' (braced name) = .ok content ∧
        declared.perform (.print content line') = .ok (declared.print v)) := by
  have hw := isWord_of_isRead (isRead_of_compile h hf _ hs) ht
  refine ⟨Expr.parse_word_iff hw, fun hn e he => ?_, fun hr session declared e line line' hd => ?_⟩
  · simpa [hn] using Expr.parse_word hw he
  · exact ⟨declared.get name, _, get_of_perform_declare hd, read_braced hw hr line', rfl⟩

/-- A document with a function that declares some variables without values. -/
def declaring (names : List String) : Node :=
  .mk .document none
    [.mk (.heading (some 1)) none [.inlined (.text "main") []],
      .mk (.list false) none (names.map fun name => .mk .item none [.inlined (.text name) []])]

/-- A word may have letters of other scripts behind its first one. -/
theorem target_read_iff_accented :
    let session := (Session.start [] none).push ⟨"main", [], [], []⟩
    let declared := (Session.start [] none).push
      ⟨"main", [("café", .number (.int 7))], ["café"], []⟩
    Expr.parse "café" = .ok (.variableName "café") ∧
      ∃ v content, session.eval (.literal (.number (.int 7)) none) none = .ok v ∧
        Printed.read none (braced "café") = .ok content ∧
        declared.perform (.print content none) = .ok (declared.print v) := by
  intro session declared
  have h : (compile (declaring ["café"])).program =
      .ok ⟨[⟨"main", [], [.declare "café" none none]⟩], none⟩ := by rfl
  have hs : (.declare "café" none none, 1) ∈ preorderAll 1 [.declare "café" none none] :=
    List.mem_cons_self
  obtain ⟨hparse, -, hprint⟩ := target_read_iff h List.mem_cons_self hs rfl
  exact ⟨hparse.mpr (by decide), hprint (by decide) session declared _ none none rfl⟩

/-- Words that begin with a letter of another script or with a digit, and those that stand for
values, are declared, but are not read as variables. -/
theorem declared_unreadable :
    (compile (declaring ["été", "1st", "true"])).program =
      .ok ⟨[⟨"main", [], [.declare "été" none none, .declare "1st" none none,
        .declare "true" none none]⟩], none⟩ ∧
    ∀ name ∈ ["été", "1st", "true"], Expr.parse name ≠ .ok (.variableName name) := by
  refine ⟨by rfl, ?_⟩
  have hall : ∀ name ∈ ["été", "1st", "true"],
      isVariable name = true ∧ isReadable name = false := by
    decide +kernel
  intro name hname hparse
  obtain ⟨hv, hr⟩ := hall name hname
  rw [(Expr.parse_word_iff (isWord_of_isVariable hv)).mp hparse] at hr
  cases hr

end DocScript
