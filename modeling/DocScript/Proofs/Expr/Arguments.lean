import DocScript.Expr.Arguments
import DocScript.Program.Compile
import DocScript.Proofs.Expr.Blanks
import Mathlib.Data.List.Forall2

/-! # Argument lists and the arguments in them

The scan that divides a list goes over an expression without dividing it: it finds the ends of
strings where the parser does, and every bracket that an expression opens is closed in it. So
expressions with commas between them are divided at these commas, and read as the arguments of a
call.
-/

namespace DocScript

/-! ## Scanning -/

/-- Where a scan starts outside of quotes with a number of open brackets, it goes over a text
without dividing it, and it ends outside of quotes with another number of them. -/
def Crosses (depth : Int) (text : List Char) (depth' : Int) : Prop :=
  ∀ passed rest, splitFrom passed depth .outside (text ++ rest) =
    splitFrom (text.reverse ++ passed) depth' .outside rest

theorem Crosses.nil (depth : Int) : Crosses depth [] depth := fun _ _ => rfl

theorem Crosses.append {depth depth' depth'' : Int} {text text' : List Char}
    (h : Crosses depth text depth') (h' : Crosses depth' text' depth'') :
    Crosses depth (text ++ text') depth'' := by
  intro passed rest
  rw [List.append_assoc, h, h', List.reverse_append, List.append_assoc]

/-- The characters that a scan acts on: the quotes, the comma and the brackets. -/
def marks : List Char := ['"', Text.singleQuote, ',', '(', ')', '[', ']', '\x7b', '\x7d']

theorem classes_of_mark {c : Char} (h : c ∈ marks) :
    Text.isBlank c = false ∧ continuesName c = false ∧ startsName c = false ∧
      Text.digitValue? c = none := by
  have hall : (marks.all fun c => !Text.isBlank c && !continuesName c && !startsName c &&
      (Text.digitValue? c).isNone) = true := by decide +kernel
  simpa [and_assoc] using List.all_eq_true.mp hall c h

theorem crosses_char {c : Char} {depth : Int} (hq : Quoting.next c .outside = .outside)
    (hc : c = ',' → depth ≠ 0) : Crosses depth [c] (depth + bracketChange c) := by
  intro passed rest
  have hcomma : (c = ',' && depth = 0) = false := by simpa using hc
  rw [List.singleton_append, splitFrom, hcomma, hq]
  rfl

theorem crosses_of_unmarked {text : List Char} (h : ∀ c ∈ text, c ∉ marks) (depth : Int) :
    Crosses depth text depth := by
  induction text with
  | nil => exact .nil depth
  | cons c text ih =>
    have hc := h c List.mem_cons_self
    simp only [marks, List.mem_cons, List.not_mem_nil, or_false, not_or] at hc
    have hchange : bracketChange c = 0 := by simp [bracketChange, hc]
    have hquoting : Quoting.next c .outside = .outside := by simp [Quoting.next, hc]
    have hfirst : Crosses depth [c] depth := by
      have hchar : Crosses depth [c] (depth + bracketChange c) :=
        crosses_char hquoting fun he => absurd he hc.2.2.1
      rwa [hchange, Int.add_zero] at hchar
    exact hfirst.append (ih fun d hd => h d (List.mem_cons_of_mem c hd))

theorem splitFrom_body {quote : Char} {body : List Char} (h : StringBody quote body)
    (hq : quote ≠ '\\') (passed : List Char) (depth : Int) (rest : List Char) :
    splitFrom passed depth (.inside quote false) (body ++ quote :: rest) =
      splitFrom (quote :: (body.reverse ++ passed)) depth .outside rest := by
  induction h generalizing passed with
  | nil => simp [splitFrom, Quoting.next, hq]
  | plain hc he _ ih => simp [splitFrom, Quoting.next, hc, he, ih]
  | escaped _ _ ih => simp [splitFrom, Quoting.next, ih]

theorem crosses_string {quote : Char} (hq : quote = '"' ∨ quote = Text.singleQuote)
    {body : List Char} (h : StringBody quote body) (depth : Int) :
    Crosses depth (quote :: (body ++ [quote])) depth := by
  have hopen (passed rest : List Char) : splitFrom passed depth .outside (quote :: rest) =
      splitFrom (quote :: passed) depth (.inside quote false) rest := by
    have hnext : Quoting.next quote .outside = .inside quote false := by
      rcases hq with rfl | rfl <;> rfl
    have hchange : bracketChange quote = 0 := by rcases hq with rfl | rfl <;> rfl
    have hcomma : (quote = ',' && depth = 0) = false := by rcases hq with rfl | rfl <;> rfl
    rw [splitFrom, hcomma, hnext, hchange, Int.add_zero]
    rfl
  have he : quote ≠ '\\' := by rcases hq with rfl | rfl <;> decide
  intro passed rest
  rw [List.cons_append, hopen, List.append_assoc, List.singleton_append, splitFrom_body h he]
  simp

/-- How a token changes the number of open brackets. -/
def Token.change : Token → Int
  | .symbol .openParen => 1
  | .symbol .openBracket => 1
  | .symbol .closeParen => -1
  | .symbol .closeBracket => -1
  | _ => 0

theorem unmarked_operator (op : BinaryOp) : ∀ c ∈ op.text.toList, c ∉ marks := by
  have hall : (op.text.toList.all fun c => decide (c ∉ marks)) = true := by
    rcases op with op | op <;> cases op <;> decide
  exact fun c hc => of_decide_eq_true (List.all_eq_true.mp hall c hc)

theorem crosses_symbol {s : Symbol} {depth : Int} (h : s = .comma → depth ≠ 0) :
    Crosses depth s.text.toList (depth + (Token.symbol s).change) := by
  cases s with
  | binary op =>
    have hchange : depth + (Token.symbol (.binary op)).change = depth := Int.add_zero depth
    rw [hchange]
    exact crosses_of_unmarked (unmarked_operator op) depth
  | comma => exact crosses_char rfl fun _ => h rfl
  | not | dot | openParen | closeParen | openBracket | closeBracket =>
    exact crosses_char rfl nofun

theorem unmarked_digits {cs : List Char} {ds : List Nat} (h : Digits cs ds) :
    ∀ c ∈ cs, c ∉ marks := by
  induction h with
  | nil => nofun
  | cons hc _ ih =>
    refine List.forall_mem_cons.mpr ⟨fun hm => ?_, ih⟩
    rw [(classes_of_mark hm).2.2.2] at hc
    cases hc

theorem unmarked_exponent {cs : List Char} {e : Option Int} (h : ExponentText cs e) :
    ∀ c ∈ cs, c ∉ marks := by
  have hletter {e : Char} (he : e = 'e' ∨ e = 'E') : e ∉ marks := by
    rcases he with rfl | rfl <;> decide
  cases h with
  | none => nofun
  | unsigned he hd _ => exact List.forall_mem_cons.mpr ⟨hletter he, unmarked_digits hd⟩
  | plus he hd _ | minus he hd _ =>
    exact List.forall_mem_cons.mpr ⟨hletter he, List.forall_mem_cons.mpr ⟨by decide,
      unmarked_digits hd⟩⟩

theorem unmarked_number {cs : List Char} {numeral : Numeral} (h : NumberText cs numeral) :
    ∀ c ∈ cs, c ∉ marks := by
  cases h with
  | whole hd _ he => exact List.forall_mem_append.mpr ⟨unmarked_digits hd, unmarked_exponent he⟩
  | point hd _ hf he =>
    exact List.forall_mem_append.mpr ⟨unmarked_digits hd, List.forall_mem_cons.mpr ⟨by decide,
      List.forall_mem_append.mpr ⟨unmarked_digits hf, unmarked_exponent he⟩⟩⟩
  | fraction hf _ he =>
    exact List.forall_mem_cons.mpr ⟨by decide,
      List.forall_mem_append.mpr ⟨unmarked_digits hf, unmarked_exponent he⟩⟩

theorem unmarked_name {text : List Char} (h : IsName text) : ∀ c ∈ text, c ∉ marks := by
  obtain ⟨c, cs, rfl, hc, hcs⟩ := h
  refine List.forall_mem_cons.mpr ⟨fun hm => ?_, fun d hd hm => ?_⟩
  · rw [(classes_of_mark hm).2.2.1] at hc
    cases hc
  · have hd := hcs d hd
    rw [(classes_of_mark hm).2.1] at hd
    cases hd

/-- A scan crosses a token, unless it is a comma outside of all brackets. -/
theorem Token.Lexical.crosses {t : Token} (h : t.Lexical) {depth : Int}
    (hcomma : t = .symbol .comma → depth ≠ 0) :
    Crosses depth t.text.toList (depth + t.change) := by
  cases h with
  | name h => exact (Int.add_zero depth).symm ▸ crosses_of_unmarked (unmarked_name h) depth
  | number h => exact (Int.add_zero depth).symm ▸ crosses_of_unmarked (unmarked_number h) depth
  | string hq hbody hsource =>
    rw [Token.text, hsource]
    exact (Int.add_zero depth).symm ▸ crosses_string hq hbody depth
  | symbol s => exact crosses_symbol fun hs => hcomma (congrArg _ hs)

/-! ## Places -/

section

variable {α : Type} {build : Builder α}

/-- Whether an opening is a bracket that has to be closed. -/
def Opening.isBracket : Opening α → Bool
  | .binary _ _ => false
  | .unary _ => false
  | .group => true
  | .index _ => true
  | .arguments _ _ => true

def bracketCount (openings : List (Opening α)) : Nat := openings.countP Opening.isBracket

theorem bracketCount_cons (opening : Opening α) (rest : List (Opening α)) :
    bracketCount (opening :: rest) = bracketCount rest + if opening.isBracket then 1 else 0 :=
  List.countP_cons

theorem bracketCount_settle (level : Nat) (openings : List (Opening α)) (e : α) :
    bracketCount (settle build level openings e).1 = bracketCount openings := by
  induction openings generalizing e with
  | nil => rfl
  | cons opening outer ih =>
    cases opening with
    | binary op left =>
      rw [settle]
      split
      · exact ih (build.binary op left e)
      · rfl
    | unary op => exact ih (build.unary op e)
    | group | index | arguments => rfl

namespace Place

/-- The number of brackets that are open at a place. -/
def depth : Place α → Nat
  | .operand openings _ => bracketCount openings
  | .operator openings _ => bracketCount openings
  | .memberName openings _ => bracketCount openings

variable {place next : Place α} {openings : List (Opening α)} {t : Token}

theorem depth_afterOperand {mayClose : Bool}
    (h : afterOperand build openings mayClose t = some next) :
    t ≠ .symbol .comma ∧ (next.depth : Int) = bracketCount openings + t.change := by
  unfold afterOperand at h
  split at h
  case h_8 =>
    split at h <;> cases h
    refine ⟨nofun, ?_⟩
    simp only [depth, bracketCount_cons, Opening.isBracket, Token.change, if_true]
    omega
  case h_9 => cases h
  all_goals
    cases h
    refine ⟨nofun, ?_⟩
    simp [depth, bracketCount_cons, Opening.isBracket, Token.change]

theorem depth_afterSymbol {e : α} {s : Symbol} (h : afterSymbol build openings e s = some next) :
    (s = .comma → bracketCount openings ≠ 0) ∧
      (next.depth : Int) = bracketCount openings + (Token.symbol s).change := by
  have hsettle : bracketCount (settle build 0 openings e).1 = bracketCount openings :=
    bracketCount_settle 0 openings e
  cases s with
  | binary op =>
    cases h
    refine ⟨by simp, ?_⟩
    simp [depth, bracketCount_cons, Opening.isBracket, Token.change, bracketCount_settle]
  | not => cases h
  | dot | openParen | openBracket =>
    cases h
    refine ⟨by simp, ?_⟩
    simp [depth, bracketCount_cons, Opening.isBracket, Token.change]
  | closeParen | closeBracket =>
    simp only [afterSymbol] at h
    split at h <;> cases h
    all_goals
      rename_i heq
      rw [heq, bracketCount_cons] at hsettle
      refine ⟨by simp, ?_⟩
      simp only [depth, Token.change, ← hsettle, Opening.isBracket, if_true]
      omega
  | comma =>
    simp only [afterSymbol] at h
    split at h <;> cases h
    rename_i heq
    rw [heq, bracketCount_cons] at hsettle
    rw [← hsettle]
    refine ⟨fun _ => Nat.succ_ne_zero _, ?_⟩
    simp [depth, bracketCount_cons, Opening.isBracket, Token.change]

theorem depth_next? (h : place.next? build t = .ok (some next)) :
    (t = .symbol .comma → place.depth ≠ 0) ∧ (next.depth : Int) = place.depth + t.change := by
  unfold next? at h
  split at h
  · have ho := depth_afterOperand (Except.ok.inj h)
    exact ⟨fun hc => absurd hc ho.1, ho.2⟩
  · cases h
  · rename_i found s _
    cases found with
    | error e => cases h
    | ok e =>
      have hs := depth_afterSymbol (Except.ok.inj h)
      exact ⟨fun hc => hs.1 (Token.symbol.inj hc), hs.2⟩
  · cases h
  · cases h
    exact ⟨nofun, (Int.add_zero _).symm⟩
  · cases h

theorem depth_finish? {e : α} (h : place.finish? build = .ok (some e)) : place.depth = 0 := by
  obtain ⟨openings, found, rfl, hs⟩ := finish?_eq_ok h
  have hsettle : bracketCount (settle build 0 openings found).1 = bracketCount openings :=
    bracketCount_settle 0 openings found
  rw [hs] at hsettle
  exact hsettle.symm

end Place

end

theorem IsBlank.unmarked {blanks : List Char} (h : IsBlank blanks) : ∀ c ∈ blanks, c ∉ marks := by
  intro c hc hm
  have hb := h c hc
  rw [(classes_of_mark hm).1] at hb
  cases hb

/-- A scan crosses the rest of an expression, and it finds every bracket closed. -/
theorem Reads.crosses {place : Place Expr} {rest : List Char} {e : Expr} (h : Reads place rest e) :
    Crosses place.depth rest 0 := by
  have hblanks (cs : List Char) (depth : Int) :
      Crosses depth (cs.takeWhile Text.isBlank) depth :=
    crosses_of_unmarked (IsBlank.unmarked fun c hc => List.mem_takeWhile_imp hc) depth
  induction h with
  | @ends place rest e hrest hfinish =>
    have hall : rest.takeWhile Text.isBlank = rest := by
      have happend := List.takeWhile_append_dropWhile (p := Text.isBlank) (l := rest)
      rwa [hrest, List.append_nil] at happend
    rw [Place.depth_finish? hfinish, ← hall]
    exact hblanks rest 0
  | @token place next rest left t e htake hnext _ ih =>
    obtain ⟨hlexical, hd⟩ := lexical_of_take? htake
    obtain ⟨hcomma, hdepth⟩ := Place.depth_next? hnext
    have ht : Crosses place.depth t.text.toList (place.depth + t.change) :=
      hlexical.crosses fun hc => by exact_mod_cast hcomma hc
    rw [← hdepth] at ht
    -- A scan crosses the blanks in front of the token, the token, and then the rest.
    rw [← List.takeWhile_append_dropWhile (p := Text.isBlank) (l := rest), hd]
    exact (hblanks rest _).append (ht.append ih)

/-! ## Lists -/

/-- The text without the blanks around it. -/
def trimmed (text : String) : String := String.ofList (Text.trim text.toList)

theorem argumentText_reverse (text : String) : argumentText text.toList.reverse = trimmed text := by
  rw [argumentText, List.reverse_reverse, trimmed]

theorem splitFrom_intercalate {texts : List String} (hne : texts ≠ [])
    (h : ∀ text ∈ texts, Crosses 0 text.toList 0) :
    splitFrom [] 0 .outside (",".intercalate texts).toList = texts.map trimmed := by
  induction texts with
  | nil => exact absurd rfl hne
  | cons text rest ih =>
    obtain ⟨htext, hrest⟩ := List.forall_mem_cons.mp h
    have hend := argumentText_reverse text
    cases rest with
    | nil =>
      have hcross := htext [] []
      rw [List.append_nil, List.append_nil] at hcross
      rw [String.intercalate_singleton, hcross, splitFrom, hend]
      rfl
    | cons next rest =>
      have hcross := htext [] (',' :: (",".intercalate (next :: rest)).toList)
      have hcomma : (',' = ',' && (0 : Int) = 0) = true := by decide
      rw [List.append_nil] at hcross
      have hc : ",".toList = [','] := rfl
      rw [String.intercalate_cons_cons, String.toList_append, String.toList_append,
        List.append_assoc, hc, List.singleton_append, hcross, splitFrom, hcomma, if_pos rfl,
        ih (List.cons_ne_nil _ _) hrest, hend]
      rfl

variable {blanks : List Char}

theorem splitFrom_blanks (hb : IsBlank blanks) (passed : List Char) (depth : Int)
    (quoting : Quoting) : splitFrom passed depth quoting blanks = [argumentText passed] := by
  induction blanks generalizing passed depth quoting with
  | nil => rw [splitFrom]
  | cons c rest ih =>
    obtain ⟨hc, hrest⟩ := List.forall_mem_cons.mp hb
    have hlast : argumentText (c :: passed) = argumentText passed := by
      have hsole : IsBlank [c] := List.forall_mem_singleton.mpr hc
      rw [argumentText, List.reverse_cons, trim_append_blanks hsole, argumentText]
    cases quoting with
    | inside quote escaped => rw [splitFrom, ih hrest, hlast]
    | outside =>
      have hcomma : c ≠ ',' := by
        rintro rfl
        exact absurd hc (by decide)
      have hcut : (c = ',' && depth = 0) = false := by simp [hcomma]
      rw [splitFrom, hcut, if_neg Bool.false_ne_true, ih hrest, hlast]

theorem splitFrom_append_blanks (hb : IsBlank blanks) (cs passed : List Char) (depth : Int)
    (quoting : Quoting) :
    splitFrom passed depth quoting (cs ++ blanks) = splitFrom passed depth quoting cs := by
  induction cs generalizing passed depth quoting with
  | nil => rw [List.nil_append, splitFrom_blanks hb, splitFrom]
  | cons c cs ih =>
    rw [List.cons_append]
    cases quoting with
    | inside quote escaped => rw [splitFrom, splitFrom, ih]
    | outside => simp only [splitFrom, ih]

theorem splitFrom_passed_append (hb : IsBlank blanks) (cs passed : List Char) (depth : Int)
    (quoting : Quoting) :
    splitFrom (passed ++ blanks.reverse) depth quoting cs = splitFrom passed depth quoting cs := by
  have hend (passed : List Char) :
      argumentText (passed ++ blanks.reverse) = argumentText passed := by
    rw [argumentText, List.reverse_append, List.reverse_reverse, trim_blanks_append hb,
      argumentText]
  induction cs generalizing passed depth quoting with
  | nil => rw [splitFrom, splitFrom, hend]
  | cons c cs ih =>
    cases quoting with
    | inside quote escaped => rw [splitFrom, splitFrom, ← List.cons_append, ih]
    | outside => simp only [splitFrom, hend, ← List.cons_append, ih]

theorem trim_trimmed (cs : List Char) : Text.trim (Text.trim cs) = Text.trim cs := by
  obtain ⟨before, after, hb, ha, he⟩ := exists_trim cs
  have ht := congrArg Text.trim he
  rwa [trim_blanks_append hb, trim_append_blanks ha, eq_comm] at ht

theorem splitArguments_trimmed (text : String) :
    splitArguments (trimmed text) = splitArguments text := by
  rw [splitArguments, splitArguments, trimmed, String.toList_ofList, trim_trimmed]
  split
  · rfl
  · obtain ⟨before, after, hb, ha, he⟩ := exists_trim text.toList
    have hbefore : Crosses 0 before 0 := crosses_of_unmarked hb.unmarked 0
    have hall := congrArg (splitFrom [] 0 .outside) he
    rw [hbefore, splitFrom_append_blanks ha, List.append_nil] at hall
    exact (hall.trans (splitFrom_passed_append hb _ [] _ _)).symm

open Markdown (Node)

theorem crosses_of_parse {texts : List String} {es : List Expr}
    (h : List.Forall₂ (fun text e => Expr.parse text = .ok e) texts es) :
    ∀ text ∈ texts, Crosses 0 text.toList 0 := by
  induction h with
  | nil => nofun
  | cons he _ ih => exact List.forall_mem_cons.mpr ⟨(Expr.parse_eq_ok_iff.mp he).crosses, ih⟩

theorem subset_intercalate (text : String) (rest : List String) :
    text.toList ⊆ (",".intercalate (text :: rest)).toList := by
  cases rest with
  | nil =>
    rw [String.intercalate_singleton]
    exact List.Subset.refl _
  | cons next rest =>
    rw [String.intercalate_cons_cons, String.toList_append, String.toList_append, List.append_assoc]
    exact List.subset_append_left _ _

theorem trim_intercalate_ne_nil {texts : List String} {es : List Expr} (hne : texts ≠ [])
    (h : List.Forall₂ (fun text e => Expr.parse text = .ok e) texts es) :
    Text.trim (",".intercalate texts).toList ≠ [] := by
  cases h with
  | nil => exact absurd rfl hne
  | @cons text e rest es he hrest =>
    intro ht
    have hall := List.dropWhile_eq_nil_iff.mp (Expr.dropWhile_of_trim ht)
    have hblank : IsBlank text.toList := fun c hc => hall c (subset_intercalate text rest hc)
    have htrim : Text.trim text.toList = [] := trim_append_blanks hblank []
    rw [Expr.parse, if_pos htrim] at he
    cases he

theorem mapM_parseAt {line : Line} {texts : List String} {es : List Expr}
    (h : List.Forall₂ (fun text e => Expr.parse text = .ok e) texts es) :
    (texts.map trimmed).mapM (parseAt line) = .ok es := by
  induction h with
  | nil => rfl
  | cons he _ ih =>
    rw [List.map_cons, List.mapM_cons, ih, parseAt, trimmed, parse_trim he]
    rfl

/-- Texts of expressions with commas between them are divided at these commas and at no others. So a
paragraph that is a link with such a list calls with the expressions, in order. -/
theorem arguments_of_intercalate {texts : List String} {es : List Expr} (hne : texts ≠ [])
    (hparse : List.Forall₂ (fun text e => Expr.parse text = .ok e) texts es) :
    splitArguments (",".intercalate texts) = texts.map trimmed ∧
      ∀ (outline : Outline) (draft : Draft) (node link : Node) (url : String),
        outline.current = some draft → node.content = .paragraph →
        (node.children.filter fun child => !child.isBlankText) = [link] →
        link.content = .link url → link.collectText = (",".intercalate texts).toList →
        outline.add node = .ok (outline.withDraft (draft.push
          (.call (readTarget url).2 (readTarget url).1 es node.line))) := by
  have hsplit : splitArguments (",".intercalate texts) = texts.map trimmed := by
    rw [splitArguments, if_neg (trim_intercalate_ne_nil hne hparse),
      splitFrom_intercalate hne (crosses_of_parse hparse)]
  refine ⟨hsplit, ?_⟩
  intro outline draft node link url hdraft hnode hchildren hlink htext
  have hplain : link.plainText = trimmed (",".intercalate texts) := by
    rw [Node.plainText, htext, trimmed]
  have hcall : readCall node.line url link.plainText =
      .ok (.call (readTarget url).2 (readTarget url).1 es node.line) := by
    rw [readCall, hplain, splitArguments_trimmed, hsplit, mapM_parseAt hparse]
    rfl
  have hread : readParagraph node =
      .ok (some (.call (readTarget url).2 (readTarget url).1 es node.line)) := by
    simp only [readParagraph, hchildren, hlink, hcall]
    rfl
  have hheading : ¬ node.content = .heading (some 1) := by
    rw [hnode]
    nofun
  rw [Outline.add, if_neg hheading, hdraft]
  simp only [Outline.addToDraft, hnode, hread]
  rfl

/-- The first one has two commas, one of them with a parenthesis in a string. -/
def callTexts : List String := ["f(a, 'x,)')", " b[1] "]

def callArguments : List Expr :=
  [.call (.variableName "f")
    [.variableName "a", .literal (.string "x,)") (some "'x,)'")],
   .index (.variableName "b") (.literal (.number (.int 1)) (some "1"))]

def callLink : Node := .inlined (.link "#g") [.inlined (.text "f(a, 'x,)'), b[1] ") []]

theorem parse_callTexts :
    List.Forall₂ (fun text e => Expr.parse text = .ok e) callTexts callArguments := by
  refine .cons ?_ (.cons ?_ .nil)
  · rw [Expr.parse_eq_ok_iff]
    apply Reads.token (t := .name "f") rfl rfl
    apply Reads.token (t := .symbol .openParen) rfl rfl
    apply Reads.token (t := .name "a") rfl rfl
    apply Reads.token (t := .symbol .comma) rfl rfl
    apply Reads.token (t := .string "x,)" "'x,)'") rfl rfl
    apply Reads.token (t := .symbol .closeParen) rfl rfl
    exact .ends rfl rfl
  · rw [Expr.parse_eq_ok_iff]
    apply Reads.token (t := .name "b") rfl rfl
    apply Reads.token (t := .symbol .openBracket) rfl rfl
    apply Reads.token (t := .number ⟨[1], false, [], none⟩ "1") rfl rfl
    apply Reads.token (t := .symbol .closeBracket) rfl rfl
    exact .ends rfl rfl

def callParagraph : Node := .mk .paragraph (some 3) [callLink]

def callOutline : Outline := ⟨[], some (.ofName "main"), []⟩

theorem arguments_of_callTexts :
    List.Forall₂ (fun text e => Expr.parse text = .ok e) callTexts callArguments ∧
      splitArguments "f(a, 'x,)'), b[1] " = ["f(a, 'x,)')", "b[1]"] ∧
      callOutline.add callParagraph = .ok (callOutline.withDraft
        ((Draft.ofName "main").push (.call "g" none callArguments (some 3)))) := by
  have h := arguments_of_intercalate (List.cons_ne_nil _ _) parse_callTexts
  have htarget : readTarget "#g" = (none, "g") := rfl
  have hadd := h.2 callOutline (.ofName "main") callParagraph callLink "#g" rfl rfl rfl rfl rfl
  rw [htarget] at hadd
  exact ⟨parse_callTexts, h.1, hadd⟩

end DocScript
