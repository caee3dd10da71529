import DocScript.Proofs.Expr.Reads
import DocScript.Proofs.Value.Safe

/-! # Literals

Numerals are clamped when they are read. So what the literals of an expression stand for is safe,
at every place of reading and at its end.
-/

namespace DocScript

/-- Whether the literals of an expression stand for values with a property. Calls have no value at
all. -/
def Expr.Holds (P : Value → Prop) : Expr → Prop
  | .literal value _ => P value
  | .variableName _ => True
  | .binary _ left right => left.Holds P ∧ right.Holds P
  | .unary _ operand => operand.Holds P
  | .member object _ => object.Holds P
  | .index object key => object.Holds P ∧ key.Holds P
  | .call _ _ => True

theorem Expr.Holds.mono {P Q : Value → Prop} (hpq : ∀ value, P value → Q value) {e : Expr}
    (h : e.Holds P) : e.Holds Q := by
  fun_induction Expr.Holds P e with
  | case1 value => exact hpq value h
  | case2 | case7 => trivial
  | case3 op left right ihleft ihright => exact ⟨ihleft h.1, ihright h.2⟩
  | case4 op operand ih => exact ih h
  | case5 object name ih => exact ih h
  | case6 object key ihobject ihkey => exact ⟨ihobject h.1, ihkey h.2⟩

/-- Whether the literals of an expression stand for safe values. -/
abbrev Expr.IsSafe (e : Expr) : Prop := e.Holds Value.IsSafe

/-- Whether the operands that an opening holds are safe. -/
def Opening.IsSafe : Opening Expr → Prop
  | .binary _ left => left.IsSafe
  | .unary _ => True
  | .group => True
  | .index object => object.IsSafe
  | .arguments _ _ => True

def Place.IsSafe : Place Expr → Prop
  | .operand openings _ => ∀ opening ∈ openings, opening.IsSafe
  | .operator openings found =>
    (∀ opening ∈ openings, opening.IsSafe) ∧ ∀ e, found = .ok e → e.IsSafe
  | .memberName openings object => (∀ opening ∈ openings, opening.IsSafe) ∧ object.IsSafe

variable {openings : List (Opening Expr)} {e : Expr}

theorem isSafe_ofName (name : String) : (Expr.ofName name).IsSafe := by
  unfold Expr.ofName
  split_ifs
  · exact Value.isSafe_bool true
  · exact Value.isSafe_bool false
  · exact Value.isSafe_none
  · trivial

theorem isSafe_ofNumeral {numeral : Numeral} {source : String}
    (h : Expr.ofNumeral numeral source = .ok e) : e.IsSafe := by
  cases hv : numeral.value false with
  | error e => rw [Expr.ofNumeral, hv] at h; cases h
  | ok n =>
    rw [Expr.ofNumeral, hv] at h
    cases h
    apply Value.isSafe_number.mpr
    split
    · exact Numeral.isSafe_value hv
    · exact Number.isSafe_clamp n

theorem isSafe_settle (level : Nat) (ho : ∀ opening ∈ openings, opening.IsSafe) (he : e.IsSafe) :
    (∀ opening ∈ (settle Expr.builder level openings e).1, opening.IsSafe) ∧
      (settle Expr.builder level openings e).2.IsSafe := by
  fun_induction settle Expr.builder level openings e with
  | case1 e op rest ih =>
    obtain ⟨-, hrest⟩ := List.forall_mem_cons.mp ho
    exact ih hrest he
  | case2 e op left rest hl ih =>
    obtain ⟨hleft, hrest⟩ := List.forall_mem_cons.mp ho
    exact ih hrest ⟨hleft, he⟩
  | case3 | case4 => exact ⟨ho, he⟩

namespace Place

variable {place next : Place Expr} {t : Token}

theorem isSafe_operator (ho : ∀ opening ∈ openings, opening.IsSafe) (he : e.IsSafe) :
    (Place.operator openings (.ok e)).IsSafe := by
  refine ⟨ho, ?_⟩
  rintro _ ⟨⟩
  exact he

theorem isSafe_afterOperand (ho : ∀ opening ∈ openings, opening.IsSafe) {mayClose : Bool}
    (h : afterOperand Expr.builder openings mayClose t = some next) : next.IsSafe := by
  have hopen {opening : Opening Expr} (hf : opening.IsSafe) :
      ∀ other ∈ opening :: openings, other.IsSafe := List.forall_mem_cons.mpr ⟨hf, ho⟩
  unfold afterOperand at h
  split at h
  case h_1 name =>
    cases h
    exact isSafe_operator ho (isSafe_ofName name)
  case h_2 =>
    cases h
    exact ⟨ho, fun e he => isSafe_ofNumeral he⟩
  case h_3 =>
    cases h
    exact isSafe_operator ho (Value.isSafe_string _)
  case h_8 =>
    split at h <;> cases h
    obtain ⟨-, hrest⟩ := List.forall_mem_cons.mp ho
    exact isSafe_operator hrest trivial
  case h_9 => cases h
  all_goals
    cases h
    exact hopen trivial

theorem isSafe_afterSymbol (ho : ∀ opening ∈ openings, opening.IsSafe) (he : e.IsSafe) {s : Symbol}
    (h : afterSymbol Expr.builder openings e s = some next) : next.IsSafe := by
  obtain ⟨hrest, hsettled⟩ := isSafe_settle 0 ho he
  cases s with
  | binary op =>
    cases h
    obtain ⟨hrest, hsettled⟩ := isSafe_settle op.level ho he
    exact List.forall_mem_cons.mpr ⟨hsettled, hrest⟩
  | not => cases h
  | dot =>
    cases h
    exact ⟨ho, he⟩
  | openBracket =>
    cases h
    exact List.forall_mem_cons.mpr ⟨he, ho⟩
  | openParen =>
    cases h
    exact List.forall_mem_cons.mpr ⟨trivial, ho⟩
  | closeParen =>
    simp only [afterSymbol] at h
    split at h
    · rename_i heq
      rw [heq] at hrest hsettled
      cases h
      exact isSafe_operator (List.forall_mem_cons.mp hrest).2 hsettled
    · rename_i heq
      rw [heq] at hrest
      cases h
      exact isSafe_operator (List.forall_mem_cons.mp hrest).2 trivial
    · cases h
  | closeBracket =>
    simp only [afterSymbol] at h
    split at h
    · rename_i heq
      rw [heq] at hrest hsettled
      cases h
      obtain ⟨hobject, hrest⟩ := List.forall_mem_cons.mp hrest
      exact isSafe_operator hrest ⟨hobject, hsettled⟩
    · cases h
  | comma =>
    simp only [afterSymbol] at h
    split at h
    · rename_i heq
      rw [heq] at hrest
      cases h
      exact List.forall_mem_cons.mpr ⟨trivial, (List.forall_mem_cons.mp hrest).2⟩
    · cases h

theorem IsSafe.next? (hp : place.IsSafe) (h : place.next? Expr.builder t = .ok (some next)) :
    next.IsSafe := by
  unfold Place.next? at h
  split at h
  · exact isSafe_afterOperand hp (Except.ok.inj h)
  · cases h
  · rename_i openings found s _
    cases found with
    | error e => cases h
    | ok e => exact isSafe_afterSymbol hp.1 (hp.2 e rfl) (Except.ok.inj h)
  · cases h
  · cases h
    exact isSafe_operator hp.1 hp.2
  · cases h

theorem IsSafe.finish? (hp : place.IsSafe) (h : place.finish? Expr.builder = .ok (some e)) :
    e.IsSafe := by
  obtain ⟨openings, found, rfl, hs⟩ := finish?_eq_ok h
  have hsettled := (isSafe_settle 0 hp.1 (hp.2 found rfl)).2
  rwa [hs] at hsettled

end Place

theorem Reads.isSafe {place : Place Expr} {rest : List Char} (h : Reads place rest e)
    (hp : place.IsSafe) : e.IsSafe := by
  induction h with
  | ends _ hfinish => exact hp.finish? hfinish
  | token _ hnext _ ih => exact ih (hp.next? hnext)

/-- What is read has safe literals. -/
theorem isSafe_of_parse {text : String} (h : Expr.parse text = .ok e) : e.IsSafe :=
  (Expr.parse_eq_ok_iff.mp h).isSafe nofun

end DocScript
