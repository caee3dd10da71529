import DocScript.Expr.Eval
import DocScript.Proofs.Number.Clamping
import DocScript.Proofs.Value.Writable

/-! # Forms of integers

A safe integer can be held as an integer or as a float, and zero as a float of either sign. No
expression tells the forms apart: operators clamp the numbers that they are given, and comparisons,
texts and the look-up of members go by the value alone.
-/

namespace DocScript

namespace Number

variable {m n : Number} {k : Int}

theorem value?_eq_of_toInt? (hm : m.toInt? = some k) (hn : n.toInt? = some k) :
    m.value? = n.value? :=
  (toInt?_eq_some_iff.mp hm).trans (toInt?_eq_some_iff.mp hn).symm

/-- Numbers of one value compare alike with all others. -/
theorem same_eq (h : m.value? = n.value?) : m.same = n.same := by
  funext other
  rw [same, h, same]

theorem same_comm (m n : Number) : m.same n = n.same m := by
  unfold same
  cases m.value? <;> cases n.value? <;> simp [eq_comm]

/-- A safe integer has the same text in all its forms. -/
theorem textChars_of_toInt? (h : n.toInt? = some k) (hk : k.natAbs ≤ maxSafe) :
    n.textChars = intChars k := by
  have hlt : k.natAbs < firstUnwritten := lt_of_le_of_lt hk (by decide)
  cases n with
  | int n =>
    cases h
    rfl
  | float x =>
    have hx : x.toInt? = some k := h
    cases x with
    | nan | infinite => cases hx
    | zero | finite => simp only [textChars, hx, hlt, if_true]

end Number

/-- Whether two values are the same, or two forms of a safe integer. -/
inductive Value.Matches : Value → Value → Prop
  | refl (value : Value) : Matches value value
  | forms {m n : Number} {k : Int} (hm : m.toInt? = some k) (hn : n.toInt? = some k)
      (hk : k.natAbs ≤ maxSafe) : Matches (.number m) (.number n)

/-- Whether two keys are the same, or two forms of a safe integer. -/
inductive Key.Matches : Key → Key → Prop
  | refl (key : Key) : Matches key key
  | forms {m n : Number} {k : Int} (hm : m.toInt? = some k) (hn : n.toInt? = some k)
      (hk : k.natAbs ≤ maxSafe) : Matches (.number m) (.number n)

/-- Two computations have related results, or fail in ways that are related. -/
inductive Result.Related {α β : Type} (F : Failure → Failure → Prop) (R : α → β → Prop) :
    Result α → Result β → Prop
  | ok {a : α} {b : β} (h : R a b) : Related F R (.ok a) (.ok b)
  | error {failure failure' : Failure} (h : F failure failure') :
      Related F R (.error failure) (.error failure')

namespace Result.Related

variable {α β γ δ : Type} {F : Failure → Failure → Prop} {R : α → β → Prop} {S : γ → δ → Prop}
  {result : Result α} {result' : Result β}

theorem bind (h : Related F R result result') {f : α → Result γ} {g : β → Result δ}
    (hf : ∀ a b, R a b → Related F S (f a) (g b)) :
    Related F S (result >>= f) (result' >>= g) := by
  cases h with
  | ok h => exact hf _ _ h
  | error h => exact .error h

theorem refl {R : α → α → Prop} (hf : ∀ failure, F failure failure) (hr : ∀ a, R a a)
    (result : Result α) : Related F R result result := by
  cases result with
  | ok a => exact .ok (hr a)
  | error failure => exact .error (hf failure)

theorem mono (h : Related F R result result') {R' : α → β → Prop} (hr : ∀ a b, R a b → R' a b) :
    Related F R' result result' := by
  cases h with
  | ok h => exact .ok (hr _ _ h)
  | error h => exact .error h

theorem ok_or_error (h : Related F R result result') :
    (∃ a b, result = .ok a ∧ result' = .ok b ∧ R a b) ∨
      ∃ failure failure', result = .error failure ∧ result' = .error failure' ∧
        F failure failure' := by
  cases h with
  | ok h => exact .inl ⟨_, _, rfl, rfl, h⟩
  | error h => exact .inr ⟨_, _, rfl, rfl, h⟩

theorem bind_eq (h : Related Eq R result result') {f : α → Result γ} {g : β → Result γ}
    (hf : ∀ a b, R a b → f a = g b) : result >>= f = result' >>= g := by
  cases h with
  | ok h => exact hf _ _ h
  | error h => exact congrArg Except.error h

end Result.Related

namespace Value

variable {v v' w w' : Value}

namespace Matches

theorem kind (h : v.Matches w) : v.kind = w.kind := by
  cases h <;> rfl

theorem isString (h : v.Matches w) : v.isString = w.isString := by
  cases h <;> rfl

theorem truthy (h : v.Matches w) : v.truthy = w.truthy := by
  cases h with
  | refl => rfl
  | @forms m n k hm hn _ =>
    have hv := Number.value?_eq_of_toInt? hm hn
    have hnan : m.isNaN = n.isNaN := by
      rw [Bool.eq_iff_iff, Number.isNaN_iff, Number.isNaN_iff, hv]
    have hzero : m.isZero = n.isZero := by
      rw [Bool.eq_iff_iff, Number.isZero_iff, Number.isZero_iff, hv]
    simp only [Value.truthy, hnan, hzero]

theorem text (h : v.Matches w) : v.text = w.text := by
  cases h with
  | refl => rfl
  | @forms m n k hm hn hk =>
    have htext (n : Number) : (Value.number n).text = Points.ofChars n.textChars := rfl
    rw [htext, htext, Number.textChars_of_toInt? hm hk, Number.textChars_of_toInt? hn hk]

theorem written (h : v.Matches w) : v.written = w.written := by
  cases h with
  | refl => rfl
  | @forms m n k hm hn hk =>
    have hsafe {n : Number} (hn : n.toInt? = some k) : n.IsSafe := by
      cases n with
      | int n => cases hn; exact hk
      | float x => trivial
    rw [written_of_isWritable (isSafe_number.mpr (hsafe hm)).isWritable,
      written_of_isWritable (isSafe_number.mpr (hsafe hn)).isWritable, (forms hm hn hk).text]

theorem expectNumber (h : v.Matches w) (context : String) (line : Line) :
    v.expectNumber context line = w.expectNumber context line := by
  cases h with
  | refl => rfl
  | forms hm hn hk =>
    simp only [Value.expectNumber, Number.clamp_eq_int_iff.mpr ⟨hm, hk⟩,
      Number.clamp_eq_int_iff.mpr ⟨hn, hk⟩]

theorem expectKey (h : v.Matches w) (context : String) (line : Line) :
    Result.Related Eq Key.Matches (v.expectKey context line) (w.expectKey context line) := by
  cases h with
  | refl => exact .refl Eq.refl .refl _
  | forms hm hn hk => exact .ok (.forms hm hn hk)

theorem looseEquals_left (h : v.Matches w) (other : Value) :
    v.looseEquals other = w.looseEquals other := by
  cases h with
  | refl => rfl
  | forms hm hn _ =>
    have hs := Number.same_eq (Number.value?_eq_of_toInt? hm hn)
    cases other with
    | string s =>
      cases ht : Result.numberOfText? s <;>
        simp [looseEquals, Value.isScalar, Value.kind, comparand?, ht, hs, bind, Except.bind,
          Except.map]
    | none | bool | number | list | record =>
      simp [looseEquals, Value.isScalar, Value.kind, comparand?, isSameObject, identity?, hs, bind,
        Except.bind]

theorem strictEquals_left (h : v.Matches w) (other : Value) :
    v.strictEquals other = w.strictEquals other := by
  cases h with
  | refl => rfl
  | forms hm hn _ =>
    have hs := Number.same_eq (Number.value?_eq_of_toInt? hm hn)
    cases other <;> simp [strictEquals, isSameObject, identity?, hs]

end Matches

theorem isSameObject_comm (v w : Value) : v.isSameObject w = w.isSameObject v := by
  unfold isSameObject
  cases v.identity? <;> cases w.identity? <;> simp [eq_comm]

theorem strictEquals_comm (v w : Value) : v.strictEquals w = w.strictEquals v := by
  cases v <;> cases w <;>
    simp [strictEquals, isSameObject_comm, Number.same_comm, eq_comm]

theorem looseEquals_comm (v w : Value) : v.looseEquals w = w.looseEquals v := by
  have hs := fun m n : Number => m.same_comm n
  cases v <;> cases w
  case string.bool s _ | string.number s _ | bool.string _ s | number.string _ s =>
    rcases ht : Result.numberOfText? s with _ | _ | _ <;>
      simp [looseEquals, isScalar, kind, comparand?, ht, bind, Except.bind, Except.map, hs]
  all_goals
    simp [looseEquals, isScalar, kind, isSameObject_comm, comparand?, bind, Except.bind, eq_comm,
      hs]

namespace Matches

theorem looseEquals (hv : v.Matches v') (hw : w.Matches w') :
    v.looseEquals w = v'.looseEquals w' := by
  rw [hv.looseEquals_left, looseEquals_comm, hw.looseEquals_left, looseEquals_comm]

theorem strictEquals (hv : v.Matches v') (hw : w.Matches w') :
    v.strictEquals w = v'.strictEquals w' := by
  rw [hv.strictEquals_left, strictEquals_comm, hw.strictEquals_left, strictEquals_comm]

end Matches

/-! ## Members -/

theorem find?_of_matches {key key' : Key} (h : key.Matches key') (fields : List Field) :
    Field.find? key fields = Field.find? key' fields := by
  cases h with
  | refl => rfl
  | @forms m n k hm hn _ =>
    have hs (other : Key) : other.same (.number m) = other.same (.number n) := by
      cases other with
      | text => rfl
      | number other =>
        rw [Key.same, Key.same, Number.same_comm,
          Number.same_eq (Number.value?_eq_of_toInt? hm hn), Number.same_comm]
    induction fields with
    | nil => rfl
    | cons field rest ih => rw [Field.find?, Field.find?, hs, ih]

theorem itemAt?_of_toInt? {α : Type} {m n : Number} (h : m.toInt? = n.toInt?) (items : List α) :
    itemAt? items m = itemAt? items n := by
  rw [itemAt?, h, itemAt?]

/-- The forms of an integer have one text as keys. -/
theorem keyText_of_matches {key key' : Key} (h : key.Matches key') :
    keyText key = keyText key' := by
  cases h with
  | refl => rfl
  | forms hm hn hk => exact (Matches.forms hm hn hk).written

/-- The forms of an integer select one point, one item and one field. -/
theorem member_eq {key key' : Key} (h : key.Matches key') (object : Value) :
    object.member key = object.member key' := by
  cases object with
  | none | bool | number => rfl
  | string s =>
    cases h with
    | refl => rfl
    | forms hm hn _ =>
      rw [member, pointMember, itemAt?_of_toInt? (hm.trans hn.symm), member, pointMember]
  | list identity items =>
    cases h with
    | refl => rfl
    | forms hm hn _ =>
      rw [member, itemMember, itemAt?_of_toInt? (hm.trans hn.symm), member, itemMember]
  | record identity fields =>
    rw [member, fieldMember, find?_of_matches h, keyText_of_matches h, member, fieldMember]

theorem Matches.member (hv : v.Matches v') {key key' : Key} (hk : key.Matches key') :
    v.member key = v'.member key' := by
  cases hv with
  | refl => exact member_eq hk v
  | forms => rfl

end Value

/-! ## Operators -/

section Operators

variable {v v' w w' : Value} (hv : v.Matches v') (hw : w.Matches w') (line : Line)

include hv

theorem UnaryOp.apply_eq (op : UnaryOp) : op.apply v line = op.apply v' line := by
  cases op <;> simp only [apply, hv.truthy, hv.expectNumber]

include hw

theorem OperandNames.numbers_eq (names : OperandNames) :
    names.numbers v w line = names.numbers v' w' line := by
  simp only [numbers, hv.expectNumber, hw.expectNumber]

theorem Operator.applyNamed_eq (op : Operator) (names : OperandNames) :
    op.applyNamed names v w line = op.applyNamed names v' w' line := by
  cases op with
  | add =>
    simp only [applyNamed, hv.isString, hw.isString, hv.written, hw.written, OperandNames.compute,
      names.numbers_eq hv hw]
  | sub | mul | div | mod =>
    simp only [applyNamed, OperandNames.compute, names.numbers_eq hv hw]
  | lt | gt | le | ge =>
    simp only [applyNamed, OperandNames.compare, names.numbers_eq hv hw]
  | eq | ne => simp only [applyNamed, hv.looseEquals hw]
  | strictEq | strictNe => simp only [applyNamed, hv.strictEquals hw]

end Operators

/-! ## Expressions -/

section Evaluation

variable {lookup lookup' : String → Value} (h : ∀ name, (lookup name).Matches (lookup' name))
  (line : Line)

include h

theorem Expr.eval_matches (e : Expr) :
    Result.Related Eq Value.Matches (e.eval lookup line) (e.eval lookup' line) := by
  fun_induction Expr.eval lookup line e with
  | case1 literal => exact .ok (.refl literal)
  | case2 name => exact .ok (h name)
  | case3 left right ihleft ihright =>
    rw [Expr.eval]
    apply ihleft.bind
    intro v w hvw
    rw [hvw.truthy]
    split
    · exact ihright
    · exact .ok hvw
  | case4 left right ihleft ihright =>
    rw [Expr.eval]
    apply ihleft.bind
    intro v w hvw
    rw [hvw.truthy]
    split
    · exact .ok hvw
    · exact ihright
  | case5 op left right ihleft ihright =>
    rw [Expr.eval]
    apply ihleft.bind
    intro v v' hv
    apply ihright.bind
    intro w w' hw
    rw [Operator.apply, op.applyNamed_eq hv hw]
    exact .refl Eq.refl .refl _
  | case6 op operand ih =>
    rw [Expr.eval]
    apply ih.bind
    intro v v' hv
    rw [op.apply_eq hv]
    exact .refl Eq.refl .refl _
  | case7 object name ih =>
    rw [Expr.eval]
    apply ih.bind
    intro v v' hv
    rw [hv.member (.refl _)]
    exact .refl Eq.refl .refl _
  | case8 object key ihobject ihkey =>
    rw [Expr.eval]
    apply ihobject.bind
    intro v v' hv
    apply ihkey.bind
    intro w w' hw
    apply (hw.expectKey _ _).bind
    intro k k' hk
    rw [hv.member hk]
    exact .refl Eq.refl .refl _
  | case9 callee arguments => exact .error rfl

theorem TemplatePart.eval_eq (part : TemplatePart) :
    part.eval lookup line = part.eval lookup' line := by
  cases part with
  | text literal => rfl
  | expr e => exact (e.eval_matches h line).bind_eq fun _ _ hvw => hvw.written

theorem Template.eval_eq (template : Template) :
    template.eval lookup line = template.eval lookup' line := by
  have hp : TemplatePart.eval lookup line = TemplatePart.eval lookup' line :=
    funext fun part => part.eval_eq h line
  rw [Template.eval, hp, Template.eval]

end Evaluation

end DocScript
