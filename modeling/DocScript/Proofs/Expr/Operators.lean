import DocScript.Expr.Eval
import DocScript.Proofs.Text.Points
import DocScript.Proofs.Value.Writable

/-! # How operators end

An operator ends in a value, or it complains that an operand that it takes to a number denotes none,
or it meets an integer over the limit: one that it reads in an operand that is a numeral, or one
that is in an operand that it joins to a text or complains about. No size of a number makes it fail
otherwise, and neither does a zero, an infinity or NaN.
-/

namespace DocScript

/-- What a value denotes as a number. -/
def Value.number? : Value → Result (Option Number)
  | .number n => .ok (some n.clamp)
  | .string s => Result.numberOfText? s
  | _ => .ok Option.none

/-- What a computation does with operands: it asks some for numbers, reads the texts of some as
numerals, and writes some as texts. -/
structure Uses where
  asked : List Value
  read : List Value
  written : List Value

namespace Uses

/-- Whether operands are used in these ways and perhaps in others. -/
structure Within (uses uses' : Uses) : Prop where
  asked : uses.asked ⊆ uses'.asked
  read : uses.read ⊆ uses'.read
  written : uses.written ⊆ uses'.written

/-- Nothing is asked of any operand. -/
def none : Uses := ⟨[], [], []⟩

/-- Some operands are taken to numbers. -/
def ofNumbers (operands : List Value) : Uses := ⟨operands, operands, []⟩

/-- Some operands are compared as numbers, if they denote some. -/
def ofComparands (operands : List Value) : Uses := ⟨[], operands, []⟩

/-- Some operands are joined to texts. -/
def ofTexts (operands : List Value) : Uses := ⟨[], [], operands⟩

theorem Within.refl (uses : Uses) : uses.Within uses :=
  ⟨List.Subset.refl _, List.Subset.refl _, List.Subset.refl _⟩

variable {operands operands' : List Value}

theorem within_ofNumbers (h : operands ⊆ operands') :
    (ofNumbers operands).Within (ofNumbers operands') :=
  ⟨h, h, List.Subset.refl _⟩

theorem within_ofComparands (h : operands ⊆ operands') :
    (ofComparands operands).Within (ofComparands operands') :=
  ⟨List.Subset.refl _, h, List.Subset.refl _⟩

theorem within_ofTexts (h : operands ⊆ operands') :
    (ofTexts operands).Within (ofTexts operands') :=
  ⟨List.Subset.refl _, List.Subset.refl _, h⟩

end Uses

/-- How a computation at a line ends that uses operands in some ways. -/
inductive Ends (uses : Uses) (line : Line) {α : Type} (P : α → Prop) : Result α → Prop where
  | value {a : α} (h : P a) : Ends uses line P (.ok a)
  | notNumber {operand : Value} (context : String) (hasked : operand ∈ uses.asked)
      (hnone : operand.number? = .ok Option.none) (hwritable : operand.isWritable = true) :
      Ends uses line P (.error ((Cause.notNumber context operand).failure line))
  | tooManyDigits {text : String} {digits : Nat} (hread : .string text ∈ uses.read)
      (hlong : IsOverlong text digits) :
      Ends uses line P (.error (.fault (.tooManyDigits digits)))
  /-- The operand is to be written, be it because it denotes no number. -/
  | unwritable {operand : Value} (hwritten : operand ∈ uses.written ∨
        operand ∈ uses.asked ∧ operand.number? = .ok Option.none)
      (hlong : operand.isWritable = false) : Ends uses line P (.error (.fault .unwritable))

namespace Ends

variable {α β : Type} {uses uses' : Uses} {line : Line} {P P' : α → Prop} {Q : β → Prop}
  {result : Result α}

theorem bind (h : Ends uses line P result) {f : α → Result β}
    (hf : ∀ a, P a → Ends uses line Q (f a)) : Ends uses line Q (result >>= f) := by
  cases h with
  | value h => exact hf _ h
  | notNumber context hasked hnone hwritable => exact .notNumber context hasked hnone hwritable
  | tooManyDigits hread hlong => exact .tooManyDigits hread hlong
  | unwritable hwritten hlong => exact .unwritable hwritten hlong

theorem map (h : Ends uses line P result) {f : α → β} (hf : ∀ a, P a → Q (f a)) :
    Ends uses line Q (result.map f) := by
  cases h with
  | value h => exact .value (hf _ h)
  | notNumber context hasked hnone hwritable => exact .notNumber context hasked hnone hwritable
  | tooManyDigits hread hlong => exact .tooManyDigits hread hlong
  | unwritable hwritten hlong => exact .unwritable hwritten hlong

theorem mono (h : Ends uses line P result) (hu : uses.Within uses') (hp : ∀ a, P a → P' a) :
    Ends uses' line P' result := by
  cases h with
  | value h => exact .value (hp _ h)
  | notNumber context hasked hnone hwritable =>
    exact .notNumber context (hu.asked hasked) hnone hwritable
  | tooManyDigits hread hlong => exact .tooManyDigits (hu.read hread) hlong
  | unwritable hwritten hlong =>
    exact .unwritable (hwritten.imp (hu.written ·) (And.imp_left (hu.asked ·))) hlong

theorem of_eq_ok (h : Ends uses line P result) {a : α} (he : result = .ok a) : P a := by
  subst he
  cases h with
  | value h => exact h

end Ends

theorem numberOfText?_ends (text : Points) (uses : Uses) (hread : .string text ∈ uses.read)
    (line : Line) :
    Ends uses line (fun n? => Result.numberOfText? text = .ok n?) (Result.numberOfText? text) := by
  cases hn : Result.numberOfText? text with
  | ok n? => exact .value rfl
  | error failure =>
    unfold Result.numberOfText? at hn
    split at hn
    · rename_i s hs
      obtain rfl := Points.string?_eq_some.mp hs
      split at hn <;> cases hn
      exact .tooManyDigits hread (numberOfText?_eq_error_iff.mp ‹_›)
    · cases hn

theorem Result.isSafe_numberOfText? {text : Points} {n : Number}
    (h : numberOfText? text = .ok (some n)) : n.IsSafe := by
  unfold numberOfText? at h
  split at h
  · split at h <;> cases h
    exact DocScript.isSafe_numberOfText? ‹_›
  · cases h

namespace Value

variable (left right value : Value) (line : Line)

/-- The complaint about an operand that denotes no number quotes it. -/
theorem refused_ends {α : Type} {P : α → Prop} (context : String)
    (hnone : value.number? = .ok Option.none) :
    Ends (.ofNumbers [value]) line P (.error (value.refused (.notNumber context value) line)) := by
  cases hw : value.isWritable with
  | true =>
    rw [refused_of_isWritable hw]
    exact .notNumber context List.mem_cons_self hnone hw
  | false =>
    rw [refused_of_not_isWritable hw]
    exact .unwritable (.inr ⟨List.mem_cons_self, hnone⟩) hw

theorem expectNumber_ends (context : String) :
    Ends (.ofNumbers [value]) line Number.IsSafe (value.expectNumber context line) := by
  cases value with
  | number n => exact .value (Number.isSafe_clamp n)
  | string s =>
    apply (numberOfText?_ends s _ List.mem_cons_self line).bind
    intro n? hn
    cases n? with
    | some n => exact .value (Result.isSafe_numberOfText? hn)
    | none => exact (string s).refused_ends line context hn
  | none => exact none.refused_ends line context rfl
  | bool b => exact (bool b).refused_ends line context rfl
  | list i items => exact (list i items).refused_ends line context rfl
  | record i fields => exact (record i fields).refused_ends line context rfl

theorem written_ends : Ends (.ofTexts [value]) line (fun _ => True) value.written := by
  cases hw : value.isWritable with
  | true =>
    rw [written_of_isWritable hw]
    exact .value trivial
  | false =>
    rw [written_of_not_isWritable hw]
    exact .unwritable (.inl List.mem_cons_self) hw

theorem comparand?_ends : Ends (.ofComparands [value]) line (fun _ => True) value.comparand? := by
  cases value with
  | string s => exact (numberOfText?_ends s _ List.mem_cons_self line).map fun _ _ => trivial
  | none | bool | number | list | record => exact .value trivial

theorem looseEquals_ends :
    Ends (.ofComparands [left, right]) line (fun _ => True) (left.looseEquals right) := by
  unfold looseEquals
  split
  · exact .value trivial
  · exact .value trivial
  · exact .value trivial
  · exact .value trivial
  · split
    · have hl := Uses.within_ofComparands (show [left] ⊆ [left, right] by simp)
      have hr := Uses.within_ofComparands (show [right] ⊆ [left, right] by simp)
      apply ((left.comparand?_ends line).mono hl fun _ => id).bind
      intro m _
      apply ((right.comparand?_ends line).mono hr fun _ => id).bind
      intro n _
      split <;> exact .value trivial
    · exact .value trivial

end Value

namespace OperandNames

variable (names : OperandNames) (left right : Value) (line : Line)

theorem numbers_ends :
    Ends (.ofNumbers [left, right]) line (fun (m, n) => m.IsSafe ∧ n.IsSafe)
      (names.numbers left right line) := by
  have hl := Uses.within_ofNumbers (show [left] ⊆ [left, right] by simp)
  have hr := Uses.within_ofNumbers (show [right] ⊆ [left, right] by simp)
  apply ((left.expectNumber_ends line names.left).mono hl fun _ => id).bind
  intro m hm
  apply ((right.expectNumber_ends line names.right).mono hr fun _ => id).bind
  intro n hn
  exact .value ⟨hm, hn⟩

theorem compute_ends {f : Number → Number → Result Number}
    (hf : ∀ m n, m.IsSafe → n.IsSafe → ∃ k, f m n = .ok k ∧ k.IsSafe) :
    Ends (.ofNumbers [left, right]) line Value.IsSafe (names.compute left right line f) := by
  apply (names.numbers_ends left right line).bind
  rintro ⟨m, n⟩ ⟨hm, hn⟩
  obtain ⟨k, he, hk⟩ := hf m n hm hn
  simp only [he]
  exact .value (Value.isSafe_number.mpr hk)

theorem compare_ends (f : Number → Number → Bool) :
    Ends (.ofNumbers [left, right]) line Value.IsSafe (names.compare left right line f) := by
  apply (names.numbers_ends left right line).bind
  rintro ⟨m, n⟩ -
  exact .value (Value.isSafe_bool _)

end OperandNames

theorem Result.ofRange_of_ok {P : Number → Prop} {number : Except OutOfRange Number}
    (h : ∃ n, number = .ok n ∧ P n) : ∃ n, Result.ofRange number = .ok n ∧ P n := by
  obtain ⟨n, rfl, hn⟩ := h
  exact ⟨n, rfl, hn⟩

namespace Operator

variable (left right : Value) (line : Line)

/-- How an operator uses its operands. -/
def uses (op : Operator) (left right : Value) : Uses :=
  match op with
  | .add =>
    if left.isString || right.isString then .ofTexts [left, right] else .ofNumbers [left, right]
  | .eq => .ofComparands [left, right]
  | .ne => .ofComparands [left, right]
  | .strictEq => .none
  | .strictNe => .none
  | _ => .ofNumbers [left, right]

theorem applyNamed_ends (op : Operator) (names : OperandNames) :
    Ends (op.uses left right) line Value.IsSafe (op.applyNamed names left right line) := by
  cases op with
  | add =>
    simp only [applyNamed, uses]
    split
    · have hl := Uses.within_ofTexts (show [left] ⊆ [left, right] by simp)
      have hr := Uses.within_ofTexts (show [right] ⊆ [left, right] by simp)
      apply ((left.written_ends line).mono hl fun _ => id).bind
      intro s _
      apply ((right.written_ends line).mono hr fun _ => id).bind
      intro t _
      exact .value (Value.isSafe_string _)
    · apply names.compute_ends left right line
      intro m n _ _
      exact ⟨_, rfl, Number.isSafe_combine _ _ m n⟩
  | sub | mul =>
    rw [applyNamed]
    apply names.compute_ends left right line
    intro m n _ _
    exact ⟨_, rfl, Number.isSafe_combine _ _ m n⟩
  | div =>
    rw [applyNamed]
    apply names.compute_ends left right line
    intro m n hm hn
    exact Result.ofRange_of_ok (hm.divide hn)
  | mod =>
    rw [applyNamed]
    apply names.compute_ends left right line
    intro m n hm hn
    exact Result.ofRange_of_ok (hm.modulo hn)
  | lt | gt | le | ge =>
    rw [applyNamed]
    exact names.compare_ends left right line _
  | eq | ne => exact (left.looseEquals_ends right line).map fun _ _ => Value.isSafe_bool _
  | strictEq | strictNe => exact .value (Value.isSafe_bool _)

end Operator

/-- Conjunction and disjunction use operands in no way. -/
def BinaryOp.uses (op : BinaryOp) (left right : Value) : Uses :=
  match op with
  | .logical _ => .none
  | .operator op => op.uses left right

namespace UnaryOp

/-- Negation takes its operand as it is. -/
def uses (op : UnaryOp) (value : Value) : Uses :=
  match op with
  | .not => .none
  | _ => .ofNumbers [value]

theorem apply_ends (op : UnaryOp) (value : Value) (line : Line) :
    Ends (op.uses value) line Value.IsSafe (op.apply value line) := by
  cases op with
  | not => exact .value (Value.isSafe_bool _)
  | neg =>
    apply (value.expectNumber_ends line _).map
    intro n hn
    exact Value.isSafe_number.mpr hn.neg
  | pos =>
    apply (value.expectNumber_ends line _).map
    intro n hn
    exact Value.isSafe_number.mpr hn

end UnaryOp

/-- Every operator ends in a value, which is a safe one or an operand, unless an operand that it
needs to be a number is none, an operand that it reads is an integer numeral over the limit, or an
operand that it has to write holds an integer over the limit. -/
theorem operators_end (lookup : String → Value) (line : Line) (left right : Value)
    (source source' : Option String) :
    (∀ op : BinaryOp, Ends (op.uses left right) line
      (fun value => value.IsSafe ∨ value = left ∨ value = right)
      ((Expr.binary op (.literal left source) (.literal right source')).eval lookup line)) ∧
    ∀ op : UnaryOp, Ends (op.uses left) line Value.IsSafe
      ((Expr.unary op (.literal left source)).eval lookup line) := by
  refine ⟨fun op => ?_, fun op => op.apply_ends left line⟩
  match op with
  | .operator op =>
    exact (op.applyNamed_ends left right line _).mono (.refl _) fun _ => .inl
  | .logical .and =>
    change Ends .none line _ (if left.truthy then .ok right else .ok left)
    split
    · exact .value (.inr (.inr rfl))
    · exact .value (.inr (.inl rfl))
  | .logical .or =>
    change Ends .none line _ (if left.truthy then .ok left else .ok right)
    split
    · exact .value (.inr (.inl rfl))
    · exact .value (.inr (.inr rfl))

theorem isOverlong_replicate {digits : Nat} (h : Numeral.maxDigits < digits) :
    IsOverlong (String.ofList (List.replicate digits '1')) digits := by
  have hb : Text.isBlank '1' = false := by decide
  have ht : takeSign (Text.trim (String.ofList (List.replicate digits '1')).toList) =
      (false, List.replicate digits '1') := by
    simp only [String.toList_ofList, Text.trim, List.dropWhile_replicate, hb,
      List.reverse_replicate, Bool.false_eq_true, if_false]
    cases digits with
    | zero => cases h
    | succ digits => rfl
  refine ⟨?_, by rw [ht, List.length_replicate], h⟩
  rw [ht]
  intro c hc
  rw [List.eq_of_mem_replicate hc]
  decide

theorem eq_of_isOverlong {text : String} {digits : Nat} (h : IsOverlong text digits) (n : Number)
    (line : Line) :
    Operator.eq.apply (.string text) (.number n) line =
      .error (.fault (.tooManyDigits digits)) := by
  have hn : Result.numberOfText? text = .error (.fault (.tooManyDigits digits)) := by
    simp only [Result.numberOfText?, Points.string?_ofString, numberOfText?_eq_error_iff.mpr h]
  simp only [Operator.apply, Operator.applyNamed, Value.looseEquals, Value.comparand?, hn]
  rfl

/-- Loose equality fails at a string of 4301 ones, though it asks no operand for a number. -/
theorem equality_fails_over_limit :
    Operator.eq.apply (.string (String.ofList (List.replicate 4301 '1'))) (.number (.int 1)) none =
      .error (.fault (.tooManyDigits 4301)) :=
  eq_of_isOverlong (isOverlong_replicate (by decide)) (.int 1) none

end DocScript
