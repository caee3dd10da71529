import DocScript.Failure
import DocScript.Proofs.Value.Safe

/-! # Values that can be written

A value can be written if all its integers are within the limit on conversions. Safe values are, and
so are those without integers.
-/

namespace DocScript.Value

variable {value : Value} {cause : Cause} {line : Line}

/-- Whether a value can be written, as a property of values. -/
abbrev Writable (value : Value) : Prop := value.isWritable = true

theorem isWritable_iff :
    value.isWritable = true ↔ ∀ n ∈ value.integers, n.natAbs < 10 ^ Numeral.maxDigits := by
  simp only [isWritable, List.all_eq_true, decide_eq_true_eq,
    Nat.length_toDigits_le_iff (b := 10) (by decide) (show 0 < Numeral.maxDigits by decide)]

theorem maxSafe_lt_limit : maxSafe < 10 ^ Numeral.maxDigits :=
  calc maxSafe < 10 ^ 16 := by decide
    _ ≤ 10 ^ Numeral.maxDigits := Nat.pow_le_pow_right (by decide) (by decide)

theorem hereditary_writable : Hereditary Writable := by
  unfold Writable
  simp only [isWritable_iff]
  exact hereditary_integers fun _ hn => hn.trans_lt maxSafe_lt_limit

theorem IsSafe.isWritable (h : value.IsSafe) : value.isWritable = true :=
  hereditary_writable.safe value h

theorem written_of_isWritable (h : value.isWritable = true) : value.written = .ok value.text :=
  if_pos h

theorem refused_of_isWritable (h : value.isWritable = true) :
    value.refused cause line = cause.failure line :=
  if_pos h

theorem written_of_not_isWritable (h : value.isWritable = false) :
    value.written = .error (.fault .unwritable) := by
  rw [written, h]
  rfl

theorem refused_of_not_isWritable (h : value.isWritable = false) :
    value.refused cause line = .fault .unwritable := by
  rw [refused, h]
  rfl

end DocScript.Value
