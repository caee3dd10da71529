import DocScript.Number.Numeral
import DocScript.Proofs.Number.Rounding

/-! # Safe numbers

A number is safe if it is a float, or an integer of a magnitude up to the bound of exact ones.
Clamping makes numbers safe. Arithmetic keeps them so, and on safe numbers it always has a result.
-/

namespace DocScript

namespace Number

def IsSafe : Number → Prop
  | .int n => n.natAbs ≤ maxSafe
  | .float _ => True

theorem isSafe_clamp (n : Number) : n.clamp.IsSafe := by
  cases n with
  | int n =>
    rw [clamp]
    split
    · assumption
    · trivial
  | float x =>
    rw [clamp]
    split
    · split
      · assumption
      · trivial
    · trivial

variable {a b n : Number}

theorem isSafe_combine (ints : Int → Int → Int) (floats : Binary64 → Binary64 → Binary64)
    (a b : Number) : (combine ints floats a b).IsSafe := by
  unfold combine
  split <;> exact isSafe_clamp _

theorem IsSafe.neg (h : n.IsSafe) : n.neg.IsSafe := by
  cases n with
  | int n => exact (Int.natAbs_neg n).trans_le h
  | float x => trivial

theorem IsSafe.toBinary64? (h : n.IsSafe) : ∃ x, n.toBinary64? = .ok x := by
  cases n with
  | int n =>
    refine ⟨Binary64.ofInt n, ?_⟩
    simp only [Number.toBinary64?, Binary64.isInfinite_ofInt h, Bool.false_eq_true, if_false]
  | float x => exact ⟨x, rfl⟩

theorem isInfinite_round_quotient {m n : Int} (hm : m.natAbs ≤ maxSafe) (hn : n ≠ 0) :
    (Binary64.round ((m : Rat) / n)).isInfinite = false := by
  apply Binary64.isInfinite_round
  have hpos : 1 ≤ n.natAbs := Int.natAbs_pos.mpr hn
  have hpos : (1 : Rat) ≤ n.natAbs := by exact_mod_cast hpos
  have hm : (m.natAbs : Rat) ≤ maxSafe := by exact_mod_cast hm
  rw [abs_div, abs_intCast, abs_intCast]
  exact (div_le_self (Nat.cast_nonneg _) hpos).trans hm

/-- The quotient of safe numbers is always there, and it is safe. -/
theorem IsSafe.divide (ha : a.IsSafe) (hb : b.IsSafe) :
    ∃ n, a.divide b = .ok n ∧ n.IsSafe := by
  obtain ⟨x, hx⟩ := ha.toBinary64?
  obtain ⟨y, hy⟩ := hb.toBinary64?
  unfold Number.divide
  split
  · split
    · exact ⟨_, rfl, trivial⟩
    · rw [hx]
      exact ⟨_, rfl, trivial⟩
  · rename_i hz
    split
    · rename_i m n
      have hn : n ≠ 0 := by simpa [isZero] using hz
      simp only [isInfinite_round_quotient ha hn, Bool.false_eq_true, if_false]
      exact ⟨_, rfl, isSafe_clamp _⟩
    · rw [hx, hy]
      exact ⟨_, rfl, isSafe_clamp _⟩

/-- So is the remainder. -/
theorem IsSafe.modulo (ha : a.IsSafe) (hb : b.IsSafe) :
    ∃ n, a.modulo b = .ok n ∧ n.IsSafe := by
  obtain ⟨x, hx⟩ := ha.toBinary64?
  obtain ⟨y, hy⟩ := hb.toBinary64?
  unfold Number.modulo
  split
  · rename_i m n
    split
    · exact ⟨_, rfl, trivial⟩
    · refine ⟨_, rfl, ?_⟩
      have hm : m.natAbs ≤ maxSafe := ha
      rw [IsSafe, Int.natAbs_tmod]
      exact (Nat.mod_le _ _).trans hm
  · split
    · exact ⟨_, rfl, trivial⟩
    · split
      · exact ⟨_, rfl, trivial⟩
      · rw [hx, hy]
        exact ⟨_, rfl, isSafe_clamp _⟩

end Number

/-! ## Numerals -/

/-- Whether a text is an integer numeral with more digits than the limit allows. -/
structure IsOverlong (text : String) (digits : Nat) : Prop where
  isDigit : ∀ c ∈ (takeSign (Text.trim text.toList)).2, Text.isDigit c = true
  length : (takeSign (Text.trim text.toList)).2.length = digits
  overlong : Numeral.maxDigits < digits

theorem takeDigits_eq_nil {text : List Char} {digits : List Nat}
    (h : takeDigits text = (digits, [])) :
    (∀ c ∈ text, Text.isDigit c = true) ∧ digits.length = text.length := by
  have hl := takeDigits_length text
  rw [h] at hl
  refine ⟨?_, by simpa using hl⟩
  induction text generalizing digits with
  | nil => nofun
  | cons c rest ih =>
    unfold takeDigits at h
    split at h
    · rename_i d hd
      rcases hr : takeDigits rest with ⟨more, left⟩
      rw [hr] at h
      cases h
      have hm := takeDigits_length rest
      rw [hr] at hm
      intro other ho
      rcases List.mem_cons.mp ho with rfl | ho
      · exact Option.isSome_iff_exists.mpr ⟨d, hd⟩
      · exact ih hr (by simpa using hm) other ho
    · cases h

theorem takeDigits_of_digits {text : List Char} (h : ∀ c ∈ text, Text.isDigit c = true) :
    ∃ digits, takeDigits text = (digits, []) ∧ digits.length = text.length := by
  have hl := takeDigits_length text
  induction text with
  | nil => exact ⟨[], rfl, rfl⟩
  | cons c rest ih =>
    obtain ⟨d, hd⟩ := Option.isSome_iff_exists.mp (h c List.mem_cons_self)
    obtain ⟨digits, hr, hn⟩ :=
      ih (fun other ho => h other (List.mem_cons_of_mem c ho)) (takeDigits_length rest)
    refine ⟨d :: digits, ?_, by rw [List.length_cons, hn, List.length_cons]⟩
    unfold takeDigits
    rw [hd, hr]

theorem takeExponent_none {text left : List Char} (h : takeExponent text = (none, left)) :
    left = text := by
  unfold takeExponent at h
  split at h
  · split at h
    · dsimp only at h
      split at h <;> cases h
      rfl
    · cases h
      rfl
  · cases h
    rfl

namespace Numeral

/-- A numeral that is a whole text and denotes an integer is the digits of the text. -/
theorem takeDigits_of_isInteger {text : List Char} {n : Numeral}
    (h : take? text = some (n, [])) (hi : n.isInteger = true) :
    takeDigits text = (n.whole, []) := by
  unfold take? at h
  dsimp only at h
  split at h
  · split at h
    · cases h
    · simp only [withExponent, Option.some.injEq, Prod.mk.injEq] at h
      obtain ⟨rfl, -⟩ := h
      cases hi
  · split at h
    · cases h
    · simp only [withExponent, Option.some.injEq, Prod.mk.injEq] at h
      obtain ⟨rfl, hl⟩ := h
      simp only [isInteger, Bool.not_false, Bool.true_and, Option.isNone_iff_eq_none] at hi
      have := takeExponent_none (Prod.ext hi hl)
      exact Prod.ext rfl this.symm

theorem take?_of_digits {text : List Char} {digits : List Nat}
    (h : takeDigits text = (digits, [])) (hn : digits ≠ []) :
    take? text = some (⟨digits, false, [], none⟩, []) := by
  unfold take?
  simp only [h]
  split
  · rename_i he
    exact absurd (List.isEmpty_iff.mp he) hn
  · rfl

theorem value_eq_error {negative : Bool} {n : Numeral} {e : TooManyDigits}
    (h : n.value negative = .error e) :
    n.isInteger = true ∧ e.digits = n.whole.length ∧ maxDigits < n.whole.length := by
  unfold value at h
  split at h
  · split at h
    · cases h
      exact ⟨‹_›, rfl, ‹_›⟩
    · cases h
  · cases h

theorem isSafe_value {negative : Bool} {n : Numeral} {number : Number}
    (h : n.value negative = .ok number) : number.IsSafe := by
  unfold value at h
  split at h
  · split at h
    · cases h
    · cases h
      exact Number.isSafe_clamp _
  · cases h
    trivial

end Numeral

theorem isSafe_numberOfText? {text : String} {n : Number}
    (h : numberOfText? text = .ok (some n)) : n.IsSafe := by
  unfold numberOfText? at h
  split at h
  · cases h
    exact Nat.zero_le _
  · dsimp only at h
    split at h
    · rename_i numeral _
      cases hv : numeral.value (takeSign (Text.trim text.toList)).1 with
      | error e => rw [hv] at h; cases h
      | ok number =>
        rw [hv] at h
        cases h
        exact Numeral.isSafe_value hv
    · cases h

/-- A text is refused exactly if it is an integer numeral over the limit. -/
theorem numberOfText?_eq_error_iff {text : String} {digits : Nat} :
    numberOfText? text = .error ⟨digits⟩ ↔ IsOverlong text digits := by
  constructor
  · intro h
    unfold numberOfText? at h
    split at h
    · cases h
    · dsimp only at h
      split at h
      · rename_i numeral ht
        cases hv : numeral.value (takeSign (Text.trim text.toList)).1 with
        | ok number => rw [hv] at h; cases h
        | error e =>
          rw [hv] at h
          cases h
          obtain ⟨hi, he, hm⟩ := Numeral.value_eq_error hv
          obtain ⟨hd, hl⟩ := takeDigits_eq_nil (Numeral.takeDigits_of_isInteger ht hi)
          rw [← he] at hl hm
          exact ⟨hd, hl.symm, hm⟩
      · cases h
  · rintro ⟨hd, rfl, hm⟩
    obtain ⟨digits, ht, hl⟩ := takeDigits_of_digits hd
    have hn : digits ≠ [] := by
      rintro rfl
      rw [← hl] at hm
      exact absurd hm (Nat.not_lt_zero _)
    unfold numberOfText?
    split
    · rename_i he
      rw [he] at hm
      exact absurd hm (by decide)
    · dsimp only
      rw [Numeral.take?_of_digits ht hn]
      rw [← hl] at hm ⊢
      simp only [Numeral.value, Numeral.isInteger, Bool.not_false, Option.isNone_none,
        Bool.and_self, if_true, if_pos hm]
      rfl

end DocScript
