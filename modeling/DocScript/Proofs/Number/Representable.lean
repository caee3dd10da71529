import DocScript.Proofs.Number.Rounding
import Mathlib.Tactic.Ring

/-! # Floats and the rationals between them

Rounding leaves a rational alone that fits the format, and takes every other one to a float that is
at most half a unit of its last place away. All integers up to the bound of safe ones fit.
-/

namespace DocScript

theorem roundHalfEven_intCast (n : Int) : roundHalfEven (n : Rat) = n := by
  have hr : (n : Rat) - (n : Rat).floor = 0 := by rw [Rat.floor_intCast, sub_self]
  unfold roundHalfEven
  dsimp only
  rw [hr, if_pos (by norm_num), Rat.floor_intCast]

/-- The bound of safe integers has a digit too many, but it is a power of two. -/
theorem representable_maxSafe : Representable (maxSafe : Rat) :=
  ⟨1, 53, by decide, by decide, by decide, by rw [cast_maxSafe, Int.cast_one, one_mul]⟩

theorem representable_intCast {n : Int} (h : n.natAbs ≤ maxSafe) : Representable n := by
  rcases h.lt_or_eq with h | h
  · exact ⟨n, 0, h, by decide, by decide, by rw [zpow_zero, mul_one]⟩
  · rcases Int.natAbs_eq n with hn | hn
    · rw [hn, h]
      exact representable_maxSafe
    · rw [hn, h, Int.cast_neg]
      exact representable_maxSafe.neg

/-- A multiple of a power of two is one of every smaller power. -/
theorem exists_mul_two_zpow {e f : Int} (h : e ≤ f) (m : Int) :
    ∃ k : Int, (m : Rat) * 2 ^ f = k * 2 ^ e := by
  obtain ⟨n, hn⟩ := Int.eq_ofNat_of_zero_le (sub_nonneg.mpr h)
  refine ⟨m * 2 ^ n, ?_⟩
  have hf : f = n + e := by omega
  rw [hf, zpow_add₀ (by norm_num), zpow_natCast, ← mul_assoc]
  push_cast
  rfl

namespace Binary64

variable {q : Rat} {x : Binary64} {m e n : Int}

theorem eq_finite_of_toRat (hq : q ≠ 0) (hr : Representable q) (h : x.toRat = q) :
    x = .finite q hq hr := by
  cases x with
  | finite p hp hp' =>
    obtain rfl : p = q := h
    rfl
  | nan | infinite | zero => exact absurd h.symm hq

/-- An integral float is one without a fraction, or a zero. -/
theorem toInt?_eq_some_iff :
    x.toInt? = some n ↔ x.isNaN = false ∧ x.isInfinite = false ∧ x.toRat = n := by
  cases x with
  | nan | infinite => simp [toInt?, isNaN, isInfinite]
  | zero s =>
    simp only [toInt?, isNaN, isInfinite, toRat, Option.some.injEq, true_and]
    exact_mod_cast Iff.rfl
  | finite q hq hr =>
    simp only [toInt?, isNaN, isInfinite, toRat, true_and]
    constructor
    · intro h
      split at h
      · cases h
        exact (Rat.den_eq_one_iff q).mp ‹_› |>.symm
      · cases h
    · rintro rfl
      simp

theorem floorLog2_lt (hq : q ≠ 0) (h : |q| < 2 ^ e) : floorLog2 |q| < e := by
  have hle := (two_zpow_floorLog2_le (abs_pos.mpr hq)).trans_lt h
  exact (zpow_lt_zpow_iff_right₀ (by norm_num)).mp hle

theorem le_floorLog2 (hq : q ≠ 0) (h : 2 ^ e ≤ |q|) : e ≤ floorLog2 |q| := by
  have hlt := h.trans_lt (lt_two_zpow_floorLog2_succ (abs_pos.mpr hq))
  have := (zpow_lt_zpow_iff_right₀ (by norm_num : (1 : Rat) < 2)).mp hlt
  omega

/-- Above the smallest exponent the last place is the one of the 53rd binary digit. -/
theorem lastPlace_of_normal (h : (2 : Rat) ^ (-1022 : Int) ≤ |q|) :
    lastPlace q = floorLog2 |q| - 52 := by
  have hq : q ≠ 0 := abs_pos.mp (lt_of_lt_of_le (zpow_pos (by norm_num) _) h)
  have := le_floorLog2 hq h
  rw [lastPlace, ratAbs_eq]
  omega

theorem abs_scaled_lt (hm : m.natAbs < 9007199254740992) (e : Int) :
    |(m : Rat) * 2 ^ e| < 2 ^ (53 + e) := by
  have hpos : (0 : Rat) < 2 ^ e := zpow_pos (by norm_num) e
  have hm : |(m : Rat)| < 2 ^ (53 : Int) := by
    calc |(m : Rat)| = m.natAbs := abs_intCast m
      _ < (9007199254740992 : Nat) := Nat.cast_lt.mpr hm
      _ = 2 ^ (53 : Int) := by norm_num
  rw [abs_mul, abs_of_pos hpos, zpow_add₀ (by norm_num)]
  exact mul_lt_mul_of_pos_right hm hpos

/-- The last place of a float is not behind its own last digit. -/
theorem lastPlace_le (hq : (m : Rat) * 2 ^ e ≠ 0) (hm : m.natAbs < 9007199254740992)
    (he : -1074 ≤ e) : lastPlace ((m : Rat) * 2 ^ e) ≤ e := by
  have hlog := floorLog2_lt hq (abs_scaled_lt hm e)
  rw [lastPlace, ratAbs_eq]
  omega

theorem toRat_ofScaled (h : (ofScaled m e).isInfinite = false) :
    (ofScaled m e).toRat = (m : Rat) * 2 ^ e := by
  unfold ofScaled at h ⊢
  split
  · rename_i hm
    rw [hm, Int.cast_zero, zero_mul]
    rfl
  · rename_i hm
    rw [dif_neg hm] at h
    split at h
    · rw [dif_pos ‹_›]
      rfl
    · cases h

/-- Rounding leaves a rational alone that fits the format. -/
theorem round_of_representable (hq : q ≠ 0) (hr : Representable q) :
    round q = .finite q hq hr := by
  apply eq_finite_of_toRat
  obtain ⟨m, e, hm, hl, hu, heq⟩ := hr
  have hpos : (0 : Rat) < 2 ^ lastPlace q := zpow_pos (by norm_num) _
  have hle : lastPlace q ≤ e := by
    rw [heq] at hq ⊢
    exact lastPlace_le hq hm hl
  have hlow : -1074 ≤ lastPlace q := le_max_left _ _
  -- Scaled to its last place, the rational is an integer.
  obtain ⟨digits, hdigits⟩ := exists_mul_two_zpow hle m
  have hscaled : q / 2 ^ lastPlace q = digits := by
    rw [div_eq_iff hpos.ne', ← hdigits]
    exact heq
  have hlt := abs_div_lastPlace_lt hq
  have hne : q / 2 ^ lastPlace q ≠ 0 := div_ne_zero hq hpos.ne'
  rw [hscaled] at hlt hne
  have hlt : digits.natAbs < 9007199254740992 := by
    rw [abs_intCast] at hlt
    exact Nat.cast_lt.mp hlt
  have hne : digits ≠ 0 := by exact_mod_cast hne
  unfold round
  rw [if_neg hq]
  dsimp only
  rw [hscaled, roundHalfEven_intCast, if_neg hne, if_neg hlt.ne,
    toRat_ofScaled (isInfinite_ofScaled hlt hlow (hle.trans hu)), ← hscaled,
    div_mul_cancel₀ _ hpos.ne']

theorem toInt?_round_intCast (h : n.natAbs ≤ maxSafe) : (round (n : Rat)).toInt? = some n := by
  by_cases hn : n = 0
  · rw [hn]
    rfl
  · rw [round_of_representable (Int.cast_ne_zero.mpr hn) (representable_intCast h),
      toInt?_eq_some_iff]
    exact ⟨rfl, rfl, rfl⟩

theorem toRat_round (hq : q ≠ 0) (h : (round q).isInfinite = false) :
    (round q).toRat = (roundHalfEven (q / 2 ^ lastPlace q) : Rat) * 2 ^ lastPlace q := by
  have hne : (2 : Rat) ≠ 0 := by norm_num
  unfold round at h ⊢
  rw [if_neg hq] at h ⊢
  dsimp only at h ⊢
  generalize roundHalfEven (q / 2 ^ lastPlace q) = m at *
  split
  · rename_i hm
    rw [hm, Int.cast_zero, zero_mul]
    rfl
  · rw [if_neg ‹_›] at h
    split
    · rename_i hm
      rw [if_pos hm] at h
      -- A digit too many is a power of two, so that half of it is an integer.
      obtain ⟨k, rfl⟩ : ∃ k, m = k * 2 := ⟨m / 2, by omega⟩
      rw [toRat_ofScaled h, Int.mul_ediv_cancel _ (by decide), zpow_add₀ hne]
      push_cast
      ring
    · rw [if_neg ‹_›] at h
      exact toRat_ofScaled h

/-- A float is at most half a unit of the last place away from what is rounded to it. -/
theorem abs_toRat_round_sub_le (h : (round q).isInfinite = false) :
    |(round q).toRat - q| ≤ 2 ^ lastPlace q / 2 := by
  have hpos : (0 : Rat) < 2 ^ lastPlace q := zpow_pos (by norm_num) _
  by_cases hq : q = 0
  · have hz : (round q).toRat - q = 0 := by
      rw [hq, sub_zero]
      rfl
    rw [hz, abs_zero]
    exact (half_pos hpos).le
  · have hs : (round q).toRat - q =
        (roundHalfEven (q / 2 ^ lastPlace q) - q / 2 ^ lastPlace q) * 2 ^ lastPlace q := by
      rw [toRat_round hq h, sub_mul, div_mul_cancel₀ _ hpos.ne']
    have hn := mul_le_mul_of_nonneg_right (roundHalfEven_near (q / 2 ^ lastPlace q)) hpos.le
    rw [hs, abs_mul, abs_of_pos hpos]
    linarith

end Binary64

end DocScript
