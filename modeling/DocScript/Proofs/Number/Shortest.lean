import DocScript.Proofs.Number.Nearest
import Mathlib.Data.Nat.Cast.Field
import Mathlib.Tactic.FieldSimp

/-! # Shortest decimals

Two floats are at least a 2^53rd of the greater one apart, and decimals of seventeen digits lie
closer together. So one of the two such decimals around a float is read back as the float, and the
shortest decimal that is read back as it is always found.
-/

namespace DocScript

/-! ## Floats apart -/

namespace Binary64

/-- Of two multiples of a unit one of which has at most 53 digits, the greater one is less than 2^53
times as great as their distance. -/
theorem div_le_sub_of_lt {m k : Int} (h : k < m)
    (hd : m ≤ 9007199254740992 ∨ k < 9007199254740992) :
    (m : Rat) / 9007199254740992 ≤ m - k := by
  have hone : (k : Rat) + 1 ≤ m := by exact_mod_cast h
  rcases le_or_gt m 9007199254740992 with hm | hm
  · have hm : (m : Rat) ≤ 9007199254740992 := by exact_mod_cast hm
    linarith
  · have hk : (k : Rat) ≤ 9007199254740992 - 1 := by
      exact_mod_cast Int.le_sub_one_of_lt (hd.resolve_left (not_le.mpr hm))
    have hm : (9007199254740992 : Rat) < m := by exact_mod_cast hm
    linarith

/-- What fits the format but for the size of its exponent is at least a 2^53rd of itself away from
what is less. -/
theorem mul_le_sub_of_lt {m k e f : Int} (hm : m.natAbs < 9007199254740992)
    (hk : k.natAbs < 9007199254740992) (h : (k : Rat) * 2 ^ f < m * 2 ^ e) :
    (m : Rat) * 2 ^ e / 9007199254740992 ≤ m * 2 ^ e - k * 2 ^ f := by
  -- Both are multiples of the smaller of the two units.
  obtain ⟨m', k', u, hu, hm', hk', hd⟩ : ∃ (m' k' : Int) (u : Rat), 0 < u ∧
      (m : Rat) * 2 ^ e = m' * u ∧ (k : Rat) * 2 ^ f = k' * u ∧
      (m' ≤ 9007199254740992 ∨ k' < 9007199254740992) := by
    rcases le_total e f with hle | hle
    · obtain ⟨k', hk'⟩ := exists_mul_two_zpow hle k
      exact ⟨m, k', 2 ^ e, zpow_pos (by norm_num) e, rfl, hk', .inl (by omega)⟩
    · obtain ⟨m', hm'⟩ := exists_mul_two_zpow hle m
      exact ⟨m', k, 2 ^ f, zpow_pos (by norm_num) f, hm', rfl, .inr (by omega)⟩
  rw [hm', hk'] at h ⊢
  have hlt : k' < m' := by exact_mod_cast lt_of_mul_lt_mul_right h hu.le
  calc (m' : Rat) * u / 9007199254740992 = m' / 9007199254740992 * u := by ring
    _ ≤ (m' - k') * u := mul_le_mul_of_nonneg_right (div_le_sub_of_lt hlt hd) hu.le
    _ = m' * u - k' * u := sub_mul _ _ _

variable {p q r : Rat}

theorem representable_sub (hp : Representable p) (hq : Representable q) (h : p < q) :
    q / 9007199254740992 ≤ q - p := by
  obtain ⟨k, f, hk, -, -, rfl⟩ := hp
  obtain ⟨m, e, hm, -, -, rfl⟩ := hq
  exact mul_le_sub_of_lt hm hk h

/-- What is at most half the smallest float is rounded to zero. -/
theorem round_of_le (h : |q| ≤ 2 ^ (-1075 : Int)) : round q = .zero (q < 0) := by
  by_cases hq : q = 0
  · rw [hq]
    rfl
  · have hlast : lastPlace q = -1074 := by
      have hlog : floorLog2 |q| < -1074 :=
        floorLog2_lt hq (h.trans_lt (zpow_lt_zpow_right₀ (by norm_num) (by norm_num)))
      rw [lastPlace, ratAbs_eq]
      omega
    have hhalf : |q / (2 : Rat) ^ (-1074 : Int)| ≤ 1 / 2 := by
      have hpos : (0 : Rat) < 2 ^ (-1074 : Int) := zpow_pos (by norm_num) _
      rw [abs_div, abs_of_pos hpos, div_le_iff₀ hpos]
      calc |q| ≤ 2 ^ (-1075 : Int) := h
        _ = 1 / 2 * 2 ^ (-1074 : Int) := by
          rw [one_div, ← zpow_neg_one, ← zpow_add₀ (by norm_num)]
          rfl
    obtain ⟨hlow, hhigh⟩ := abs_le.mp hhalf
    have hle : roundHalfEven (q / 2 ^ (-1074 : Int)) ≤ 0 :=
      roundHalfEven_le (by decide) (by rwa [Int.cast_zero, zero_add])
    have hge : 0 ≤ roundHalfEven (q / 2 ^ (-1074 : Int)) :=
      le_roundHalfEven (by decide) (by rwa [Int.cast_zero, zero_sub])
    unfold round
    dsimp only
    rw [if_neg hq, hlast, if_pos (le_antisymm hle hge)]

theorem round_of_overflow (h : overflow ≤ q) : round q = .infinite false := by
  have hq : 0 ≤ q := (Nat.cast_nonneg _).trans (maxSafe_lt_overflow.le.trans h)
  have hinfinite := isInfinite_round_of_overflow (h.trans_eq (abs_of_nonneg hq).symm)
  have hsign := isNegative_round q
  rw [decide_eq_false (not_lt.mpr hq)] at hsign
  cases hx : round q with
  | infinite negative =>
    rw [hx] at hsign
    rw [show negative = false from hsign]
  | nan | zero | finite => rw [hx] at hinfinite; cases hinfinite

theorem representable_toRat (x : Binary64) : Representable x.toRat := by
  have hzero : Representable 0 := by exact_mod_cast representable_intCast (n := 0) (by decide)
  cases x with
  | finite q _ hr => exact hr
  | nan | infinite | zero => exact hzero

theorem le_of_representable (hq : Representable q) :
    q ≤ 9007199254740991 * 2 ^ (971 : Int) := by
  obtain ⟨m, e, hm, -, he, rfl⟩ := hq
  have hpos : (0 : Rat) < 2 ^ e := zpow_pos (by norm_num) e
  have hm : (m : Rat) ≤ 9007199254740991 := by exact_mod_cast (by omega : m ≤ 9007199254740991)
  calc (m : Rat) * 2 ^ e ≤ 9007199254740991 * 2 ^ e := mul_le_mul_of_nonneg_right hm hpos.le
    _ ≤ 9007199254740991 * 2 ^ (971 : Int) :=
      mul_le_mul_of_nonneg_left (zpow_le_zpow_right₀ (by norm_num) he) (by norm_num)

/-- What is closer to a float than half of a 2^53rd of it is rounded to the float. -/
theorem toRat_round_of_near (hq : Representable q) (hpos : 0 < q)
    (h : 2 * |r - q| < q / 9007199254740992) : (round r).toRat = q := by
  have hr : 0 < r := by
    have := neg_abs_le (r - q)
    linarith
  have hlt : |r| < overflow := by
    rw [abs_of_pos hr, overflow]
    by_contra hge
    have hmax := le_of_representable hq
    have := le_abs_self (r - q)
    generalize (2 : Rat) ^ (971 : Int) = unit at *
    linarith
  have hclosest := isNearest_round r
  have hfinite := isInfinite_round_of_lt hlt
  have hrep := representable_toRat (round r)
  have hle : |(round r).toRat - r| ≤ |q - r| := by
    cases hx : round r <;> rw [hx] at hclosest hfinite
    · exact hclosest.elim
    · cases hfinite
    · exact hclosest.le q hq
    · exact hclosest.le q hq
  have hnear : |(round r).toRat - q| < q / 9007199254740992 := by
    calc |(round r).toRat - q| ≤ |(round r).toRat - r| + |r - q| := abs_sub_le _ _ _
      _ ≤ 2 * |r - q| := by rw [abs_sub_comm q r] at hle; linarith
      _ < q / 9007199254740992 := h
  obtain ⟨hlow, hhigh⟩ := abs_lt.mp hnear
  rcases lt_trichotomy (round r).toRat q with hp | hp | hp
  · have := representable_sub hrep hq hp
    linarith
  · exact hp
  · have := representable_sub hq hrep hp
    linarith

end Binary64

/-! ## Digits -/

section Digits

theorem lt_ten_zpow_digits (n : Nat) : (n : Rat) < 10 ^ ((Nat.toDigits 10 n).length : Int) := by
  rw [zpow_natCast]
  exact_mod_cast (Nat.length_toDigits_le_iff (by decide) Nat.length_toDigits_pos).mp le_rfl

theorem ten_zpow_digits_le {n : Nat} (hn : n ≠ 0) :
    (10 : Rat) ^ (((Nat.toDigits 10 n).length : Int) - 1) ≤ n := by
  have hpos : 0 < (Nat.toDigits 10 n).length := Nat.length_toDigits_pos
  have hle : 10 ^ ((Nat.toDigits 10 n).length - 1) ≤ n := by
    rcases Nat.eq_zero_or_pos ((Nat.toDigits 10 n).length - 1) with hz | hz
    · rw [hz]
      exact Nat.one_le_iff_ne_zero.mpr hn
    · by_contra hlt
      have := (Nat.length_toDigits_le_iff (by decide) hz).mpr (not_le.mp hlt)
      omega
  rw [← Nat.cast_pred hpos, zpow_natCast]
  exact_mod_cast hle

/-- The zeros at the end of a number are factors of ten. -/
theorem ten_pow_zeros_dvd (n : Nat) :
    10 ^ ((Nat.toDigits 10 n).reverse.takeWhile (· = '0')).length ∣ n := by
  induction n using Nat.strong_induction_on with
  | _ n ih =>
    rw [Nat.toDigits_eq_if (by decide)]
    split
    · rename_i hlt
      rw [List.reverse_singleton, List.takeWhile_cons]
      split
      · rename_i hz
        rw [decide_eq_true_iff, Nat.digitChar_eq_zero] at hz
        rw [hz]
        exact dvd_zero _
      · exact one_dvd _
    · rw [List.reverse_append, List.reverse_singleton, List.singleton_append, List.takeWhile_cons]
      split
      · rename_i hz
        rw [decide_eq_true_iff, Nat.digitChar_eq_zero] at hz
        have ih := Nat.mul_dvd_mul_left 10 (ih (n / 10) (by omega))
        rw [Nat.mul_div_cancel' (Nat.dvd_of_mod_eq_zero hz)] at ih
        rwa [List.length_cons, pow_succ']
      · exact one_dvd _

end Digits

namespace Decimal

variable {q : Rat} {d : Decimal} {n : Nat}

/-- Settling a decimal out of range without its power of ten makes no difference. -/
theorem toBinary64_eq_round (d : Decimal) : d.toBinary64 = Binary64.round d.toRat := by
  unfold toBinary64
  split_ifs with hc hlarge hsmall
  · rw [toRat, hc, Nat.cast_zero, zero_mul]
    rfl
  · exact (Binary64.round_of_overflow (overflow_le_toRat hc hlarge)).symm
  · have hle := toRat_le hsmall
    rw [Binary64.round_of_le (by rwa [abs_of_nonneg d.toRat_nonneg]),
      decide_eq_false (not_lt.mpr d.toRat_nonneg)]
  · rfl

theorem toRat_strip (d : Decimal) : d.strip.toRat = d.toRat := by
  have hten : (10 : Rat) ≠ 0 := by norm_num
  have hdvd := ten_pow_zeros_dvd d.coefficient
  unfold strip toRat
  dsimp only
  generalize ((Nat.toDigits 10 d.coefficient).reverse.takeWhile (· = '0')).length = zeros at *
  rw [Nat.pow_eq, Nat.cast_div hdvd (by positivity), zpow_add₀ hten, zpow_natCast]
  push_cast
  field_simp

theorem ten_zpow_floorLog10_le (hq : 0 < q) : (10 : Rat) ^ floorLog10 q ≤ q := by
  unfold floorLog10
  dsimp only
  split
  · assumption
  · have hten : (10 : Rat) ≠ 0 := by norm_num
    have hden : (0 : Rat) < q.den := by exact_mod_cast q.den_pos
    have hnum : q.num.natAbs ≠ 0 := Int.natAbs_ne_zero.mpr (Rat.num_pos.mpr hq).ne'
    have hcast : (q.num.natAbs : Rat) = q.num := by
      rw [← Int.cast_natCast, Int.natAbs_of_nonneg (Rat.num_pos.mpr hq).le]
    have hn := ten_zpow_digits_le hnum
    have hd := lt_ten_zpow_digits q.den
    set a := ((Nat.toDigits 10 q.num.natAbs).length : Int)
    set b := ((Nat.toDigits 10 q.den).length : Int)
    have heq : q = (q.num.natAbs : Rat) / q.den := by rw [hcast, Rat.num_div_den]
    rw [heq, le_div_iff₀ hden]
    calc (10 : Rat) ^ (a - b - 1) * q.den ≤ 10 ^ (a - b - 1) * 10 ^ b :=
          mul_le_mul_of_nonneg_left hd.le (zpow_pos (by norm_num) _).le
      _ = 10 ^ (a - 1) := by rw [← zpow_add₀ hten]; congr 1; omega
      _ ≤ q.num.natAbs := hn

theorem toRat_round_of_withDigits? (h : withDigits? q n = some d) :
    (Binary64.round d.toRat).toRat = q := by
  unfold withDigits? at h
  dsimp only at h
  split at h
  · cases h
  · rename_i hlow _
    cases h
    exact of_decide_eq_true hlow
  · rename_i _ hhigh
    cases h
    exact of_decide_eq_true hhigh
  · rename_i hlow hhigh
    split_ifs at h <;> cases h <;>
      first | exact of_decide_eq_true hlow | exact of_decide_eq_true hhigh

/-- On a fine grid one of the two neighbours of `q` is near to it. -/
theorem near_or_near {unit : Rat} (hu : 0 < unit) (h : unit < q / 9007199254740992) :
    2 * |(q / unit).floor * unit - q| < q / 9007199254740992 ∨
      2 * |((q / unit).floor + 1) * unit - q| < q / 9007199254740992 := by
  have hle : (q / unit).floor * unit ≤ q := by
    rw [← le_div_iff₀ hu]
    exact Rat.floor_le _
  have hlt : q < ((q / unit).floor + 1) * unit := by
    rw [← div_lt_iff₀ hu]
    exact_mod_cast Rat.lt_floor_add_one _
  rw [abs_of_nonpos (sub_nonpos.mpr hle), abs_of_pos (sub_pos.mpr hlt)]
  by_contra hneither
  rw [not_or, not_lt, not_lt] at hneither
  linarith

/-- Seventeen digits suffice. -/
theorem withDigits?_ne_none (hr : Representable q) (hq : 0 < q) : withDigits? q 17 ≠ none := by
  have hfine : (10 : Rat) ^ (floorLog10 q - (17 : Nat) + 1) < q / 9007199254740992 := by
    have hlog := ten_zpow_floorLog10_le hq
    have he : floorLog10 q - (17 : Nat) + 1 = floorLog10 q + -16 := by omega
    rw [he, zpow_add₀ (by norm_num)]
    norm_num
    linarith
  have hunit : (0 : Rat) < 10 ^ (floorLog10 q - (17 : Nat) + 1) := zpow_pos (by norm_num) _
  unfold withDigits?
  dsimp only
  generalize floorLog10 q - (17 : Nat) + 1 = exponent at *
  have hbelow : (((q / 10 ^ exponent).floor.toNat : Nat) : Rat) = (q / 10 ^ exponent).floor := by
    have hnonneg : 0 ≤ (q / 10 ^ exponent).floor := by
      rw [Rat.le_floor_iff, Int.cast_zero]
      exact (div_pos hq hunit).le
    exact_mod_cast Int.toNat_of_nonneg hnonneg
  have hlow : toRat ⟨(q / 10 ^ exponent).floor.toNat, exponent⟩ =
      (q / 10 ^ exponent).floor * 10 ^ exponent := by
    rw [toRat, ← hbelow]
  have hhigh : toRat ⟨(q / 10 ^ exponent).floor.toNat + 1, exponent⟩ =
      ((q / 10 ^ exponent).floor + 1) * 10 ^ exponent := by
    rw [toRat, ← hbelow, Nat.cast_succ]
  intro hnone
  split at hnone
  · rename_i hl hh
    rw [decide_eq_false_iff_not, hlow] at hl
    rw [decide_eq_false_iff_not, hhigh] at hh
    rcases near_or_near hunit hfine with hnear | hnear
    · exact hl (Binary64.toRat_round_of_near hr hq hnear)
    · exact hh (Binary64.toRat_round_of_near hr hq hnear)
  · cases hnone
  · cases hnone
  · split_ifs at hnone

theorem toRat_round_shortest (hr : Representable q) (hq : 0 < q) :
    (Binary64.round (shortest q).toRat).toRat = q := by
  unfold shortest
  split
  · rename_i d hd
    obtain ⟨n, -, hn⟩ := List.exists_of_findSome?_eq_some hd
    rw [toRat_strip]
    exact toRat_round_of_withDigits? hn
  · rename_i hnone
    rw [List.findSome?_eq_none_iff] at hnone
    exact absurd (hnone 16 (by simp)) (withDigits?_ne_none hr hq)

end Decimal

end DocScript
