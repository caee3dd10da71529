import DocScript.Number.Numeral
import DocScript.Proofs.Number.Representable

/-! # The nearest float

Rounding finds a float that no other one is nearer than, or an infinity from halfway between the
greatest float and the next power of two. So numerals are read as the floats nearest to them, unless
they denote safe integers.
-/

namespace DocScript

section RoundHalfEven

variable {q : Rat} {n : Int}

/-- No integer is nearer. -/
theorem abs_roundHalfEven_sub_le (q : Rat) (n : Int) : |(roundHalfEven q : Rat) - q| ≤ |n - q| := by
  have hnear := roundHalfEven_near q
  by_cases h : n = roundHalfEven q
  · rw [h]
  · have hone : (1 : Rat) ≤ |(n : Rat) - roundHalfEven q| := by
      rw [← Int.cast_sub, ← Int.cast_abs]
      exact_mod_cast Int.one_le_abs (sub_ne_zero.mpr h)
    have htri := abs_sub_le (n : Rat) q (roundHalfEven q)
    rw [abs_sub_comm q] at htri
    linarith

theorem roundHalfEven_eq_floor_or (q : Rat) :
    roundHalfEven q = q.floor ∨ roundHalfEven q = q.floor + 1 := by
  unfold roundHalfEven
  dsimp only
  split_ifs <;> simp

/-- What is at most halfway below an even integer is not rounded below it. -/
theorem le_roundHalfEven (hn : n % 2 = 0) (h : n - 1 / 2 ≤ q) : n ≤ roundHalfEven q := by
  have hle : n - 1 ≤ q.floor := by
    rw [Rat.le_floor_iff]
    push_cast
    linarith
  rcases hle.eq_or_lt with heq | hlt
  · have hrest : ¬ q - q.floor < 1 / 2 := by
      rw [← heq]
      push_cast
      linarith
    have hodd : ¬ q.floor % 2 = 0 := by omega
    simp only [roundHalfEven, if_neg hrest, if_neg hodd, ite_self]
    omega
  · have := roundHalfEven_eq_floor_or q
    omega

/-- Nor is what is at most halfway above it rounded above it. -/
theorem roundHalfEven_le (hn : n % 2 = 0) (h : q ≤ n + 1 / 2) : roundHalfEven q ≤ n := by
  have hle : q.floor < n + 1 := by
    rw [Rat.floor_lt_iff]
    push_cast
    linarith
  rcases (Int.lt_add_one_iff.mp hle).eq_or_lt with heq | hlt
  · have hrest : ¬ 1 / 2 < q - q.floor := by
      rw [heq]
      linarith
    have heven : q.floor % 2 = 0 := by omega
    simp only [roundHalfEven, if_neg hrest, if_pos heven, ite_self]
    omega
  · have := roundHalfEven_eq_floor_or q
    omega

theorem roundHalfEven_neg_iff (q : Rat) (h : roundHalfEven q ≠ 0) :
    roundHalfEven q < 0 ↔ q < 0 := by
  have hnear := abs_le.mp (roundHalfEven_near q)
  constructor
  · intro hlt
    have : (roundHalfEven q : Rat) ≤ -1 := by exact_mod_cast Int.le_sub_one_of_lt hlt
    linarith
  · intro hlt
    by_contra hge
    have : (1 : Rat) ≤ roundHalfEven q := by exact_mod_cast (by omega : 1 ≤ roundHalfEven q)
    linarith

end RoundHalfEven

namespace Binary64

variable {q p : Rat}

/-- Whether no float is nearer to a rational in range than a value. -/
structure IsClosest (q value : Rat) : Prop where
  lt : |q| < overflow
  le : ∀ p, Representable p → |value - q| ≤ |p - q|

/-- Whether a float is nearest to a rational, as the infinity on its side is to one out of range. -/
def IsNearest (q : Rat) : Binary64 → Prop
  | .nan => False
  | .infinite negative => overflow ≤ |q| ∧ (negative = true ↔ q < 0)
  | x => IsClosest q x.toRat

section Grid

variable {m e : Int}

/-- No multiple of a unit is nearer than the one that rounding finds. -/
theorem abs_roundHalfEven_mul_sub_le (q : Rat) (e k : Int) :
    |(roundHalfEven (q / 2 ^ e) : Rat) * 2 ^ e - q| ≤ |(k : Rat) * 2 ^ e - q| := by
  have hpos : (0 : Rat) < 2 ^ e := zpow_pos (by norm_num) e
  have hscale (m : Int) : |(m : Rat) * 2 ^ e - q| = |(m : Rat) - q / 2 ^ e| * 2 ^ e := by
    rw [← abs_of_pos hpos, ← abs_mul, sub_mul, abs_of_pos hpos, div_mul_cancel₀ _ hpos.ne']
  rw [hscale, hscale]
  exact mul_le_mul_of_nonneg_right (abs_roundHalfEven_sub_le _ _) hpos.le

/-- The 53rd binary digit alone is a multiple of the unit between a rational and zero. -/
theorem exists_abs_mul_sub_eq (hq : q ≠ 0) (h : (2 : Rat) ^ (52 + e) ≤ |q|) :
    ∃ k : Int, |(k : Rat) * 2 ^ e - q| = |q| - 2 ^ (52 + e) := by
  have hpow : (2 : Rat) ^ (52 + e) = 4503599627370496 * 2 ^ e := by
    rw [zpow_add₀ (by norm_num)]
    norm_num
  rw [hpow] at h ⊢
  rcases lt_or_gt_of_ne hq with hneg | hpos
  · rw [abs_of_neg hneg] at h ⊢
    refine ⟨-4503599627370496, ?_⟩
    push_cast
    rw [abs_of_nonneg] <;> linarith
  · rw [abs_of_pos hpos] at h ⊢
    refine ⟨4503599627370496, ?_⟩
    push_cast
    rw [abs_of_nonpos] <;> linarith

/-- No float is nearer than the multiple of the last place that rounding finds. -/
theorem abs_roundHalfEven_lastPlace_sub_le (hq : q ≠ 0) (hp : Representable p) :
    |(roundHalfEven (q / 2 ^ lastPlace q) : Rat) * 2 ^ lastPlace q - q| ≤ |p - q| := by
  obtain ⟨m, f, hm, hl, -, rfl⟩ := hp
  rcases le_or_gt (lastPlace q) f with hle | hlt
  · obtain ⟨k, hk⟩ := exists_mul_two_zpow hle m
    rw [hk]
    exact abs_roundHalfEven_mul_sub_le q _ k
  · -- A float of a smaller exponent is farther than the leading digit of `q`.
    have hlog : lastPlace q + 52 = floorLog2 |q| := by
      rw [lastPlace, ratAbs_eq] at *
      omega
    have hlead : (2 : Rat) ^ (52 + lastPlace q) ≤ |q| := by
      rw [add_comm, hlog]
      exact two_zpow_floorLog2_le (abs_pos.mpr hq)
    have hsmall : |(m : Rat) * 2 ^ f| ≤ 2 ^ (52 + lastPlace q) :=
      (abs_scaled_lt hm f).le.trans (zpow_le_zpow_right₀ (by norm_num) (by omega))
    obtain ⟨k, hk⟩ := exists_abs_mul_sub_eq hq hlead
    calc _ ≤ |(k : Rat) * 2 ^ lastPlace q - q| := abs_roundHalfEven_mul_sub_le q _ k
      _ = |q| - 2 ^ (52 + lastPlace q) := hk
      _ ≤ |q| - |(m : Rat) * 2 ^ f| := sub_le_sub_left hsmall _
      _ ≤ |q - (m : Rat) * 2 ^ f| := abs_sub_abs_le_abs_sub _ _
      _ = |(m : Rat) * 2 ^ f - q| := abs_sub_comm _ _

end Grid

section Scaled

variable {m e : Int}

theorem isNaN_ofScaled (m e : Int) : (ofScaled m e).isNaN = false := by
  unfold ofScaled
  split_ifs <;> rfl

theorem isInfinite_ofScaled_of_lt (hm : m ≠ 0) (he : 971 < e) :
    (ofScaled m e).isInfinite = true := by
  unfold ofScaled
  rw [dif_neg hm, dif_neg fun h => absurd h.2.2 (not_le.mpr he)]
  rfl

theorem isNegative_ofScaled (hm : m ≠ 0) (e : Int) :
    (ofScaled m e).isNegative = decide (m < 0) := by
  have hpos : (0 : Rat) < 2 ^ e := zpow_pos (by norm_num) e
  unfold ofScaled
  rw [dif_neg hm]
  split
  · simp [isNegative, mul_neg_iff, hpos, hpos.le]
  · rfl

end Scaled

theorem isNaN_round (q : Rat) : (round q).isNaN = false := by
  unfold round
  dsimp only
  split_ifs
  · rfl
  · rfl
  · exact isNaN_ofScaled _ _
  · exact isNaN_ofScaled _ _

/-- Rounding keeps the sign, even of what it takes to zero. -/
theorem isNegative_round (q : Rat) : (round q).isNegative = decide (q < 0) := by
  have hpos : (0 : Rat) < 2 ^ lastPlace q := zpow_pos (by norm_num) _
  have hsign : q / 2 ^ lastPlace q < 0 ↔ q < 0 := by rw [div_neg_iff]; simp [hpos, hpos.le]
  have hround := roundHalfEven_neg_iff (q / 2 ^ lastPlace q)
  unfold round
  dsimp only
  split_ifs with hq hm hfull
  · rw [hq]
    rfl
  · rfl
  · rw [isNegative_ofScaled (by omega), decide_eq_decide, ← hsign, ← hround hm]
    omega
  · rw [isNegative_ofScaled hm, decide_eq_decide, ← hsign, ← hround hm]

/-- At the last exponent, what rounding overflows from has a digit too many. -/
theorem le_natAbs_roundHalfEven (h : overflow ≤ |q|) :
    9007199254740992 ≤ (roundHalfEven (q / 2 ^ (971 : Int))).natAbs := by
  have hpos : (0 : Rat) < 2 ^ (971 : Int) := zpow_pos (by norm_num) _
  have hle : 9007199254740992 - 1 / 2 ≤ |q / (2 : Rat) ^ (971 : Int)| := by
    rw [overflow] at h
    generalize (2 : Rat) ^ (971 : Int) = unit at *
    rwa [abs_div, abs_of_pos hpos, le_div_iff₀ hpos]
  generalize q / (2 : Rat) ^ (971 : Int) = r at *
  rcases le_total 0 r with hr | hr
  · rw [abs_of_nonneg hr] at hle
    have hm : 9007199254740992 ≤ roundHalfEven r :=
      le_roundHalfEven (by decide) (by push_cast; exact hle)
    omega
  · rw [abs_of_nonpos hr] at hle
    have hm : roundHalfEven r ≤ -9007199254740992 :=
      roundHalfEven_le (by decide) (by push_cast; linarith)
    omega

theorem two_zpow_le_overflow : (2 : Rat) ^ (1023 : Int) ≤ overflow := by
  have hpos : (0 : Rat) < 2 ^ (971 : Int) := zpow_pos (by norm_num) _
  calc (2 : Rat) ^ (1023 : Int) = 2 ^ (52 : Int) * 2 ^ (971 : Int) :=
        zpow_add₀ (by norm_num : (2 : Rat) ≠ 0) 52 971
    _ ≤ overflow := mul_le_mul_of_nonneg_right (by norm_num) hpos.le

/-- Only what is below the smallest normal float is rounded to zero. -/
theorem roundHalfEven_ne_zero (h : (2 : Rat) ^ (-1022 : Int) ≤ |q|) :
    roundHalfEven (q / 2 ^ lastPlace q) ≠ 0 := by
  intro hz
  have hpos : (0 : Rat) < 2 ^ lastPlace q := zpow_pos (by norm_num) _
  have hq : 0 < |q| := (zpow_pos (by norm_num) _).trans_le h
  have hlead : (1 : Rat) ≤ |q / 2 ^ lastPlace q| := by
    rw [abs_div, abs_of_pos hpos, le_div_iff₀ hpos, one_mul, lastPlace_of_normal h]
    exact (zpow_le_zpow_right₀ (by norm_num) (by omega)).trans (two_zpow_floorLog2_le hq)
  have hnear := roundHalfEven_near (q / 2 ^ lastPlace q)
  rw [hz, Int.cast_zero, zero_sub, abs_neg] at hnear
  linarith

theorem isInfinite_round_of_overflow (h : overflow ≤ |q|) : (round q).isInfinite = true := by
  have hpow := two_zpow_le_overflow.trans h
  have hq : q ≠ 0 := abs_pos.mp ((zpow_pos (by norm_num) _).trans_le hpow)
  have hlog := le_floorLog2 hq hpow
  have hnormal : (2 : Rat) ^ (-1022 : Int) ≤ |q| :=
    (zpow_le_zpow_right₀ (by norm_num) (by norm_num)).trans hpow
  have hlast := lastPlace_of_normal hnormal
  have hm := roundHalfEven_ne_zero hnormal
  have hle := natAbs_roundHalfEven_le (abs_div_lastPlace_lt hq).le
  unfold round
  rw [if_neg hq]
  dsimp only
  rw [if_neg hm]
  split_ifs with hfull
  · exact isInfinite_ofScaled_of_lt (by omega) (by omega)
  · refine isInfinite_ofScaled_of_lt hm (lt_of_le_of_ne (by omega) ?_)
    intro he
    have hdigit := le_natAbs_roundHalfEven h
    rw [he] at hdigit
    omega

/-- What rounding finds is nearest. -/
theorem isNearest_round (q : Rat) : (round q).IsNearest q := by
  by_cases hlt : |q| < overflow
  · have hfinite := isInfinite_round_of_lt hlt
    have hclosest : IsClosest q (round q).toRat := by
      refine ⟨hlt, fun p hp => ?_⟩
      by_cases hq : q = 0
      · have hz : (round q).toRat = 0 := by
          rw [hq]
          rfl
        rw [hz, hq, sub_zero, abs_zero]
        exact abs_nonneg _
      · rw [toRat_round hq hfinite]
        exact abs_roundHalfEven_lastPlace_sub_le hq hp
    have hnan := isNaN_round q
    cases hx : round q with
    | nan => rw [hx] at hnan; cases hnan
    | infinite => rw [hx] at hfinite; cases hfinite
    | zero | finite => rw [hx] at hclosest; exact hclosest
  · have hinfinite := isInfinite_round_of_overflow (not_lt.mp hlt)
    have hsign := isNegative_round q
    cases hx : round q with
    | infinite negative =>
      rw [hx] at hsign
      exact ⟨not_lt.mp hlt, by rw [show negative = _ from hsign, decide_eq_true_iff]⟩
    | nan | zero | finite => rw [hx] at hinfinite; cases hinfinite

/-- Every float but zero is at least the smallest one. -/
theorem two_zpow_le_abs (hp : Representable p) (h : p ≠ 0) : (2 : Rat) ^ (-1074 : Int) ≤ |p| := by
  obtain ⟨m, e, -, he, -, rfl⟩ := hp
  have hpos : (0 : Rat) < 2 ^ e := zpow_pos (by norm_num) e
  have hm : m ≠ 0 := by
    rintro rfl
    exact h (by rw [Int.cast_zero, zero_mul])
  have hone : (1 : Rat) ≤ |(m : Rat)| := by exact_mod_cast Int.one_le_abs hm
  calc (2 : Rat) ^ (-1074 : Int) ≤ 2 ^ e := zpow_le_zpow_right₀ (by norm_num) he
    _ ≤ |(m : Rat)| * 2 ^ e := le_mul_of_one_le_left hpos.le hone
    _ = |(m : Rat) * 2 ^ e| := by rw [abs_mul, abs_of_pos hpos]

/-- Zero is closest to half the smallest float and less. -/
theorem isClosest_zero (h : |q| ≤ 2 ^ (-1075 : Int)) : IsClosest q 0 where
  lt := by
    refine h.trans_lt (lt_of_le_of_lt ?_ maxSafe_lt_overflow)
    rw [cast_maxSafe]
    exact zpow_le_zpow_right₀ (by norm_num) (by norm_num)
  le p hp := by
    rw [zero_sub, abs_neg]
    rcases eq_or_ne p 0 with rfl | hne
    · rw [zero_sub, abs_neg]
    · have htwo : (2 : Rat) ^ (-1074 : Int) = 2 * 2 ^ (-1075 : Int) := by
        rw [← zpow_one_add₀ (by norm_num)]
        rfl
      have hle := two_zpow_le_abs hp hne
      have htri := abs_sub_abs_le_abs_sub p q
      linarith

theorem IsClosest.neg {value : Rat} (h : IsClosest q value) : IsClosest (-q) (-value) := by
  refine ⟨by rw [abs_neg]; exact h.lt, fun p hp => ?_⟩
  have hvalue : -value - -q = -(value - q) := by ring
  have hp' : p - -q = -(-p - q) := by ring
  rw [hvalue, hp', abs_neg, abs_neg]
  exact h.le (-p) hp.neg

theorem IsNearest.neg {x : Binary64} (h : x.IsNearest q) : x.neg.IsNearest (-q) := by
  cases x with
  | nan => exact h
  | infinite negative =>
    obtain ⟨hle, hsign⟩ := h
    have hq : 0 < |q| := (maxSafe_lt_overflow.trans_le hle).trans_le' (Nat.cast_nonneg _)
    have hq := abs_pos.mp hq
    refine ⟨by rwa [abs_neg], ?_⟩
    cases negative <;> simp_all [lt_iff_le_and_ne]
  | zero =>
    have hneg := IsClosest.neg h
    rwa [show (zero _).toRat = 0 from rfl, neg_zero] at hneg
  | finite => exact IsClosest.neg h

theorem IsNearest.isNegative_neg {x : Binary64} (h : x.IsNearest q) :
    x.neg.isNegative = !x.isNegative := by
  cases x with
  | nan => exact h.elim
  | infinite | zero => rfl
  | finite p hp =>
    show decide (-p < 0) = !decide (p < 0)
    rcases lt_or_gt_of_ne hp with hlt | hgt
    · simp [hlt, hlt.le]
    · simp [hgt, hgt.le]

end Binary64

/-! ## Decimals -/

section Powers

variable {e : Int}

theorem two_zpow_le_ten_zpow (h : 0 ≤ e) : (2 : Rat) ^ (3 * e) ≤ 10 ^ e := by
  rw [zpow_mul]
  exact zpow_le_zpow_left₀ h (by norm_num) (by norm_num)

theorem ten_zpow_le_two_zpow (h : e ≤ 0) : (10 : Rat) ^ e ≤ 2 ^ (3 * e) := by
  have hinv := two_zpow_le_ten_zpow (neg_nonneg.mpr h)
  rw [mul_neg, zpow_neg, zpow_neg] at hinv
  exact (inv_le_inv₀ (zpow_pos (by norm_num) _) (zpow_pos (by norm_num) _)).mp hinv

end Powers

namespace Decimal

variable {d : Decimal}

theorem toRat_nonneg (d : Decimal) : 0 ≤ d.toRat :=
  mul_nonneg (Nat.cast_nonneg _) (zpow_pos (by norm_num) _).le

theorem overflow_le_toRat (hc : d.coefficient ≠ 0) (he : 400 < d.exponent) :
    Binary64.overflow ≤ d.toRat := by
  have hc : (1 : Rat) ≤ d.coefficient := by exact_mod_cast Nat.pos_of_ne_zero hc
  calc Binary64.overflow ≤ 2 ^ (1024 : Int) := Binary64.overflow_lt.le
    _ ≤ 2 ^ (3 * d.exponent) := zpow_le_zpow_right₀ (by norm_num) (by omega)
    _ ≤ 10 ^ d.exponent := two_zpow_le_ten_zpow (by omega)
    _ ≤ d.toRat := le_mul_of_one_le_left (zpow_pos (by norm_num) _).le hc

theorem toRat_le (he : d.exponent < -400 - (d.coefficient.log2 : Int)) :
    d.toRat ≤ 2 ^ (-1075 : Int) := by
  have hten : (0 : Rat) < 10 ^ d.exponent := zpow_pos (by norm_num) _
  calc d.toRat ≤ 2 ^ ((d.coefficient.log2 : Int) + 1) * 10 ^ d.exponent :=
        mul_le_mul_of_nonneg_right (lt_two_zpow_log2_succ _).le hten.le
    _ ≤ 2 ^ ((d.coefficient.log2 : Int) + 1) * 2 ^ (3 * d.exponent) :=
        mul_le_mul_of_nonneg_left (ten_zpow_le_two_zpow (by omega)) (zpow_pos (by norm_num) _).le
    _ = 2 ^ ((d.coefficient.log2 : Int) + 1 + 3 * d.exponent) :=
        (zpow_add₀ (by norm_num) _ _).symm
    _ ≤ 2 ^ (-1075 : Int) := zpow_le_zpow_right₀ (by norm_num) (by omega)

/-- A decimal is read as the float nearest to it. -/
theorem isNearest_toBinary64 (d : Decimal) : d.toBinary64.IsNearest d.toRat := by
  have hnonneg := d.toRat_nonneg
  unfold toBinary64
  split_ifs with hc hlarge hsmall
  · have hz : d.toRat = 0 := by rw [toRat, hc, Nat.cast_zero, zero_mul]
    rw [hz]
    exact Binary64.isNearest_round 0
  · exact ⟨by rw [abs_of_nonneg hnonneg]; exact overflow_le_toRat hc hlarge, by simpa using hnonneg⟩
  · exact Binary64.isClosest_zero (by rw [abs_of_nonneg hnonneg]; exact toRat_le hsmall)
  · exact Binary64.isNearest_round _

theorem isNegative_toBinary64 (d : Decimal) : d.toBinary64.isNegative = false := by
  unfold toBinary64
  split_ifs
  · rfl
  · rfl
  · rfl
  · rw [Binary64.isNegative_round, decide_eq_false_iff_not, not_lt]
    exact d.toRat_nonneg

end Decimal

/-! ## Numerals -/

theorem foldl_digits (n : Nat) (digits : List Nat) :
    digits.foldl (fun n d => 10 * n + d) n = n * 10 ^ digits.length + natOfDigits digits := by
  induction digits generalizing n with
  | nil => simp [natOfDigits]
  | cons d rest ih =>
    rw [natOfDigits, List.foldl_cons, List.foldl_cons, ih, ih (10 * 0 + d), List.length_cons]
    ring

theorem natOfDigits_append (ds es : List Nat) :
    natOfDigits (ds ++ es) = natOfDigits ds * 10 ^ es.length + natOfDigits es := by
  rw [natOfDigits, List.foldl_append]
  exact foldl_digits _ es

namespace Numeral

/-- The exact value of a numeral without its sign. -/
def toRat (n : Numeral) : Rat :=
  (natOfDigits n.whole + natOfDigits n.fraction / 10 ^ n.fraction.length) *
    10 ^ n.exponent.getD 0

theorem toRat_toDecimal (n : Numeral) : n.toDecimal.toRat = n.toRat := by
  have hten : (10 : Rat) ≠ 0 := by norm_num
  have hpow : (10 : Rat) ^ n.fraction.length ≠ 0 := pow_ne_zero _ hten
  rw [Decimal.toRat, toDecimal, toRat, natOfDigits_append, zpow_sub₀ hten, zpow_natCast]
  push_cast
  rw [mul_div_assoc', mul_div_right_comm, add_div, mul_div_cancel_right₀ _ hpow]

/-- The exact value of a numeral behind a sign. -/
def signedRat (negative : Bool) (n : Numeral) : Rat := if negative then -n.toRat else n.toRat

/-- What a numeral behind a sign stands for: a safe integer itself, and the float nearest to any
other value, with its sign. -/
inductive Denotes (negative : Bool) (n : Numeral) : Number → Prop
  | exact (hi : n.isInteger) (h : natOfDigits n.whole ≤ maxSafe) :
    Denotes negative n (.int (signed negative (natOfDigits n.whole)))
  | rounded (h : n.isInteger → maxSafe < natOfDigits n.whole) {x : Binary64}
    (hx : x.IsNearest (n.signedRat negative)) (hs : x.isNegative = negative) :
    Denotes negative n (.float x)

variable {n : Numeral} {number : Number} {negative : Bool}

theorem signedRat_of_isInteger (hf : n.point = false → n.fraction = []) (hi : n.isInteger) :
    n.signedRat negative = (signed negative (natOfDigits n.whole) : Int) := by
  simp only [isInteger, Bool.and_eq_true, Bool.not_eq_true', Option.isNone_iff_eq_none] at hi
  have hrat : n.toRat = natOfDigits n.whole := by
    simp [toRat, hf hi.1, hi.2, natOfDigits]
  rw [signedRat, hrat, signed]
  split <;> push_cast <;> rfl

/-- An integer is exact if it is safe, and the nearest float if it is not. -/
theorem denotes_of_isInteger (hf : n.point = false → n.fraction = []) (hi : n.isInteger) :
    n.Denotes negative (Number.clamp (.int (signed negative (natOfDigits n.whole)))) := by
  have habs : (signed negative (natOfDigits n.whole)).natAbs = natOfDigits n.whole := by
    cases negative <;> simp [signed]
  rw [Number.clamp, habs]
  split
  · exact .exact hi ‹_›
  · rename_i hlarge
    have hlarge := not_le.mp hlarge
    refine .rounded (fun _ => hlarge) ?_ ?_
    · rw [signedRat_of_isInteger hf hi]
      exact Binary64.isNearest_round _
    · have hpos : 0 < natOfDigits n.whole := Nat.zero_lt_of_lt hlarge
      simp only [Binary64.ofInt, Binary64.isNegative_round, Int.cast_lt_zero]
      cases negative <;> simp [signed, hpos]

/-- What a numeral is read as is what it stands for. -/
theorem denotes_of_value (hf : n.point = false → n.fraction = [])
    (h : n.value negative = .ok number) : n.Denotes negative number := by
  unfold value at h
  split at h
  · rename_i hi
    split at h <;> cases h
    exact denotes_of_isInteger hf hi
  · rename_i hi
    cases h
    have hnearest := n.toDecimal.isNearest_toBinary64
    have hsign := n.toDecimal.isNegative_toBinary64
    rw [toRat_toDecimal] at hnearest
    cases negative with
    | false => exact .rounded (absurd · hi) hnearest hsign
    | true =>
      refine .rounded (absurd · hi) hnearest.neg ?_
      rw [if_pos rfl, hnearest.isNegative_neg, hsign]
      rfl

end Numeral

end DocScript
