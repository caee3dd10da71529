import DocScript.Proofs.Number.Clamping
import DocScript.Proofs.Number.Safe

/-! # Division by zero and remainders

Division and remainder have a result for all safe numbers. A quotient by zero is NaN or an infinity
on the side of both signs. The remainder of two floats fits the format, so that rounding leaves it
alone: it is what a division toward zero leaves.
-/

namespace DocScript

/-- What a division of `p` by `q` toward zero leaves. -/
structure IsRemainder (p q r : Rat) : Prop where
  abs_lt : |r| < |q|
  whole : ∃ k : Int, p - r = k * q
  sign : r = 0 ∨ (r < 0 ↔ p < 0)

theorem isRemainder_tmod {m n : Int} (hn : n ≠ 0) :
    IsRemainder m n (Int.tmod m n : Int) := by
  refine ⟨?_, ⟨Int.tdiv m n, ?_⟩, ?_⟩
  · rw [abs_intCast, abs_intCast, Nat.cast_lt, Int.natAbs_tmod]
    exact Nat.mod_lt _ (Int.natAbs_pos.mpr hn)
  · have hdef := Int.mul_tdiv_add_tmod m n
    have hsub : m - Int.tmod m n = Int.tdiv m n * n := by
      rw [mul_comm]
      omega
    exact_mod_cast hsub
  · rw [Int.cast_eq_zero, Int.cast_lt_zero, Int.cast_lt_zero]
    rcases lt_or_ge m 0 with hm | hm
    · have := Int.tmod_nonneg n (neg_nonneg.mpr hm.le)
      rw [Int.neg_tmod] at this
      omega
    · have := Int.tmod_nonneg n hm
      omega

namespace Binary64

/-- Truncation goes toward zero by less than one. -/
theorem truncate_bounds (q : Rat) :
    0 ≤ q ∧ 0 ≤ (truncate q : Rat) ∧ 0 ≤ q - truncate q ∧ q - truncate q < 1 ∨
      q < 0 ∧ (truncate q : Rat) ≤ 0 ∧ q - truncate q ≤ 0 ∧ -1 < q - truncate q := by
  unfold truncate
  split
  · right
    have hl := Rat.floor_le (-q)
    have hu := Rat.lt_floor_add_one (-q)
    have hf : (0 : Rat) ≤ (-q).floor := by
      exact_mod_cast Rat.le_floor_iff.mpr (by push_cast; linarith)
    push_cast at hl hu ⊢
    refine ⟨‹_›, ?_, ?_, ?_⟩ <;> linarith
  · left
    have hq : 0 ≤ q := not_lt.mp ‹_›
    have hl := Rat.floor_le q
    have hu := Rat.lt_floor_add_one q
    have hf : (0 : Rat) ≤ q.floor := by
      exact_mod_cast Rat.le_floor_iff.mpr (by exact_mod_cast hq)
    push_cast at hl hu
    refine ⟨hq, hf, ?_, ?_⟩ <;> linarith

theorem abs_sub_truncate (q : Rat) : |q - truncate q| < 1 ∧ |q - truncate q| ≤ |q| := by
  rcases truncate_bounds q with ⟨hq, ht, hl, hu⟩ | ⟨hq, ht, hl, hu⟩
  · rw [abs_of_nonneg hl, abs_of_nonneg hq]
    constructor <;> linarith
  · rw [abs_of_nonpos hl, abs_of_neg hq]
    constructor <;> linarith

section Remainder

variable {p q : Rat}

theorem sub_truncate_mul (hq : q ≠ 0) :
    p - truncate (p / q) * q = (p / q - truncate (p / q)) * q := by
  rw [sub_mul, div_mul_cancel₀ p hq]

theorem isRemainder_truncate (hq : q ≠ 0) : IsRemainder p q (p - truncate (p / q) * q) := by
  have hr := sub_truncate_mul (p := p) hq
  refine ⟨?_, ⟨truncate (p / q), by ring⟩, ?_⟩
  · rw [hr, abs_mul]
    exact mul_lt_of_lt_one_left (abs_pos.mpr hq) (abs_sub_truncate (p / q)).1
  · rw [hr]
    by_cases hz : p / q - truncate (p / q) = 0
    · exact .inl (by rw [hz, zero_mul])
    right
    -- What is left of the quotient has the sign of the quotient, and so has the remainder that
    -- of the dividend.
    rcases truncate_bounds (p / q) with ⟨-, ht, hl, -⟩ | ⟨hn, -, hl, -⟩
    · have hf := lt_of_le_of_ne hl (Ne.symm hz)
      rcases div_pos_iff.mp (show 0 < p / q by linarith) with ⟨hp, hq⟩ | ⟨hp, hq⟩
      · exact iff_of_false (mul_pos hf hq).not_gt hp.not_gt
      · exact iff_of_true (mul_neg_of_pos_of_neg hf hq) hp
    · have hf := lt_of_le_of_ne hl hz
      rcases div_neg_iff.mp hn with ⟨hp, hq⟩ | ⟨hp, hq⟩
      · exact iff_of_false (mul_pos_of_neg_of_neg hf hq).not_gt hp.not_gt
      · exact iff_of_true (mul_neg_of_neg_of_pos hf hq) hp

theorem abs_remainder_le (hq : q ≠ 0) : |p - truncate (p / q) * q| ≤ |p| := by
  rw [sub_truncate_mul hq, abs_mul]
  calc |p / q - truncate (p / q)| * |q| ≤ |p / q| * |q| :=
        mul_le_mul_of_nonneg_right (abs_sub_truncate (p / q)).2 (abs_nonneg q)
    _ = |p| := by rw [← abs_mul, div_mul_cancel₀ p hq]

/-- What is no greater than a float and a multiple of its last digit fits the format. -/
theorem representable_of_abs_le {k m e : Int} (hm : m.natAbs < 9007199254740992) (hl : -1074 ≤ e)
    (hu : e ≤ 971) (h : |(k : Rat) * 2 ^ e| ≤ |(m : Rat) * 2 ^ e|) :
    Representable ((k : Rat) * 2 ^ e) := by
  refine ⟨k, e, lt_of_le_of_lt ?_ hm, hl, hu, rfl⟩
  rw [abs_mul, abs_mul, abs_intCast, abs_intCast] at h
  have h := le_of_mul_le_mul_right h (abs_pos.mpr (zpow_ne_zero e two_ne_zero))
  exact Nat.cast_le.mp h

/-- The remainder of two floats is a multiple of the last digit of one of them, and no greater. -/
theorem representable_remainder (hp : Representable p) (hr : Representable q) (hq : q ≠ 0) :
    Representable (p - truncate (p / q) * q) := by
  have hlt := (isRemainder_truncate (p := p) hq).abs_lt
  have hle := abs_remainder_le (p := p) hq
  obtain ⟨m, e, hm, hel, heu, hpe⟩ := hp
  obtain ⟨n, f, hn, hfl, hfu, hqf⟩ := hr
  generalize truncate (p / q) = t at *
  rcases le_total e f with hef | hef
  · obtain ⟨k, hk⟩ := exists_mul_two_zpow hef n
    have hr : p - t * q = ((m - t * k : Int) : Rat) * 2 ^ e := by
      rw [hpe, hqf, hk]
      push_cast
      ring
    rw [hr] at hle ⊢
    exact representable_of_abs_le hm hel heu (by rwa [hpe] at hle)
  · obtain ⟨k, hk⟩ := exists_mul_two_zpow hef m
    have hr : p - t * q = ((k - t * n : Int) : Rat) * 2 ^ f := by
      rw [hpe, hqf, hk]
      push_cast
      ring
    rw [hr] at hlt ⊢
    exact representable_of_abs_le hn hfl hfu (by rw [hqf] at hlt; exact hlt.le)

end Remainder

end Binary64

namespace Number

variable {a b n : Number} {p q : Rat}

def IsInfinite (n : Number) : Prop := ∃ s, n = .float (.infinite s)

theorem not_isInfinite (h : n.value? = some (.real p)) : ¬ n.IsInfinite := by
  rintro ⟨s, rfl⟩
  cases s <;> cases h

/-- A safe number is taken to a float of the same value. -/
theorem IsSafe.exists_float (h : n.IsSafe) :
    ∃ x, n.toBinary64? = .ok x ∧ (float x).value? = n.value? := by
  obtain ⟨x, hx⟩ := h.toBinary64?
  refine ⟨x, hx, ?_⟩
  cases n with
  | int n =>
    simp only [Number.toBinary64?, Binary64.isInfinite_ofInt h] at hx
    cases hx
    exact toInt?_eq_some_iff.mp (Binary64.toInt?_round_intCast h)
  | float y =>
    cases hx
    rfl

theorem value?_rem {x y : Binary64} (hx : (float x).value? = some (.real p))
    (hy : (float y).value? = some (.real q)) (hq : q ≠ 0) :
    (float (x.rem y)).value? = some (.real (p - Binary64.truncate (p / q) * q)) := by
  cases y with
  | nan => cases hy
  | infinite s => cases s <;> cases hy
  | zero s =>
    cases hy
    exact absurd rfl hq
  | finite q' hq' hqr =>
    cases hy
    cases x with
    | nan => cases hx
    | infinite s => cases s <;> cases hx
    | zero s =>
      cases hx
      have hz : Binary64.truncate 0 = 0 := rfl
      simp [Binary64.rem, value?, Binary64.toRat, hz]
    | finite p' hp' hpr =>
      cases hx
      simp only [Binary64.rem, Binary64.toRat]
      split
      · rename_i hz
        rw [hz]
        rfl
      · rw [Binary64.round_of_representable ‹_› (Binary64.representable_remainder hpr hqr hq')]
        rfl

/-- Numbers that are not both integers leave what their floats leave. -/
theorem modulo_eq_rem {x y : Binary64} (hx : a.toBinary64? = .ok x) (hy : b.toBinary64? = .ok y)
    (hints : ∀ m n, a = .int m → b ≠ .int n) (hz : b.isZero = false) (hi : ¬ a.IsInfinite) :
    a.modulo b = .ok (float (x.rem y)).clamp := by
  unfold modulo
  split
  · exact absurd rfl (hints _ _ rfl)
  · rw [if_neg (Bool.eq_false_iff.mp hz)]
    split
    · exact absurd ⟨_, rfl⟩ hi
    · rw [hx, hy]
      rfl

theorem modulo_eq_nan (ha : a.IsSafe) (hb : b.IsSafe)
    (h : b.isZero ∨ a.IsInfinite ∨ a.isNaN ∨ b.isNaN) : a.modulo b = .ok (.float .nan) := by
  obtain ⟨x, hx, -⟩ := ha.exists_float
  obtain ⟨y, hy, -⟩ := hb.exists_float
  cases hz : b.isZero with
  | true =>
    unfold modulo
    split
    · simp_all [isZero]
    · rw [if_pos hz]
  | false =>
    by_cases hi : a.IsInfinite
    · obtain ⟨s, rfl⟩ := hi
      simp [modulo, hz]
    · simp only [hz, hi, isNaN_iff, value?_eq_none_iff, Bool.false_eq_true, false_or] at h
      rcases h with rfl | rfl
      · cases hx
        exact modulo_eq_rem rfl hy (by rintro _ _ ⟨⟩) hz hi
      · cases hy
        have hr : x.rem .nan = .nan := by cases x <;> rfl
        rw [modulo_eq_rem hx rfl (by rintro _ _ - ⟨⟩) hz hi, hr]
        rfl

/-- An infinite divisor leaves the dividend. -/
theorem modulo_infinite (ha : a.IsSafe) (hp : a.value? = some (.real p)) (hb : b.IsInfinite) :
    ∃ r, a.modulo b = .ok r ∧ r.value? = some (.real p) := by
  obtain ⟨s, rfl⟩ := hb
  obtain ⟨x, hx, hv⟩ := ha.exists_float
  rw [hp] at hv
  have hr : x.rem (.infinite s) = x := by
    cases x with
    | infinite t => exact absurd ⟨t, rfl⟩ (not_isInfinite hv)
    | nan | zero | finite => rfl
  refine ⟨_, modulo_eq_rem hx rfl (by rintro _ _ - ⟨⟩) rfl (not_isInfinite hp), ?_⟩
  rw [hr, value?_clamp_float, hv]

theorem modulo_isRemainder (ha : a.IsSafe) (hb : b.IsSafe) (hp : a.value? = some (.real p))
    (hq : b.value? = some (.real q)) (hz : q ≠ 0) :
    ∃ r t, a.modulo b = .ok r ∧ r.value? = some (.real t) ∧ IsRemainder p q t := by
  by_cases hints : ∃ m n, a = .int m ∧ b = .int n
  · obtain ⟨m, n, rfl, rfl⟩ := hints
    cases hp
    cases hq
    have hn : n ≠ 0 := Int.cast_ne_zero.mp hz
    exact ⟨_, _, if_neg hn, rfl, isRemainder_tmod hn⟩
  · obtain ⟨x, hx, hxv⟩ := ha.exists_float
    obtain ⟨y, hy, hyv⟩ := hb.exists_float
    have hbz : b.isZero = false := by
      rw [Bool.eq_false_iff, ne_eq, isZero_iff, hq]
      rintro ⟨⟩
      exact hz rfl
    refine ⟨_, _, modulo_eq_rem hx hy ?_ hbz (not_isInfinite hp), ?_,
      Binary64.isRemainder_truncate hz⟩
    · rintro m n rfl rfl
      exact hints ⟨m, n, rfl, rfl⟩
    · rw [value?_clamp_float, value?_rem (hxv.trans hp) (hyv.trans hq) hz]

/-- Only the signs of zeros do not show in the value. -/
theorem isNegative_eq_lt (h : n.isZero = false) : n.isNegative = n.lt (.int 0) := by
  rcases n with n | (_ | ⟨_ | _⟩ | _ | _) <;>
    simp_all [isZero, Binary64.isZero, isNegative, Binary64.isNegative, lt, value?, Extended.lt,
      Binary64.toRat]

/-- By zero, zeros and NaN are divided into NaN. -/
theorem divide_zero_eq_nan (hb : b.isZero) (ha : a.isZero ∨ a.isNaN) :
    a.divide b = .ok (.float .nan) := by
  simp [divide, hb, ha]

/-- By zero, all other numbers are divided into an infinity on the side of both signs. -/
theorem divide_zero_eq_infinite (hs : a.IsSafe) (hb : b.isZero) (ha : ¬ (a.isZero ∨ a.isNaN)) :
    a.divide b = .ok (.float (.infinite (a.isNegative != b.isNegative))) := by
  obtain ⟨x, hx, hv⟩ := hs.exists_float
  have hz : a.isZero = false := by simp_all
  have hxz : (float x).isZero = false := by
    rw [Bool.eq_false_iff, ne_eq, isZero_iff, hv, ← isZero_iff, hz]
    decide
  have hn : x.isNegative = a.isNegative := by
    rw [isNegative_eq_lt hz, lt, ← hv]
    exact isNegative_eq_lt hxz
  simp [divide, hb, ha, hx, hn, bind, Except.bind, pure, Except.pure]

/-- Safe numbers have a quotient and a remainder. By zero, the quotient is NaN or an infinity, and
the remainder is NaN. -/
theorem divide_modulo_total (ha : a.IsSafe) (hb : b.IsSafe) :
    (∃ n, a.divide b = .ok n) ∧ (∃ n, a.modulo b = .ok n) ∧
    (b.isZero → (a.isZero ∨ a.isNaN → a.divide b = .ok (.float .nan)) ∧
      (¬ (a.isZero ∨ a.isNaN) →
        a.divide b = .ok (.float (.infinite (a.isNegative != b.isNegative))))) ∧
    (b.isZero ∨ a.IsInfinite ∨ a.isNaN ∨ b.isNaN → a.modulo b = .ok (.float .nan)) ∧
    (∀ p, a.value? = some (.real p) → b.IsInfinite →
      ∃ r, a.modulo b = .ok r ∧ r.value? = some (.real p)) ∧
    ∀ p q, a.value? = some (.real p) → b.value? = some (.real q) → q ≠ 0 →
      ∃ r t, a.modulo b = .ok r ∧ r.value? = some (.real t) ∧ IsRemainder p q t := by
  obtain ⟨d, hd, -⟩ := ha.divide hb
  obtain ⟨m, hm, -⟩ := ha.modulo hb
  exact ⟨⟨d, hd⟩, ⟨m, hm⟩,
    fun hz => ⟨divide_zero_eq_nan hz, divide_zero_eq_infinite ha hz⟩,
    modulo_eq_nan ha hb, fun _ hp hi => modulo_infinite ha hp hi,
    fun _ _ hp hq hz => modulo_isRemainder ha hb hp hq hz⟩

/-- The lowest safe integer goes to infinity over a negative zero, and leaves an exact remainder
behind the float nearest to three tenths. -/
theorem divide_modulo_lowest :
    let a : Number := .int (-9007199254740992)
    let b : Number := .float (.round (3 / 10))
    let zero : Number := .float (.zero true)
    a.IsSafe ∧ b.IsSafe ∧ zero.IsSafe ∧ a.divide zero = .ok (.float (.infinite false)) ∧
      ∃ r t, a.modulo b = .ok r ∧ r.value? = some (.real t) ∧
        IsRemainder (-9007199254740992) (5404319552844595 / 2 ^ 54) t := by
  intro a b zero
  have ha : a.IsSafe := show (-9007199254740992 : Int).natAbs ≤ maxSafe by decide
  have hb : b.value? = some (.real (5404319552844595 / 2 ^ 54)) := by decide +kernel
  have hdivide := (divide_modulo_total ha (b := zero) trivial).2.2.1 rfl
  have hmodulo := (divide_modulo_total ha (b := b) trivial).2.2.2.2.2
  refine ⟨ha, trivial, trivial, hdivide.2 (by decide), ?_⟩
  obtain ⟨r, t, hr, ht, h⟩ := hmodulo _ _ rfl hb (by norm_num)
  exact ⟨r, t, hr, ht, by exact_mod_cast h⟩

end Number

end DocScript
