import DocScript.Expr.Eval
import DocScript.Proofs.Number.Clamping
import DocScript.Proofs.Number.Safe

/-! # Exact results

Arithmetic on safe integers gives an integer exactly if the result is a safe one, which it is then
exactly. For division this needs that no other quotient is rounded to an integer: it is further from
every integer than half a unit of its last place.
-/

namespace DocScript

section Quotient

variable {a b k : Int}

theorem abs_cast_le_maxSafe (h : a.natAbs ≤ maxSafe) : |(a : Rat)| ≤ maxSafe := by
  rw [abs_intCast]
  exact Nat.cast_le.mpr h

theorem abs_mul_abs_div (hb : b ≠ 0) : |(b : Rat)| * |(a : Rat) / b| = |(a : Rat)| := by
  rw [← abs_mul, mul_div_cancel₀ _ (Int.cast_ne_zero.mpr hb)]

/-- A quotient that is no integer keeps its distance from all of them. -/
theorem one_le_abs_mul_abs_sub (hb : b ≠ 0) (h : (a : Rat) / b ≠ k) :
    1 ≤ |(b : Rat)| * |(k : Rat) - a / b| := by
  have hb' : (b : Rat) ≠ 0 := Int.cast_ne_zero.mpr hb
  have hne : b * k - a ≠ 0 := by
    intro hz
    apply h
    rw [div_eq_iff hb', ← Int.cast_mul, Int.cast_inj]
    linarith
  have hmul : |(b : Rat)| * |(k : Rat) - a / b| = ((b * k - a).natAbs : Rat) := by
    rw [← abs_mul, mul_sub, mul_div_cancel₀ _ hb', ← abs_intCast]
    push_cast
    rfl
  rw [hmul, Nat.one_le_cast]
  exact Int.natAbs_pos.mpr hne

/-- The power of two below a quotient that is no integer is below it by more than nothing, or it is
below one. -/
theorem abs_mul_two_zpow_lt (hb : b ≠ 0) (ha : a.natAbs ≤ maxSafe) (hs : b.natAbs ≤ maxSafe)
    (h : ∀ k : Int, (a : Rat) / b ≠ k) :
    |(b : Rat)| * 2 ^ floorLog2 |(a : Rat) / b| < 2 ^ (53 : Int) := by
  have hb' : 0 < |(b : Rat)| := abs_pos.mpr (Int.cast_ne_zero.mpr hb)
  have hq : (a : Rat) / b ≠ 0 := by
    rw [← Int.cast_zero]
    exact h 0
  have hle := two_zpow_floorLog2_le (abs_pos.mpr hq)
  rw [← cast_maxSafe]
  rcases lt_or_ge (floorLog2 |(a : Rat) / b|) 0 with hneg | hnonneg
  · calc |(b : Rat)| * 2 ^ floorLog2 |(a : Rat) / b| < |(b : Rat)| * 1 :=
          mul_lt_mul_of_pos_left (zpow_lt_one_of_neg₀ (by norm_num) hneg) hb'
      _ ≤ maxSafe := by rw [mul_one]; exact abs_cast_le_maxSafe hs
  · obtain ⟨n, hn⟩ := Int.eq_ofNat_of_zero_le hnonneg
    have hlt : (2 : Rat) ^ floorLog2 |(a : Rat) / b| < |(a : Rat) / b| := by
      refine hle.lt_of_ne fun he => ?_
      rw [hn, zpow_natCast] at he
      rcases abs_eq_abs.mp ((abs_of_nonneg (by positivity)).trans he) with hp | hp
      · exact h (2 ^ n) (by rw [← hp]; push_cast; rfl)
      · exact h (-2 ^ n) (by rw [← neg_eq_iff_eq_neg.mpr hp]; push_cast; rfl)
    calc |(b : Rat)| * 2 ^ floorLog2 |(a : Rat) / b| < |(b : Rat)| * |(a : Rat) / b| :=
          mul_lt_mul_of_pos_left hlt hb'
      _ = |(a : Rat)| := abs_mul_abs_div hb
      _ ≤ maxSafe := abs_cast_le_maxSafe ha

theorem lastPlace_quotient (hb : b ≠ 0) (ha : a ≠ 0) (hs : b.natAbs ≤ maxSafe) :
    Binary64.lastPlace ((a : Rat) / b) = floorLog2 |(a : Rat) / b| - 52 := by
  apply Binary64.lastPlace_of_normal
  have hone : (1 : Rat) ≤ |(b : Rat)| * |(a : Rat) / b| := by
    rw [abs_mul_abs_div hb, abs_intCast, Nat.one_le_cast]
    exact Int.natAbs_pos.mpr ha
  have hle := hone.trans (mul_le_mul_of_nonneg_right (abs_cast_le_maxSafe hs) (abs_nonneg _))
  calc
    (2 : Rat) ^ (-1022 : Int) ≤ 2 ^ (-53 : Int) :=
      zpow_le_zpow_right₀ (by norm_num) (by norm_num)
    _ = 1 / maxSafe := by rw [cast_maxSafe]; norm_num
    _ ≤ |(a : Rat) / b| := by
      rw [div_le_iff₀ (by norm_num [maxSafe]), mul_comm]
      exact hle

theorem natAbs_le_of_div_eq (hb : b ≠ 0) (h : (a : Rat) / b = k) :
    a = k * b ∧ k.natAbs ≤ a.natAbs := by
  have ha : a = k * b := by
    rw [div_eq_iff (Int.cast_ne_zero.mpr hb)] at h
    exact_mod_cast h
  refine ⟨ha, ?_⟩
  rw [ha, Int.natAbs_mul]
  exact Nat.le_mul_of_pos_right _ (Int.natAbs_pos.mpr hb)

/-- A quotient of safe integers is rounded to an integer only if it is that integer. -/
theorem toInt?_round_quotient (hb : b ≠ 0) (ha : a.natAbs ≤ maxSafe) (hs : b.natAbs ≤ maxSafe) :
    (Binary64.round ((a : Rat) / b)).toInt? = some k ↔ (a : Rat) / b = k := by
  by_cases h : ∃ m : Int, (a : Rat) / b = m
  · obtain ⟨m, hm⟩ := h
    have hle := (natAbs_le_of_div_eq hb hm).2.trans ha
    rw [hm, Binary64.toInt?_round_intCast hle, Option.some.injEq, Int.cast_inj]
  · have h : ∀ m : Int, (a : Rat) / b ≠ m := fun m hm => h ⟨m, hm⟩
    refine iff_of_false (fun hk => ?_) (h k)
    obtain ⟨-, hi, hk⟩ := Binary64.toInt?_eq_some_iff.mp hk
    have ha0 : a ≠ 0 := by
      rintro rfl
      exact h 0 (by simp)
    have hnear := Binary64.abs_toRat_round_sub_le hi
    rw [hk, lastPlace_quotient hb ha0 hs, zpow_sub₀ (by norm_num)] at hnear
    have hnear := mul_le_mul_of_nonneg_left hnear (abs_nonneg (b : Rat))
    have hfar := one_le_abs_mul_abs_sub hb (h k)
    have hunit := abs_mul_two_zpow_lt hb ha hs h
    norm_num at hunit hnear
    linarith

end Quotient

/-- The exact result of an arithmetic operator on integers. There is none of a division by zero. -/
def Operator.rational? (a b : Int) : Operator → Option Rat
  | .add => some ((a : Rat) + b)
  | .sub => some ((a : Rat) - b)
  | .mul => some ((a : Rat) * b)
  | .div => if b = 0 then none else some ((a : Rat) / b)
  | .mod => if b = 0 then none else some (Int.tmod a b : Int)
  | _ => none

namespace Number

/-- Whether a number is an integer exactly if some result is a safe one, and that one then. -/
def Renders (q : Rat) (n : Number) : Prop :=
  ∀ k : Int, n = .int k ↔ q = k ∧ k.natAbs ≤ maxSafe

variable {a b : Int}

theorem renders_clamp_int (r : Int) : (int r).clamp.Renders r := by
  intro k
  rw [clamp_eq_int_iff, toInt?, Option.some.injEq, Int.cast_inj]

theorem divide_ints (hb : b ≠ 0) (ha : a.natAbs ≤ maxSafe) :
    (int a).divide (int b) = .ok (float (.round (a / b))).clamp := by
  have hz : (int b).isZero = false := decide_eq_false hb
  simp only [divide, hz, isInfinite_round_quotient ha hb, Bool.false_eq_true, if_false]

theorem renders_clamp_quotient (hb : b ≠ 0) (ha : a.natAbs ≤ maxSafe) (hs : b.natAbs ≤ maxSafe) :
    (float (.round (a / b))).clamp.Renders (a / b) := by
  intro k
  rw [clamp_eq_int_iff, toInt?, toInt?_round_quotient hb ha hs]

theorem Renders.exists_int_iff_dvd {n : Number} (h : n.Renders (a / b)) (hb : b ≠ 0)
    (ha : a.natAbs ≤ maxSafe) : (∃ k, n = .int k) ↔ b ∣ a := by
  constructor
  · rintro ⟨k, hk⟩
    have hq := natAbs_le_of_div_eq hb ((h k).mp hk).1
    exact ⟨k, hq.1.trans (mul_comm k b)⟩
  · rintro ⟨k, rfl⟩
    have hq : ((b * k : Int) : Rat) / b = k := by
      rw [Int.cast_mul, mul_div_cancel_left₀ _ (Int.cast_ne_zero.mpr hb)]
    exact ⟨k, (h k).mpr ⟨hq, (natAbs_le_of_div_eq hb hq).2.trans ha⟩⟩

theorem modulo_ints (hb : b ≠ 0) : (int a).modulo (int b) = .ok (int (Int.tmod a b)) := by
  simp only [modulo, if_neg hb]

theorem renders_remainder (ha : a.natAbs ≤ maxSafe) :
    (int (Int.tmod a b)).Renders (Int.tmod a b : Int) := by
  intro k
  rw [int.injEq, Int.cast_inj]
  refine ⟨fun h => ⟨h, ?_⟩, And.left⟩
  rw [← h, Int.natAbs_tmod]
  exact (Nat.mod_le _ _).trans ha

end Number

theorem OperandNames.compute_ints {a b : Int} (ha : a.natAbs ≤ maxSafe) (hb : b.natAbs ≤ maxSafe)
    (names : OperandNames) (line : Line) (f : Number → Number → Result Number) :
    names.compute (.number (.int a)) (.number (.int b)) line f =
      (f (.int a) (.int b)).map .number := by
  have hn : names.numbers (.number (.int a)) (.number (.int b)) line =
      .ok (.int a, .int b) := by
    have ha : (Number.int a).clamp = .int a := Number.clamp_eq_self_iff.mpr ha
    have hb : (Number.int b).clamp = .int b := Number.clamp_eq_self_iff.mpr hb
    simp only [numbers, Value.expectNumber, ha, hb]
    rfl
  rw [compute, hn]
  rfl

/-- An arithmetic operator on safe integers gives an integer exactly if its exact result is a safe
integer, and then that one. A quotient is an integer exactly if the divisor divides the dividend. -/
theorem arithmetic_isExact {op : Operator} {a b : Int} {q : Rat} (ha : a.natAbs ≤ maxSafe)
    (hb : b.natAbs ≤ maxSafe) (hq : op.rational? a b = some q) (line : Line) :
    ∃ n : Number, op.apply (.number (.int a)) (.number (.int b)) line = .ok (.number n) ∧
      n.Renders q ∧ (op = .div → ((∃ k, n = .int k) ↔ b ∣ a)) := by
  have hc := fun f => OperandNames.compute_ints ha hb op.operandNames line f
  cases op with
  | add =>
    cases hq
    refine ⟨(Number.int (a + b)).clamp, hc fun m n => .ok (m.add n), ?_, nofun⟩
    exact_mod_cast Number.renders_clamp_int (a + b)
  | sub =>
    cases hq
    refine ⟨(Number.int (a - b)).clamp, hc fun m n => .ok (m.sub n), ?_, nofun⟩
    exact_mod_cast Number.renders_clamp_int (a - b)
  | mul =>
    cases hq
    refine ⟨(Number.int (a * b)).clamp, hc fun m n => .ok (m.mul n), ?_, nofun⟩
    exact_mod_cast Number.renders_clamp_int (a * b)
  | div =>
    rw [Operator.rational?] at hq
    split at hq
    · cases hq
    · rename_i hz
      cases hq
      have hd : Operator.div.apply (.number (.int a)) (.number (.int b)) line = _ :=
        hc fun m n => Result.ofRange (m.divide n)
      have hr := Number.renders_clamp_quotient hz ha hb
      rw [hd, Number.divide_ints hz ha]
      exact ⟨_, rfl, hr, fun _ => hr.exists_int_iff_dvd hz ha⟩
  | mod =>
    rw [Operator.rational?] at hq
    split at hq
    · cases hq
    · rename_i hz
      cases hq
      have hd : Operator.mod.apply (.number (.int a)) (.number (.int b)) line = _ :=
        hc fun m n => Result.ofRange (m.modulo n)
      rw [hd, Number.modulo_ints hz]
      exact ⟨_, rfl, Number.renders_remainder ha, nofun⟩
  | lt | gt | le | ge | eq | ne | strictEq | strictNe => cases hq

/-- No quotient of safe integers is nearer to an integer than that of the two greatest. -/
theorem quotient_of_neighbours :
    let a : Int := 9007199254740992
    let b : Int := 9007199254740991
    let q : Rat := (a : Rat) / b
    a.natAbs ≤ maxSafe ∧ b.natAbs ≤ maxSafe ∧ Operator.div.rational? a b = some q ∧
    ∃ n : Number, Operator.div.apply (.number (.int a)) (.number (.int b)) none = .ok (.number n) ∧
      n.Renders q ∧ ∀ k, n ≠ .int k := by
  intro a b q
  have ha : a.natAbs ≤ maxSafe := by decide
  have hb : b.natAbs ≤ maxSafe := by decide
  have hq : Operator.div.rational? a b = some q := rfl
  obtain ⟨n, hn, hr, hd⟩ := arithmetic_isExact ha hb hq none
  refine ⟨ha, hb, hq, n, hn, hr, fun k hk => ?_⟩
  exact absurd ((hd rfl).mp ⟨k, hk⟩) (by decide)

end DocScript
