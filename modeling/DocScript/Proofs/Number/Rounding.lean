import DocScript.Number.Basic
import Mathlib.Algebra.Order.Field.Basic
import Mathlib.Algebra.Order.Field.Power
import Mathlib.Algebra.Order.Field.Rat
import Mathlib.Tactic.Linarith
import Mathlib.Tactic.NormNum

/-! # Rounding to floats

The exponent that rounding works with is that of the leading binary digit, and the rounded
coefficient has at most 53 digits. So rationals up to the bound of safe integers, and with them the
quotients of safe integers, round to floats that are no infinities.
-/

namespace DocScript

theorem ratAbs_eq (q : Rat) : q.abs = |q| := by
  unfold Rat.abs
  split
  · rw [abs_of_nonneg ‹_›]
  · rw [abs_of_neg (not_le.mp ‹_›)]

theorem abs_intCast (n : Int) : |(n : Rat)| = (n.natAbs : Rat) := by
  rw [Nat.cast_natAbs, Int.cast_abs]

theorem cast_maxSafe : (maxSafe : Rat) = 2 ^ (53 : Int) := by norm_num [maxSafe]

section FloorLog2

theorem two_zpow_log2_le {n : Nat} (hn : n ≠ 0) : (2 : Rat) ^ (n.log2 : Int) ≤ n := by
  rw [zpow_natCast]
  exact_mod_cast Nat.log2_self_le hn

theorem lt_two_zpow_log2_succ (n : Nat) : (n : Rat) < 2 ^ ((n.log2 : Int) + 1) := by
  have h : n < 2 ^ (n.log2 + 1) := Nat.lt_log2_self
  have he : ((n.log2 : Int) + 1) = ((n.log2 + 1 : Nat) : Int) := by push_cast; rfl
  rw [he, zpow_natCast]
  exact_mod_cast h

/-- The exponent of the leading digit is at most one below the guess from the lengths of numerator
and denominator. -/
theorem guess_bounds {q : Rat} (hq : 0 < q) :
    (2 : Rat) ^ (((q.num.natAbs.log2 : Int) - q.den.log2) - 1) < q ∧
      q < 2 ^ (((q.num.natAbs.log2 : Int) - q.den.log2) + 1) := by
  have hnum : 0 < q.num := Rat.num_pos.mpr hq
  have hden : (0 : Rat) < q.den := by exact_mod_cast q.den_pos
  have hcast : (q.num.natAbs : Rat) = q.num := by
    rw [← Int.cast_natCast, Int.natAbs_of_nonneg hnum.le]
  have heq : q = (q.num.natAbs : Rat) / q.den := by rw [hcast, Rat.num_div_den]
  have hnl := two_zpow_log2_le (Int.natAbs_ne_zero.mpr hnum.ne')
  have hnu := lt_two_zpow_log2_succ q.num.natAbs
  have hdl := two_zpow_log2_le q.den_nz
  have hdu := lt_two_zpow_log2_succ q.den
  set a := (q.num.natAbs.log2 : Int)
  set b := (q.den.log2 : Int)
  have htwo : (2 : Rat) ≠ 0 := by norm_num
  have hpos (e : Int) : (0 : Rat) < 2 ^ e := zpow_pos (by norm_num) e
  constructor
  · rw [heq, lt_div_iff₀ hden]
    calc (2 : Rat) ^ (a - b - 1) * q.den < 2 ^ (a - b - 1) * 2 ^ (b + 1) :=
          mul_lt_mul_of_pos_left hdu (hpos _)
      _ = 2 ^ a := by rw [← zpow_add₀ htwo]; congr 1; omega
      _ ≤ q.num.natAbs := hnl
  · rw [heq, div_lt_iff₀ hden]
    calc (q.num.natAbs : Rat) < 2 ^ (a + 1) := hnu
      _ = 2 ^ (a - b + 1) * 2 ^ b := by rw [← zpow_add₀ htwo]; congr 1; omega
      _ ≤ 2 ^ (a - b + 1) * q.den := mul_le_mul_of_nonneg_left hdl (hpos _).le

theorem two_zpow_floorLog2_le {q : Rat} (hq : 0 < q) : (2 : Rat) ^ floorLog2 q ≤ q := by
  unfold floorLog2
  dsimp only
  split
  · assumption
  · exact (guess_bounds hq).1.le

theorem lt_two_zpow_floorLog2_succ {q : Rat} (hq : 0 < q) : q < 2 ^ (floorLog2 q + 1) := by
  unfold floorLog2
  dsimp only
  split
  · exact (guess_bounds hq).2
  · rename_i h
    rw [Int.sub_add_cancel]
    exact not_le.mp h

end FloorLog2

theorem roundHalfEven_near (q : Rat) : |(roundHalfEven q : Rat) - q| ≤ 1 / 2 := by
  have hl := Rat.floor_le q
  have hu := Rat.lt_floor_add_one q
  push_cast at hu
  unfold roundHalfEven
  dsimp only
  rw [abs_le]
  split_ifs <;> push_cast <;> constructor <;> linarith

/-- Rounding does not go over an integer. -/
theorem natAbs_roundHalfEven_le {q : Rat} {n : Nat} (h : |q| ≤ n) :
    (roundHalfEven q).natAbs ≤ n := by
  have hn := abs_le.mp (roundHalfEven_near q)
  obtain ⟨hl, hu⟩ := abs_le.mp h
  have hlt : (roundHalfEven q : Rat) < ((n + 1 : Int) : Rat) := by push_cast; linarith
  have hgt : ((-(n + 1) : Int) : Rat) < (roundHalfEven q : Rat) := by push_cast; linarith
  have hlt := Rat.intCast_lt_intCast.mp hlt
  have hgt := Rat.intCast_lt_intCast.mp hgt
  omega

namespace Binary64

theorem isInfinite_ofScaled {m e : Int} (hm : m.natAbs < 9007199254740992) (hl : -1074 ≤ e)
    (hu : e ≤ 971) : (ofScaled m e).isInfinite = false := by
  unfold ofScaled
  split
  · rfl
  · rw [dif_pos ⟨hm, hl, hu⟩]
    rfl

/-- Scaled to its last place, a rational has at most 53 binary digits. -/
theorem abs_div_lastPlace_lt {q : Rat} (hq : q ≠ 0) :
    |q / (2 : Rat) ^ lastPlace q| < (9007199254740992 : Nat) := by
  have habs : 0 < |q| := abs_pos.mpr hq
  have hlast : floorLog2 |q| - 52 ≤ lastPlace q := by
    rw [lastPlace, ratAbs_eq]
    exact le_max_right _ _
  have hpos : (0 : Rat) < 2 ^ lastPlace q := zpow_pos (by norm_num) _
  rw [abs_div, abs_of_pos hpos, div_lt_iff₀ hpos]
  calc |q| < 2 ^ (floorLog2 |q| + 1) := lt_two_zpow_floorLog2_succ habs
    _ ≤ 2 ^ (53 + lastPlace q) := zpow_le_zpow_right₀ (by norm_num) (by omega)
    _ = 2 ^ (53 : Int) * 2 ^ lastPlace q := zpow_add₀ (by norm_num) _ _
    _ = (9007199254740992 : Nat) * 2 ^ lastPlace q := by norm_num

/-- Rounding overflows from half a unit of the last place above the greatest float. -/
def overflow : Rat := (9007199254740992 - 1 / 2) * 2 ^ (971 : Int)

theorem overflow_lt : overflow < 2 ^ (1024 : Int) := by
  have hpos : (0 : Rat) < 2 ^ (971 : Int) := zpow_pos (by norm_num) _
  calc overflow < 2 ^ (53 : Int) * 2 ^ (971 : Int) := mul_lt_mul_of_pos_right (by norm_num) hpos
    _ = 2 ^ (1024 : Int) := (zpow_add₀ (by norm_num) _ _).symm

theorem maxSafe_lt_overflow : (maxSafe : Rat) < overflow := by
  have hone : (2 : Rat) ≤ 2 ^ (971 : Int) := by
    calc (2 : Rat) = 2 ^ (1 : Int) := (zpow_one 2).symm
      _ ≤ 2 ^ (971 : Int) := zpow_le_zpow_right₀ (by norm_num) (by norm_num)
  rw [overflow, maxSafe]
  generalize (2 : Rat) ^ (971 : Int) = unit at *
  push_cast
  linarith

theorem isInfinite_round_of_lt {q : Rat} (h : |q| < overflow) : (round q).isInfinite = false := by
  unfold round
  split
  · rfl
  · rename_i hq
    have hlow : -1074 ≤ lastPlace q := le_max_left _ _
    have hhigh : lastPlace q ≤ 971 := by
      have hlt : (2 : Rat) ^ floorLog2 |q| < 2 ^ (1024 : Int) :=
        (two_zpow_floorLog2_le (abs_pos.mpr hq)).trans_lt (h.trans overflow_lt)
      have hlog := (zpow_lt_zpow_iff_right₀ (by norm_num : (1 : Rat) < 2)).mp hlt
      rw [lastPlace, ratAbs_eq]
      omega
    have hm := natAbs_roundHalfEven_le (abs_div_lastPlace_lt hq).le
    -- A digit too many does not come up at the last exponent.
    have hfull : lastPlace q = 971 →
        (roundHalfEven (q / 2 ^ lastPlace q)).natAbs < 9007199254740992 := by
      intro he
      rw [he]
      have hpos : (0 : Rat) < 2 ^ (971 : Int) := zpow_pos (by norm_num) _
      have hlt : |q / (2 : Rat) ^ (971 : Int)| < 9007199254740992 - 1 / 2 := by
        rw [overflow] at h
        generalize (2 : Rat) ^ (971 : Int) = unit at *
        rwa [abs_div, abs_of_pos hpos, div_lt_iff₀ hpos]
      generalize q / (2 : Rat) ^ (971 : Int) = r at *
      have htri := abs_sub_abs_le_abs_sub (roundHalfEven r : Rat) r
      have hnear := roundHalfEven_near r
      have hcast : ((roundHalfEven r).natAbs : Rat) < (9007199254740992 : Nat) := by
        rw [← abs_intCast]
        push_cast
        linarith
      exact Nat.cast_lt.mp hcast
    dsimp only
    split
    · rfl
    · split
      · exact isInfinite_ofScaled (by omega) (by omega) (by omega)
      · exact isInfinite_ofScaled (by omega) hlow hhigh

theorem isInfinite_round {q : Rat} (h : |q| ≤ maxSafe) : (round q).isInfinite = false :=
  isInfinite_round_of_lt (h.trans_lt maxSafe_lt_overflow)

theorem isInfinite_ofInt {n : Int} (h : n.natAbs ≤ maxSafe) : (ofInt n).isInfinite = false := by
  apply isInfinite_round
  rw [← Int.cast_abs, Int.abs_eq_natAbs]
  exact_mod_cast h

end Binary64

end DocScript
