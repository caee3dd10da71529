import DocScript.Proofs.Number.Representable

/-! # Clamping

A clamped number is an integer exactly if it is integral and safe. All numbers of a value have one
clamped form, which clamping leaves alone. Only the two integers next to the safe ones lie halfway
between a safe float and another one, and become the former.
-/

namespace DocScript.Number

variable {a b n : Number} {k : Int} {q : Rat}

theorem toInt?_eq_some_iff : n.toInt? = some k ↔ n.value? = some (.real k) := by
  cases n with
  | int n => simp [toInt?, value?]
  | float x =>
    rw [toInt?, Binary64.toInt?_eq_some_iff]
    cases x with
    | infinite s => cases s <;> simp [value?, Binary64.isInfinite]
    | nan | zero | finite => simp [value?, Binary64.isNaN, Binary64.isInfinite]

theorem value?_eq_none_iff : n.value? = none ↔ n = .float .nan := by
  rcases n with n | (_ | ⟨_ | _⟩ | _ | _) <;> simp [value?]

theorem isNaN_iff : n.isNaN = true ↔ n.value? = none := by
  rw [value?_eq_none_iff]
  rcases n with n | (_ | _ | _ | _) <;> simp [isNaN, Binary64.isNaN]

theorem isZero_iff : n.isZero = true ↔ n.value? = some (.real 0) := by
  rcases n with n | (_ | ⟨_ | _⟩ | _ | _) <;>
    simp_all [isZero, Binary64.isZero, value?, Binary64.toRat]

theorem same_iff : a.same b = true ↔ a.value? = b.value? ∧ b.value? ≠ none := by
  unfold same
  cases a.value? <;> cases b.value? <;> simp

/-- The integers next to the safe ones. -/
def IsNext : Number → Prop
  | .int n => n.natAbs = maxSafe + 1
  | .float _ => False

/-- Whether a number is an integer exactly if it is integral and safe. -/
def IsClamped : Number → Prop
  | .int n => n.natAbs ≤ maxSafe
  | .float x => ∀ n, x.toInt? = some n → maxSafe < n.natAbs

/-- Clamping gives an integer exactly for the numbers that are integral and safe. -/
theorem clamp_eq_int_iff : n.clamp = .int k ↔ n.toInt? = some k ∧ k.natAbs ≤ maxSafe := by
  cases n with
  | int n =>
    rw [clamp, toInt?, Option.some.injEq]
    split
    · rw [Number.int.injEq]
      exact ⟨fun h => ⟨h, h ▸ ‹_›⟩, And.left⟩
    · simp only [reduceCtorEq, false_iff, not_and]
      rintro rfl
      assumption
  | float x =>
    rw [clamp, toInt?]
    cases x.toInt? with
    | none => simp
    | some m =>
      dsimp only
      rw [Option.some.injEq]
      split
      · rw [Number.int.injEq]
        exact ⟨fun h => ⟨h, h ▸ ‹_›⟩, And.left⟩
      · simp only [reduceCtorEq, false_iff, not_and]
        rintro rfl
        assumption

theorem clamp_eq_self_iff : n.clamp = n ↔ n.IsClamped := by
  cases n with
  | int n => rw [clamp_eq_int_iff, toInt?, IsClamped, and_iff_right rfl]
  | float x =>
    rw [clamp, IsClamped]
    cases x.toInt? with
    | none => simp
    | some m => simp

/-- Floats keep their values. -/
theorem value?_clamp_float (x : Binary64) : (float x).clamp.value? = (float x).value? := by
  rw [clamp]
  cases hx : x.toInt? with
  | none => rfl
  | some n =>
    dsimp only
    split
    · exact (toInt?_eq_some_iff.mp (show (float x).toInt? = some n from hx)).symm
    · rfl

/-- Integers at a distance of two or more from the safe ones are not rounded to safe ones. -/
theorem lt_of_toInt?_ofInt {m : Int} (hm : maxSafe + 2 ≤ m.natAbs)
    (h : (Binary64.ofInt m).toInt? = some k) : maxSafe < k.natAbs := by
  obtain ⟨-, hi, hk⟩ := Binary64.toInt?_eq_some_iff.mp h
  have hnear := Binary64.abs_toRat_round_sub_le hi
  rw [← Binary64.ofInt, hk] at hnear
  have hbig : (maxSafe : Rat) + 2 ≤ |(m : Rat)| := by
    rw [abs_intCast, ← Nat.cast_ofNat, ← Nat.cast_add]
    exact Nat.cast_le.mpr hm
  have hpos : 0 < |(m : Rat)| := lt_of_lt_of_le (by norm_num [maxSafe]) hbig
  have hlog : 53 ≤ floorLog2 |(m : Rat)| := by
    apply Binary64.le_floorLog2 (abs_pos.mp hpos)
    rw [← cast_maxSafe]
    linarith
  have hlast : Binary64.lastPlace m = floorLog2 |(m : Rat)| - 52 := by
    apply Binary64.lastPlace_of_normal
    exact (zpow_le_zpow_right₀ (by norm_num) (by omega)).trans (two_zpow_floorLog2_le hpos)
  have hunit : (2 : Rat) ^ Binary64.lastPlace m * 2 ^ (52 : Int) ≤ |(m : Rat)| := by
    rw [← zpow_add₀ (by norm_num), hlast, Int.sub_add_cancel]
    exact two_zpow_floorLog2_le hpos
  have htri : |(m : Rat)| ≤ |(k : Rat)| + |(k : Rat) - m| := by
    linarith [abs_sub_abs_le_abs_sub (m : Rat) k, abs_sub_comm (m : Rat) k]
  -- A unit of the last place is two, or it is at least four and the integer far greater.
  have hfar : (maxSafe : Rat) < |(k : Rat)| := by
    rcases (show Binary64.lastPlace m = 1 ∨ 2 ≤ Binary64.lastPlace m by omega) with hone | htwo
    · rw [hone, zpow_one] at hnear
      linarith
    · have hfour : (2 : Rat) ^ (2 : Int) ≤ 2 ^ Binary64.lastPlace m :=
        zpow_le_zpow_right₀ (by norm_num) htwo
      rw [cast_maxSafe]
      norm_num at hfour hunit ⊢
      linarith
  rw [abs_intCast] at hfar
  exact Nat.cast_lt.mp hfar

theorem isClamped_clamp_iff : n.clamp.IsClamped ↔ ¬ n.IsNext := by
  cases n with
  | int n =>
    rw [clamp, IsNext]
    split
    · rw [IsClamped]
      omega
    · constructor
      · intro h hn
        rcases Int.natAbs_eq n with he | he
        · rw [he, hn] at h
          exact absurd (h 9007199254740992 (by decide +kernel)) (by decide)
        · rw [he, hn] at h
          exact absurd (h (-9007199254740992) (by decide +kernel)) (by decide)
      · intro hn m hm
        exact lt_of_toInt?_ofInt (by omega) hm
  | float x =>
    rw [iff_true_right (show ¬ IsNext (.float x) from id), clamp]
    cases hx : x.toInt? with
    | none =>
      intro m hm
      rw [hx] at hm
      cases hm
    | some m =>
      dsimp only
      split
      · assumption
      · intro m' hm'
        rw [hx] at hm'
        cases hm'
        omega

/-- The clamped form of a number that is no safe integer is the float nearest to it. -/
theorem clamp_eq_round (h : n.value? = some (.real q))
    (hq : ∀ m : Int, q = m → maxSafe < m.natAbs) : n.clamp = .float (.round q) := by
  cases n with
  | int n =>
    cases h
    rw [clamp, if_neg (Nat.not_le.mpr (hq n rfl)), Binary64.ofInt]
  | float x =>
    have hx : (float x).clamp = .float x := by
      rw [clamp_eq_self_iff]
      intro m hm
      have hv := toInt?_eq_some_iff.mp (show (float x).toInt? = some m from hm)
      rw [h] at hv
      cases hv
      exact hq m rfl
    have hz : q ≠ 0 := by
      rintro rfl
      exact absurd (hq 0 rfl) (by decide)
    rw [hx]
    cases x with
    | nan => cases h
    | infinite s => cases s <;> cases h
    | zero s =>
      cases h
      exact absurd rfl hz
    | finite p hp hr =>
      cases h
      exact congrArg float (Binary64.round_of_representable hp hr).symm

theorem eq_infinite_of_value? {s : Bool}
    (h : n.value? = some (if s then .negInf else .posInf)) : n = .float (.infinite s) := by
  cases n with
  | int n => cases s <;> cases h
  | float x =>
    cases x with
    | nan => cases h
    | infinite t => cases s <;> cases t <;> first | rfl | cases h
    | zero | finite => cases s <;> cases h

/-- Numbers of one value have one clamped form. -/
theorem clamp_eq_of_same (h : a.same b = true) : a.clamp = b.clamp := by
  unfold same at h
  split at h
  · rename_i x y hx hy
    obtain rfl : x = y := by simpa using h
    cases x with
    | real q =>
      by_cases hq : ∃ m : Int, q = m ∧ m.natAbs ≤ maxSafe
      · obtain ⟨m, rfl, hm⟩ := hq
        rw [clamp_eq_int_iff.mpr ⟨toInt?_eq_some_iff.mpr hx, hm⟩,
          clamp_eq_int_iff.mpr ⟨toInt?_eq_some_iff.mpr hy, hm⟩]
      · have hq : ∀ m : Int, q = m → maxSafe < m.natAbs := by
          intro m hm
          by_contra hle
          exact hq ⟨m, hm, by omega⟩
        rw [clamp_eq_round hx hq, clamp_eq_round hy hq]
    | negInf => rw [eq_infinite_of_value? (s := true) hx, eq_infinite_of_value? (s := true) hy]
    | posInf => rw [eq_infinite_of_value? (s := false) hx, eq_infinite_of_value? (s := false) hy]
  · cases h

/-- Clamping a clamped number leaves it as it is, and it is an integer exactly if it is integral and
safe, unless the number is next to the safe integers. All numbers of a value have one clamped
form. -/
theorem clamp_settles_unless_next (n : Number) :
    (n.clamp.clamp = n.clamp ↔ ¬ n.IsNext) ∧
    ((∃ k, n.clamp = .int k) ↔
      ¬ n.IsNext ∧ ∃ k : Int, n.clamp.value? = some (.real k) ∧ k.natAbs ≤ maxSafe) ∧
    ∀ m : Number, m.same n = true → m.clamp = n.clamp := by
  refine ⟨clamp_eq_self_iff.trans isClamped_clamp_iff, ?_, fun m h => clamp_eq_of_same h⟩
  rw [← isClamped_clamp_iff, ← clamp_eq_self_iff]
  constructor
  · rintro ⟨k, hk⟩
    have hk' := (clamp_eq_int_iff.mp hk).2
    rw [hk]
    exact ⟨clamp_eq_int_iff.mpr ⟨rfl, hk'⟩, k, rfl, hk'⟩
  · rintro ⟨hc, k, hv, hk⟩
    exact ⟨k, hc ▸ clamp_eq_int_iff.mpr ⟨toInt?_eq_some_iff.mpr hv, hk⟩⟩

/-- The first integer beyond the safe ones becomes a float that is safe, and only then an
integer. -/
theorem clamp_next_to_safe :
    (Number.int 9007199254740993).clamp.value? = some (.real 9007199254740992) ∧
      (∀ k, (Number.int 9007199254740993).clamp ≠ .int k) ∧
      (Number.int 9007199254740993).clamp.clamp = .int 9007199254740992 := by
  refine ⟨by decide +kernel, ?_, by decide +kernel⟩
  intro k h
  obtain ⟨hk, hle⟩ := clamp_eq_int_iff.mp h
  cases hk
  exact absurd hle (by decide)

/-- The next integer is a float, however it is held. -/
theorem clamp_two_beyond_safe :
    let m : Number := .int 9007199254740994
    let n : Number := .float (.ofInt 9007199254740994)
    m.same n = true ∧ ¬ n.IsNext ∧ m.clamp = n.clamp ∧ n.clamp.clamp = n.clamp := by
  intro m n
  have hs : m.same n = true := by decide +kernel
  obtain ⟨hc, -, hm⟩ := clamp_settles_unless_next n
  exact ⟨hs, id, hm m hs, hc.mpr id⟩

end DocScript.Number
