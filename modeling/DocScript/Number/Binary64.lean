/-! # Binary floating point

A float is not a number, an infinity, a signed zero, or a nonzero rational that fits the format.
Arithmetic is exact on the rationals, followed by one rounding to the nearest float, ties to even.
-/

namespace DocScript

/-- A rational with 53 significant binary digits and an exponent in range. -/
def Representable (q : Rat) : Prop :=
  ∃ m e : Int, m.natAbs < 9007199254740992 ∧ -1074 ≤ e ∧ e ≤ 971 ∧ q = (m : Rat) * (2 : Rat) ^ e

theorem Representable.neg {q : Rat} (h : Representable q) : Representable (-q) := by
  obtain ⟨m, e, hm, hl, hu, rfl⟩ := h
  exact ⟨-m, e, by simpa using hm, hl, hu, by rw [Rat.intCast_neg, Rat.neg_mul]⟩

inductive Binary64 where
  | nan
  | infinite (negative : Bool)
  | zero (negative : Bool)
  | finite (value : Rat) (nonzero : value ≠ 0) (representable : Representable value)
  deriving DecidableEq

/-- The nearest integer, and the even one of two that are equally near. -/
def roundHalfEven (q : Rat) : Int :=
  let below := q.floor
  let rest := q - below
  if rest < 1 / 2 then below
  else if 1 / 2 < rest then below + 1
  else if below % 2 = 0 then below
  else below + 1

/-- The exponent of the greatest power of two that is at most `q`, for a positive `q`. -/
def floorLog2 (q : Rat) : Int :=
  let guess := (q.num.natAbs.log2 : Int) - q.den.log2
  if (2 : Rat) ^ guess ≤ q then guess else guess - 1

namespace Binary64

theorem scaled_ne_zero {m e : Int} (h : m ≠ 0) : (m : Rat) * (2 : Rat) ^ e ≠ 0 := by
  intro hz
  rcases Rat.mul_eq_zero.1 hz with hm | he
  · exact h (by exact_mod_cast hm)
  · have : (0 : Rat) < (2 : Rat) ^ e := Rat.zpow_pos (by decide)
    rw [he] at this
    exact absurd this (by decide)

/-- `m * 2 ^ e`, or the infinity on its side when it does not fit. -/
def ofScaled (m e : Int) : Binary64 :=
  if hm : m = 0 then .zero false
  else if h : m.natAbs < 9007199254740992 ∧ -1074 ≤ e ∧ e ≤ 971 then
    .finite ((m : Rat) * (2 : Rat) ^ e) (scaled_ne_zero hm) ⟨m, e, h.1, h.2.1, h.2.2, rfl⟩
  else .infinite (m < 0)

/-- The exponent of the last binary digit that a float near `q` can have. -/
def lastPlace (q : Rat) : Int := max (-1074) (floorLog2 q.abs - 52)

/-- The nearest float. What rounds to zero keeps its sign, and an exact zero is positive. -/
def round (q : Rat) : Binary64 :=
  if q = 0 then .zero false
  else
    let e := lastPlace q
    let m := roundHalfEven (q / (2 : Rat) ^ e)
    if m = 0 then .zero (q < 0)
    else if m.natAbs = 9007199254740992 then ofScaled (m / 2) (e + 1)
    else ofScaled m e

def ofInt (n : Int) : Binary64 := round n

/-- The exact value of a finite float, and zero for the others. -/
def toRat : Binary64 → Rat
  | .finite q _ _ => q
  | _ => 0

/-- The sign, which zeros and infinities have as well. -/
def isNegative : Binary64 → Bool
  | .nan => false
  | .infinite s => s
  | .zero s => s
  | .finite q _ _ => q < 0

def isNaN : Binary64 → Bool
  | .nan => true
  | _ => false

def isInfinite : Binary64 → Bool
  | .infinite _ => true
  | _ => false

def isZero : Binary64 → Bool
  | .zero _ => true
  | _ => false

/-- The integer that a float equals, if it equals one. -/
def toInt? : Binary64 → Option Int
  | .zero _ => some 0
  | .finite q _ _ => if q.den = 1 then some q.num else none
  | _ => none

def neg : Binary64 → Binary64
  | .nan => .nan
  | .infinite s => .infinite (!s)
  | .zero s => .zero (!s)
  | .finite q hq hr => .finite (-q) (fun h => hq (by simpa using congrArg (- ·) h)) hr.neg

def add : Binary64 → Binary64 → Binary64
  | .nan, _ => .nan
  | _, .nan => .nan
  | .infinite s, .infinite t => if s = t then .infinite s else .nan
  | .infinite s, _ => .infinite s
  | _, .infinite t => .infinite t
  | .zero s, .zero t => .zero (s && t)
  | x, y => round (x.toRat + y.toRat)

def sub (x y : Binary64) : Binary64 := add x (neg y)

def mul : Binary64 → Binary64 → Binary64
  | .nan, _ => .nan
  | _, .nan => .nan
  | .infinite _, .zero _ => .nan
  | .zero _, .infinite _ => .nan
  | .infinite s, y => .infinite (s != y.isNegative)
  | x, .infinite t => .infinite (x.isNegative != t)
  | .zero s, y => .zero (s != y.isNegative)
  | x, .zero t => .zero (x.isNegative != t)
  | .finite p _ _, .finite q _ _ => round (p * q)

def div : Binary64 → Binary64 → Binary64
  | .nan, _ => .nan
  | _, .nan => .nan
  | .infinite _, .infinite _ => .nan
  | .infinite s, y => .infinite (s != y.isNegative)
  | x, .infinite t => .zero (x.isNegative != t)
  | .zero _, .zero _ => .nan
  | .zero s, y => .zero (s != y.isNegative)
  | x, .zero t => .infinite (x.isNegative != t)
  | .finite p _ _, .finite q _ _ => round (p / q)

/-- The quotient without its fraction. -/
def truncate (q : Rat) : Int := if q < 0 then -((-q).floor) else q.floor

/-- What is left of `x` after taking away `y` as often as it goes in. It is exact, and a zero
has the sign of `x`. -/
def rem : Binary64 → Binary64 → Binary64
  | .nan, _ => .nan
  | _, .nan => .nan
  | .infinite _, _ => .nan
  | _, .zero _ => .nan
  | x, .infinite _ => x
  | .zero s, _ => .zero s
  | .finite p _ _, .finite q _ _ =>
    let left := p - truncate (p / q) * q
    if left = 0 then .zero (p < 0) else round left

end Binary64

end DocScript
