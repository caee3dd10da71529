import DocScript.Number.Binary64

/-! # Numbers

A number is an exact integer or a float. Results are clamped: an integral value of magnitude at
most 2^53 is held as an integer, and every other value as a float.
-/

namespace DocScript

inductive Number where
  | int (value : Int)
  | float (value : Binary64)
  deriving DecidableEq

/-- A rational or one of the two infinities. -/
inductive Extended where
  | negInf
  | real (value : Rat)
  | posInf
  deriving DecidableEq

namespace Extended

def lt : Extended → Extended → Bool
  | .negInf, .negInf => false
  | .negInf, _ => true
  | .real _, .negInf => false
  | .real p, .real q => p < q
  | .real _, .posInf => true
  | .posInf, _ => false

end Extended

/-- Up to this magnitude integers stay exact. -/
def maxSafe : Nat := 9007199254740992

/-- An integer is beyond the range of floats. -/
structure OutOfRange where
  deriving DecidableEq, Repr

namespace Number

/-- The exact value, which only NaN lacks. Integers and floats have it alike. -/
def value? : Number → Option Extended
  | .int n => some (.real n)
  | .float .nan => none
  | .float (.infinite true) => some .negInf
  | .float (.infinite false) => some .posInf
  | .float x => some (.real x.toRat)

/-- Equality of exact values. NaN equals nothing. -/
def same (a b : Number) : Bool :=
  match a.value?, b.value? with
  | some x, some y => x = y
  | _, _ => false

def lt (a b : Number) : Bool :=
  match a.value?, b.value? with
  | some x, some y => x.lt y
  | _, _ => false

def le (a b : Number) : Bool := a.lt b || a.same b

def isNaN : Number → Bool
  | .int _ => false
  | .float x => x.isNaN

def isZero : Number → Bool
  | .int n => n = 0
  | .float x => x.isZero

/-- The integer that a number equals, if it equals one. -/
def toInt? : Number → Option Int
  | .int n => some n
  | .float x => x.toInt?

/-- The nearest float, which is an infinity for an integer out of range. -/
def toBinary64 : Number → Binary64
  | .int n => .ofInt n
  | .float x => x

/-- The nearest float, unless an integer is out of range. -/
def toBinary64? : Number → Except OutOfRange Binary64
  | .int n => let x := Binary64.ofInt n
    if x.isInfinite then .error ⟨⟩ else .ok x
  | .float x => .ok x

/-- The one form in which a value is held: an integer exactly when it is integral and safe. -/
def clamp : Number → Number
  | .int n => if n.natAbs ≤ maxSafe then .int n else .float (.ofInt n)
  | .float x =>
    match x.toInt? with
    | some n => if n.natAbs ≤ maxSafe then .int n else .float x
    | none => .float x

/-- Integers are combined exactly, and a float makes floats of both. -/
def combine (ints : Int → Int → Int) (floats : Binary64 → Binary64 → Binary64) :
    Number → Number → Number
  | .int a, .int b => clamp (.int (ints a b))
  | a, b => clamp (.float (floats a.toBinary64 b.toBinary64))

def add : Number → Number → Number := combine (· + ·) Binary64.add

def sub : Number → Number → Number := combine (· - ·) Binary64.sub

def mul : Number → Number → Number := combine (· * ·) Binary64.mul

def neg : Number → Number
  | .int n => .int (-n)
  | .float x => .float x.neg

/-- The sign, which a float zero has as well. -/
def isNegative : Number → Bool
  | .int n => n < 0
  | .float x => x.isNegative

/-- The quotient of two integers is rounded once, whatever their size. Division by zero gives an
infinity, or NaN when the dividend is zero or NaN. -/
def divide (a b : Number) : Except OutOfRange Number :=
  if b.isZero then
    if a.isZero || a.isNaN then .ok (.float .nan)
    else do
      let x ← a.toBinary64?
      return .float (.infinite (x.isNegative != b.isNegative))
  else
    match a, b with
    | .int m, .int n =>
      let x := Binary64.round ((m : Rat) / (n : Rat))
      if x.isInfinite then .error ⟨⟩ else .ok (clamp (.float x))
    | a, b => do
      return clamp (.float (Binary64.div (← a.toBinary64?) (← b.toBinary64?)))

/-- The remainder of a division toward zero, with the sign of the dividend. It is NaN for a zero
divisor and for an infinite dividend. -/
def modulo (a b : Number) : Except OutOfRange Number :=
  match a, b with
  | .int m, .int n =>
    if n = 0 then .ok (.float .nan) else .ok (.int (Int.tmod m n))
  | a, b =>
    if b.isZero then .ok (.float .nan)
    else
      match a with
      | .float (.infinite _) => .ok (.float .nan)
      | a => do
        return clamp (.float (Binary64.rem (← a.toBinary64?) (← b.toBinary64?)))

end Number

end DocScript
