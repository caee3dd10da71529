import DocScript.Number.Binary64

/-! # Decimal numerals

Reading takes a decimal to the nearest float. Writing takes a float to the shortest decimal that
reads back as it, and of several such to the nearest.
-/

namespace DocScript

/-- `coefficient * 10 ^ exponent`. -/
structure Decimal where
  coefficient : Nat
  exponent : Int
  deriving DecidableEq, Repr

namespace Decimal

def toRat (d : Decimal) : Rat := (d.coefficient : Rat) * (10 : Rat) ^ d.exponent

/-- The nearest float. A decimal far out of range is settled without forming its power of ten. -/
def toBinary64 (d : Decimal) : Binary64 :=
  if d.coefficient = 0 then .zero false
  else if 400 < d.exponent then .infinite false
  else if d.exponent < -400 - (d.coefficient.log2 : Int) then .zero false
  else Binary64.round d.toRat

/-- The power of ten of the leading digit of `q`, for a positive `q`. -/
def floorLog10 (q : Rat) : Int :=
  let guess := ((Nat.toDigits 10 q.num.natAbs).length : Int) - (Nat.toDigits 10 q.den).length
  if (10 : Rat) ^ guess ≤ q then guess else guess - 1

/-- The decimal without zeros at its end. -/
def strip (d : Decimal) : Decimal :=
  let digits := Nat.toDigits 10 d.coefficient
  let zeros := (digits.reverse.takeWhile (· = '0')).length
  ⟨d.coefficient / Nat.pow 10 zeros, d.exponent + zeros⟩

/-- Of the two neighbours of `q` with `n` digits, the one that reads back as `q`; the nearer if
both do, and the even one if they are equally near. -/
def withDigits? (q : Rat) (n : Nat) : Option Decimal :=
  let exponent := floorLog10 q - n + 1
  let unit := (10 : Rat) ^ exponent
  let below := (q / unit).floor
  let low : Decimal := ⟨below.toNat, exponent⟩
  let high : Decimal := ⟨below.toNat + 1, exponent⟩
  let readsBack (d : Decimal) : Bool := (Binary64.round d.toRat).toRat = q
  match readsBack low, readsBack high with
  | false, false => none
  | true, false => some low
  | false, true => some high
  | true, true =>
    let rest := q / unit - below
    if rest < 1 / 2 then some low
    else if 1 / 2 < rest then some high
    else if below % 2 = 0 then some low
    else some high

/-- Seventeen digits tell any two floats apart, so one of the lengths succeeds. -/
def shortest (q : Rat) : Decimal :=
  match (List.range 17).findSome? fun n => withDigits? q (n + 1) with
  | some d => d.strip
  | none => ⟨q.floor.toNat, 0⟩

end Decimal

end DocScript
