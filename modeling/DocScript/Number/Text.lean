import DocScript.Number.Basic
import DocScript.Number.Decimal

/-! # Numbers as text

A float has two written forms. The plain form keeps the mark of a float (`5.0`, `1e+16`, `nan`).
The text of a value writes an integral float below 10^21 as an integer and spells out infinities.
-/

namespace DocScript

/-- Where positional notation ends and how an exponent is written. -/
structure DecimalLayout where
  /-- The least exponent of the leading digit that is written positionally. -/
  lowest : Int
  /-- The first exponent of the leading digit that is no longer written positionally. -/
  beyond : Int
  exponentDigits : Nat

/-- Positional from 10^-4 to below 10^16, and at least two digits of exponent. -/
def DecimalLayout.plain : DecimalLayout := ⟨-4, 16, 2⟩

def padLeft (width : Nat) (digits : List Char) : List Char :=
  List.replicate (width - digits.length) '0' ++ digits

/-- A decimal without zeros at its end. A positional integer gets `.0`. -/
def DecimalLayout.write (layout : DecimalLayout) (d : Decimal) : List Char :=
  let digits := Nat.toDigits 10 d.coefficient
  let leading := d.exponent + digits.length - 1
  if layout.lowest ≤ leading && leading < layout.beyond then
    if 0 ≤ d.exponent then
      digits ++ List.replicate d.exponent.toNat '0' ++ ['.', '0']
    else if 0 ≤ leading then
      let whole := leading.toNat + 1
      digits.take whole ++ '.' :: digits.drop whole
    else
      '0' :: '.' :: List.replicate (-leading - 1).toNat '0' ++ digits
  else
    let mantissa := match digits with
      | [] => ['0']
      | [c] => [c]
      | c :: rest => c :: '.' :: rest
    let sign := if leading < 0 then '-' else '+'
    mantissa ++ 'e' :: sign :: padLeft layout.exponentDigits (Nat.toDigits 10 leading.natAbs)

namespace Binary64

/-- The shortest digits that read back, laid out as a float. -/
def plainChars : Binary64 → List Char
  | .nan => "nan".toList
  | .infinite s => if s then "-inf".toList else "inf".toList
  | .zero s => if s then "-0.0".toList else "0.0".toList
  | .finite q _ _ =>
    let digits := DecimalLayout.plain.write (Decimal.shortest q.abs)
    if q < 0 then '-' :: digits else digits

def plain (x : Binary64) : String := String.ofList x.plainChars

end Binary64

def intChars (n : Int) : List Char :=
  if n < 0 then '-' :: Nat.toDigits 10 n.natAbs else Nat.toDigits 10 n.natAbs

namespace Number

/-- An integer as its digits and a float in its plain form. -/
def plainChars : Number → List Char
  | .int n => intChars n
  | .float x => x.plainChars

def plain (n : Number) : String := String.ofList n.plainChars

/-- From here on an integral float is written in its plain form. -/
def firstUnwritten : Nat := 1000000000000000000000

def textChars : Number → List Char
  | .int n => intChars n
  | .float .nan => "NaN".toList
  | .float (.infinite s) => if s then "-Infinity".toList else "Infinity".toList
  | .float x =>
    match x.toInt? with
    | some n => if n.natAbs < firstUnwritten then intChars n else x.plainChars
    | none => x.plainChars

/-- The text of a number in templates, concatenations and printed values. -/
def text (n : Number) : String := String.ofList n.textChars

end Number

end DocScript
