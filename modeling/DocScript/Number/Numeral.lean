import DocScript.Number.Basic
import DocScript.Number.Decimal
import DocScript.Text.Class

/-! # Numerals

A numeral is a run of digits with an optional point, or a point and digits, and then an optional
exponent. Digits of any decimal script count. A pure run of digits denotes an integer, and every
other numeral the nearest float.
-/

namespace DocScript

/-- An integer numeral is longer than the limit on conversions. -/
structure TooManyDigits where
  digits : Nat
  deriving DecidableEq, Repr

/-- The parts of a numeral without a sign, with digits as their values. -/
structure Numeral where
  whole : List Nat
  point : Bool
  fraction : List Nat
  exponent : Option Int
  deriving DecidableEq, Repr

/-- The digits at the head of a text, and what follows them. -/
def takeDigits : List Char → List Nat × List Char
  | [] => ([], [])
  | c :: rest =>
    match Text.digitValue? c with
    | some d => let (digits, left) := takeDigits rest; (d :: digits, left)
    | none => ([], c :: rest)

theorem takeDigits_length (text : List Char) :
    (takeDigits text).2.length + (takeDigits text).1.length = text.length := by
  induction text with
  | nil => rfl
  | cons c rest ih =>
    unfold takeDigits
    cases Text.digitValue? c with
    | none => rfl
    | some d => simp only [List.length_cons]; omega

def natOfDigits (digits : List Nat) : Nat := digits.foldl (fun n d => 10 * n + d) 0

/-- A sign, and what follows it. -/
def takeSign : List Char → Bool × List Char
  | '+' :: rest => (false, rest)
  | '-' :: rest => (true, rest)
  | text => (false, text)

theorem takeSign_length (text : List Char) : (takeSign text).2.length ≤ text.length := by
  unfold takeSign
  split <;> simp

def signed (negative : Bool) (n : Nat) : Int := if negative then -(n : Int) else n

/-- An exponent at the head of a text. A letter `e` without digits after it is none. -/
def takeExponent (text : List Char) : Option Int × List Char :=
  match text with
  | c :: rest =>
    if c = 'e' || c = 'E' then
      let (negative, afterSign) := takeSign rest
      match takeDigits afterSign with
      | ([], _) => (none, text)
      | (digits, left) => (some (signed negative (natOfDigits digits)), left)
    else (none, text)
  | [] => (none, text)

theorem takeExponent_length (text : List Char) : (takeExponent text).2.length ≤ text.length := by
  cases text with
  | nil => simp [takeExponent]
  | cons c rest =>
    have hs := takeSign_length rest
    have hd := takeDigits_length (takeSign rest).2
    simp only [takeExponent]
    split
    · split
      · simp
      · rename_i h
        simp only [h] at hd
        simp only [List.length_cons]
        omega
    · simp

namespace Numeral

/-- A numeral whose digits have been read, with the exponent that follows. -/
def withExponent (whole : List Nat) (point : Bool) (fraction : List Nat) (text : List Char) :
    Numeral × List Char :=
  (⟨whole, point, fraction, (takeExponent text).1⟩, (takeExponent text).2)

/-- The longest numeral at the head of a text, and what follows it. -/
def take? (text : List Char) : Option (Numeral × List Char) :=
  let whole := takeDigits text
  match whole.2 with
  | '.' :: rest =>
    let fraction := takeDigits rest
    if whole.1.isEmpty && fraction.1.isEmpty then none
    else some (withExponent whole.1 true fraction.1 fraction.2)
  | rest => if whole.1.isEmpty then none else some (withExponent whole.1 false [] rest)

theorem take?_length {text left : List Char} {n : Numeral} (h : take? text = some (n, left)) :
    left.length < text.length := by
  have hd := takeDigits_length text
  unfold take? at h
  simp only at h
  split at h
  · rename_i rest hw
    have hf := takeDigits_length rest
    have he := takeExponent_length (takeDigits rest).2
    rw [hw, List.length_cons] at hd
    split at h
    · simp at h
    · obtain rfl : (takeExponent (takeDigits rest).2).2 = left :=
        (Prod.mk.inj (Option.some.inj h)).2
      omega
  · have he := takeExponent_length (takeDigits text).2
    split at h
    · simp at h
    · rename_i hn
      obtain rfl : (takeExponent (takeDigits text).2).2 = left :=
        (Prod.mk.inj (Option.some.inj h)).2
      have : 0 < (takeDigits text).1.length := by
        cases hw : (takeDigits text).1 with
        | nil => simp [hw] at hn
        | cons => simp
      omega

def isInteger (n : Numeral) : Bool := !n.point && n.exponent.isNone

def toDecimal (n : Numeral) : Decimal :=
  ⟨natOfDigits (n.whole ++ n.fraction), n.exponent.getD 0 - n.fraction.length⟩

/-- Integer numerals have at most this many digits. -/
def maxDigits : Nat := 4300

/-- The value of a numeral behind a sign. Only integers are clamped. -/
def value (negative : Bool) (n : Numeral) : Except TooManyDigits Number :=
  if n.isInteger then
    if maxDigits < n.whole.length then .error ⟨n.whole.length⟩
    else .ok (Number.clamp (.int (signed negative (natOfDigits n.whole))))
  else
    let x := n.toDecimal.toBinary64
    .ok (.float (if negative then x.neg else x))

end Numeral

/-- What a text denotes as a number: nothing is zero, a numeral with an optional sign is its value,
and other texts denote none. Blanks around it do not count. -/
def numberOfText? (text : String) : Except TooManyDigits (Option Number) :=
  match Text.trim text.toList with
  | [] => .ok (some (.int 0))
  | trimmed =>
    let (negative, unsigned) := takeSign trimmed
    match Numeral.take? unsigned with
    | some (n, []) => (n.value negative).map some
    | _ => .ok none

end DocScript
