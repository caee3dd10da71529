/-! # Punycode

A host name label in ASCII: first its ASCII characters, then where and in what order to insert the
others, as integers of variable length in base 36 whose digit thresholds adapt to the label.
-/

namespace DocScript.Url.Punycode

/-- From this digit on, a digit in the place that ends at `reach` is followed by another one. -/
def threshold (reach bias : Nat) : Nat := max 1 (min 26 (reach - bias))

theorem one_le_threshold (reach bias : Nat) : 1 ≤ threshold reach bias := Nat.le_max_left ..

/-- Divides until little is left, and counts 36 for each division. -/
def shrink (delta count : Nat) : Nat × Nat :=
  if 455 < delta then shrink (delta / 35) (count + 36) else (delta, count)
termination_by delta
decreasing_by omega

/-- The bias after an integer, when `length` characters have been placed. -/
def adapt (delta length : Nat) (first : Bool) : Nat :=
  let damped := if first then delta / 700 else delta / 2
  let (rest, count) := shrink (damped + damped / length) 0
  count + 36 * rest / (rest + 38)

def digitChar (d : Nat) : Char := Char.ofNat (if d < 26 then 97 + d else 22 + d)

def digitValue? (c : Char) : Option Nat :=
  let small := c.toLower
  if 'a' ≤ small && small ≤ 'z' then some (small.toNat - 97)
  else if '0' ≤ c && c ≤ '9' then some (c.toNat - 22)
  else none

def writeInteger (bias reach n : Nat) : List Char :=
  let t := threshold reach bias
  if n < t then [digitChar n]
  else digitChar (t + (n - t) % (36 - t)) :: writeInteger bias (reach + 36) ((n - t) / (36 - t))
termination_by n
decreasing_by
  have := one_le_threshold reach bias
  have := Nat.div_le_self (n - threshold reach bias) (36 - threshold reach bias)
  omega

/-- How far the writing of insertions has come. -/
structure Progress where
  written : List Char
  delta : Nat
  bias : Nat
  placed : Nat

/-- Passes one character of the label while those with the code `code` are being inserted. -/
def Progress.pass (basic code : Nat) (p : Progress) (c : Char) : Progress :=
  if c.toNat < code then { p with delta := p.delta + 1 }
  else if c.toNat = code then
    ⟨p.written ++ writeInteger p.bias 36 p.delta, 0,
      adapt p.delta (p.placed + 1) (p.placed = basic), p.placed + 1⟩
  else p

/-- Inserts the characters of each code in turn. All codes below `next` are done. -/
def Progress.insertAll (label : List Char) (basic : Nat) : List Nat → Nat → Progress → Progress
  | [], _, p => p
  | code :: rest, next, p =>
    let started := { p with delta := p.delta + (code - next) * (p.placed + 1) }
    let passed := label.foldl (Progress.pass basic code) started
    insertAll label basic rest (code + 1) { passed with delta := passed.delta + 1 }

def isAscii (c : Char) : Bool := c.toNat < 0x80

/-- The codes outside ASCII in ascending order, each once. -/
def foreignCodes (label : List Char) : List Nat :=
  let codes := (label.filter fun c => !isAscii c).map Char.toNat
  (codes.mergeSort (· ≤ ·)).eraseDups

def encode (label : List Char) : List Char :=
  let ascii := label.filter isAscii
  let basic := ascii.length
  let start : Progress := ⟨[], 0, 72, basic⟩
  let inserted := (start.insertAll label basic (foreignCodes label) 128).written
  if ascii.isEmpty then inserted else ascii ++ '-' :: inserted

/-- The integer at the head of a text, and what follows it. -/
def readInteger (bias reach weight value : Nat) : List Char → Option (Nat × List Char)
  | [] => none
  | c :: rest => do
    let d ← digitValue? c
    let t := threshold reach bias
    let value := value + d * weight
    if d < t then some (value, rest)
    else readInteger bias (reach + 36) (weight * (36 - t)) value rest

/-- Inserts until the text ends. `place` is where the next insertion may go at the earliest, and
`fuel` bounds the number of insertions. -/
def readInsertions (fuel : Nat) (label : List Char) (code place bias : Nat) (first : Bool)
    (text : List Char) : Option (List Char) :=
  match fuel, text with
  | _, [] => some label
  | 0, _ => none
  | fuel + 1, text => do
    let (delta, rest) ← readInteger bias 36 1 0 text
    let total := place + delta
    let slots := label.length + 1
    let code := code + total / slots
    let place := total % slots
    if 0x10FFFF < code then none
    else
      let label := label.take place ++ Char.ofNat code :: label.drop place
      readInsertions fuel label code (place + 1) (adapt delta label.length first) false rest

/-- The label that a text encodes, if it encodes one. -/
def decode? (text : List Char) : Option (List Char) :=
  if text.all isAscii then
    let insertions := (text.reverse.takeWhile (· ≠ '-')).reverse
    let basic := text.take (text.length - insertions.length - 1)
    readInsertions text.length basic 128 0 72 true insertions
  else none

end DocScript.Url.Punycode
