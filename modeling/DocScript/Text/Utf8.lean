import DocScript.Text.Hex

/-! # Reading UTF-8

Bytes are read one character at a time. What cannot be read is cut off at the longest prefix that
could have begun a character, and is either replaced or reported with its place.
-/

namespace DocScript.Text.Utf8

/-- Why bytes are not UTF-8. -/
inductive Defect
  | badStart
  | badContinuation
  | unfinished
  deriving DecidableEq, Repr

def Defect.reason : Defect → String
  | .badStart => "invalid start byte"
  | .badContinuation => "invalid continuation byte"
  | .unfinished => "unexpected end of data"

/-- What stands at the head of a byte list: a character, or a defect that covers some bytes. -/
inductive Head
  | char (c : Char) (length : Nat)
  | bad (defect : Defect) (length : Nat)

def isContinuation (b : UInt8) : Bool := 0x80 ≤ b.toNat && b.toNat < 0xC0

/-- The payload of a continuation byte below the bits read so far. -/
def shiftIn (bits : Nat) (b : UInt8) : Nat := bits * 64 + (b.toNat - 0x80)

/-- The continuation bytes after a lead byte. `bits` is what has been read, `seen` how many bytes
that took, and `missing` how many are still to come. -/
def continuation (bits seen : Nat) : Nat → List UInt8 → Head
  | 0, _ => .char (Char.ofNat bits) seen
  | _ + 1, [] => .bad .unfinished seen
  | missing + 1, b :: rest =>
    if isContinuation b then continuation (shiftIn bits b) (seen + 1) missing rest
    else .bad .badContinuation seen

/-- The second byte of a character of three or four bytes is bounded so that no character has two
forms and none lies outside the range of code points. -/
def secondInBounds (lead second : UInt8) : Bool :=
  if lead = 0xE0 then 0xA0 ≤ second.toNat
  else if lead = 0xED then second.toNat < 0xA0
  else if lead = 0xF0 then 0x90 ≤ second.toNat
  else if lead = 0xF4 then second.toNat < 0x90
  else true

def long (lead : UInt8) (bits missing : Nat) : List UInt8 → Head
  | [] => .bad .unfinished 1
  | second :: rest =>
    if isContinuation second && secondInBounds lead second then
      continuation (shiftIn bits second) 2 missing rest
    else .bad .badContinuation 1

def head (lead : UInt8) (rest : List UInt8) : Head :=
  let n := lead.toNat
  if n < 0x80 then .char (Char.ofNat n) 1
  else if n < 0xC2 then .bad .badStart 1
  else if n < 0xE0 then long lead (n - 0xC0) 0 rest
  else if n < 0xF0 then long lead (n - 0xE0) 1 rest
  else if n < 0xF5 then long lead (n - 0xF0) 2 rest
  else .bad .badStart 1

/-- Every defect becomes one replacement character. The first argument counts the bytes that
belong to what has just been read. -/
def decodeFrom : Nat → List UInt8 → List Char
  | _, [] => []
  | skip + 1, _ :: rest => decodeFrom skip rest
  | 0, lead :: rest =>
    match head lead rest with
    | .char c length => c :: decodeFrom (length - 1) rest
    | .bad _ length => '\ufffd' :: decodeFrom (length - 1) rest

def decodeReplacing (bytes : List UInt8) : List Char := decodeFrom 0 bytes

/-- Bytes that are not UTF-8, with the first place that goes wrong. -/
structure Fault where
  position : Nat
  bytes : List UInt8
  defect : Defect
  deriving DecidableEq, Repr

def Fault.message (fault : Fault) : String :=
  let place := match fault.bytes with
    | [b] => "byte 0x" ++ String.ofList (hexadecimal 2 b.toNat) ++ " in position " ++
        toString fault.position
    | bytes => "bytes in position " ++ toString fault.position ++ "-" ++
        toString (fault.position + bytes.length - 1)
  "'utf-8' codec can't decode " ++ place ++ ": " ++ fault.defect.reason

def decodeAt : Nat → Nat → List UInt8 → Except Fault (List Char)
  | _, _, [] => .ok []
  | position, skip + 1, _ :: rest => decodeAt (position + 1) skip rest
  | position, 0, lead :: rest =>
    match head lead rest with
    | .char c length => (decodeAt (position + 1) (length - 1) rest).map (c :: ·)
    | .bad defect length => .error ⟨position, (lead :: rest).take length, defect⟩

def decode (bytes : List UInt8) : Except Fault (List Char) := decodeAt 0 0 bytes

end DocScript.Text.Utf8
