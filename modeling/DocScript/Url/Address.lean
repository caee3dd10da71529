import DocScript.Text.Hex

/-! # Numeric addresses

Hosts that are written as numbers: four octets with points between them, or eight groups of
hexadecimal digits with colons between them, where a double colon stands for groups of zeros and
the last two groups may be written as octets.
-/

namespace DocScript.Url.Address

def isAsciiDigit (c : Char) : Bool := '0' ≤ c && c ≤ '9'

def isHexDigit (c : Char) : Bool := (Text.hexValue? c).isSome

/-- A number below 256 in decimal digits, without zeros in front of it. -/
def isOctet (text : List Char) : Bool :=
  !text.isEmpty && text.all isAsciiDigit && text.length ≤ 3 &&
    (text = ['0'] || text.head? ≠ some '0') &&
    text.foldl (fun n c => n * 10 + (c.toNat - 48)) 0 ≤ 255

/-- An address of four octets. -/
def isOctets (text : List Char) : Bool :=
  let octets := text.splitOn '.'
  octets.length = 4 && octets.all isOctet

def isGroup (text : List Char) : Bool :=
  !text.isEmpty && text.length ≤ 4 && text.all isHexDigit

/-- The groups of an address, with two groups for octets at its end. -/
def groups? (text : List Char) : Option (List (List Char)) :=
  let groups := text.splitOn ':'
  match groups.getLast? with
  | some last =>
    if last.contains '.' then
      if isOctets last then some (groups.dropLast ++ [['0'], ['0']]) else none
    else some groups
  | none => none

/-- The number of groups on one side of a double colon, where there may be none. -/
def sideCount? (groups : List (List Char)) : Option Nat :=
  if groups = [[]] then some 0
  else if groups.all isGroup then some groups.length
  else none

/-- Whether groups make an address: eight of them, or fewer than eight around a double colon. -/
def areGroups (groups : List (List Char)) : Bool :=
  match groups with
  | [] => false
  | first :: others =>
    match others.dropLast.span (fun group => !group.isEmpty) with
    | (_, []) => groups.length = 8 && groups.all isGroup
    | (before, _ :: _) =>
      match sideCount? (first :: before), sideCount? (others.drop (before.length + 1)) with
      | some front, some rest => front + rest ≤ 7
      | _, _ => false

/-- An address of eight groups, which may name a zone behind a percent sign. -/
def isGroups (text : List Char) : Bool :=
  let address := text.takeWhile (· ≠ '%')
  let zoned := match text.dropWhile (· ≠ '%') with
    | [] => true
    | _ :: zone => !zone.isEmpty && !zone.contains '%'
  zoned &&
    match groups? address with
    | some groups => areGroups groups
    | none => false

end DocScript.Url.Address
