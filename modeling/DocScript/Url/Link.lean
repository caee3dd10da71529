import DocScript.Text.Class
import DocScript.Url.Percent
import DocScript.Url.Punycode

/-! # Link destinations

A destination is divided loosely: nothing is refused, and what does not fit a host goes to the
path. It is put together again with its host in ASCII and its other characters percent-encoded. An
autolink shows its destination the other way round, decoded.
-/

namespace DocScript.Url

/-- The parts of a destination, each as it is written there with the marks that belong to it. -/
structure Link where
  protocol : List Char
  slashes : Bool
  auth : List Char
  host : List Char
  portDigits : List Char
  path : List Char
  search : List Char
  fragment : List Char

/-- A character as a pattern for ASCII letters takes it when case does not count. -/
def foldLetter (c : Char) : Char :=
  if c = '\u0130' || c = '\u0131' then 'i'
  else if c = '\u017f' then 's'
  else Text.asciiSmall c

def isProtocolChar (c : Char) : Bool :=
  let small := foldLetter c
  ('a' ≤ small && small ≤ 'z') || ('0' ≤ c && c ≤ '9') || c = '.' || c = '+' || c = '-'

/-- A protocol with its colon, and what follows it. -/
def takeProtocol (text : List Char) : List Char × List Char :=
  match text.takeWhile isProtocolChar, text.dropWhile isProtocolChar with
  | name@(_ :: _), ':' :: rest => (name ++ [':'], rest)
  | _, _ => ([], text)

/-- Protocols after which no host is looked for. -/
def isHostless (protocol : List Char) : Bool := protocol = "javascript:".toList

/-- Protocols that have a host only behind two slashes. -/
def isSlashed (protocol : List Char) : Bool :=
  ["http:", "https:", "ftp:", "gopher:", "file:"].any fun name => protocol = name.toList

/-- Characters that end the part in which user information may stand. -/
def endsAuthority (c : Char) : Bool := c = '/' || c = '?' || c = '#'

/-- Characters that end a host. -/
def endsHost (c : Char) : Bool := "%/?;#'\x7b\x7d|\\^`<>\" \r\n\t".toList.contains c

/-- The text before the last `@`, and the text after it. -/
def splitLastAt (text : List Char) : Option (List Char × List Char) :=
  let after := (text.reverse.takeWhile (· ≠ '@')).reverse
  if after.length < text.length then
    some (text.take (text.length - after.length - 1), after)
  else none

/-- The digits behind the last colon if nothing else follows it, and the host before it. -/
def splitPort (host : List Char) : List Char × List Char :=
  let digits := (host.reverse.takeWhile fun c => '0' ≤ c && c ≤ '9').reverse
  match (host.take (host.length - digits.length)).reverse with
  | ':' :: before => (before.reverse, digits)
  | _ => (host, [])

def isHostChar (c : Char) : Bool := c.isAlphanum || c = '+' || c = '_' || c = '-'

/-- A label of a host has at most this many characters. -/
def maxLabel : Nat := 63

def isLabel (label : List Char) : Bool :=
  label.length ≤ maxLabel && label.all fun c => isHostChar c || !isAscii c

def joinDots (labels : List (List Char)) : List Char := ['.'].intercalate labels

/-- The labels of a host up to the first that is none, of which the part that could be one is
kept. The rest of the host, if there is any, is not part of it. -/
def validLabels : List (List Char) → List (List Char) × Option (List (List Char))
  | [] => ([], none)
  | label :: rest =>
    if isLabel label then
      let (valid, others) := validLabels rest
      (label :: valid, others)
    else
      let kept := (label.takeWhile isHostChar).take maxLabel
      ([kept], some (label.drop kept.length :: rest))

/-- A host has at most this many characters. -/
def maxHost : Nat := 255

def isBracketed (host : List Char) : Bool :=
  host.head? = some '[' && host.getLast? = some ']'

/-- The host that a text names, and what of the text belongs to the path. -/
def checkHost (host : List Char) : List Char × List Char :=
  if isBracketed host then
    (if host.length ≤ maxHost then (host.drop 1).dropLast else [], [])
  else
    let (valid, others) := validLabels (host.splitOn '.')
    let kept := joinDots valid
    (if kept.length ≤ maxHost then kept else [],
      match others with
      | some labels => joinDots labels
      | none => [])

/-- Divides what follows the host: path, search and fragment. -/
def Link.withTail (link : Link) (text : List Char) : Link :=
  let beforeFragment := text.takeWhile (· ≠ '#')
  { link with
    path := beforeFragment.takeWhile (· ≠ '?')
    search := beforeFragment.dropWhile (· ≠ '?')
    fragment := text.dropWhile (· ≠ '#') }

/-- Divides what follows the protocol and the slashes where a host is expected. -/
def Link.withHost (link : Link) (text : List Char) : Link :=
  let (auth, rest) :=
    match splitLastAt (text.takeWhile fun c => !endsAuthority c) with
    | some (auth, after) => (auth, after ++ text.dropWhile fun c => !endsAuthority c)
    | none => ([], text)
  let candidate := rest.takeWhile fun c => !endsHost c
  let candidate := if candidate.getLast? = some ':' then candidate.dropLast else candidate
  let (host, portDigits) := splitPort candidate
  let (host, left) := checkHost host
  { link with auth, host, portDigits }.withTail (left ++ rest.drop candidate.length)

def Link.parse (text : List Char) : Link :=
  let (protocol, rest) := takeProtocol (Text.trim text)
  let empty : Link := ⟨protocol, false, [], [], [], [], [], []⟩
  match rest with
  | '/' :: '/' :: afterSlashes =>
    if isHostless protocol then empty.withTail rest
    else { empty with slashes := true }.withHost afterSlashes
  | _ =>
    if protocol.isEmpty || isHostless protocol || isSlashed protocol then empty.withTail rest
    else empty.withHost rest

def Link.format (link : Link) : List Char :=
  link.protocol ++ (if link.slashes then ['/', '/'] else []) ++
    (if link.auth.isEmpty then [] else link.auth ++ ['@']) ++
    (if link.host.contains ':' then '[' :: link.host ++ [']'] else link.host) ++
    (if link.portDigits.isEmpty then [] else ':' :: link.portDigits) ++ link.path ++ link.search ++
    link.fragment

/-- Whether the host of a destination is a name that has a form in ASCII. -/
def Link.hasNamedHost (link : Link) : Bool :=
  !link.host.isEmpty &&
    (link.protocol.isEmpty ||
      ["http:", "https:", "mailto:"].any fun name => link.protocol = name.toList)

/-- The full stop and its wide forms. -/
def isDot (c : Char) : Bool := c = '.' || c = '\u3002' || c = '\uff0e' || c = '\uff61'

def asciiLabel (label : List Char) : List Char :=
  if label.all fun c => c.toNat < 0x7F then label
  else "xn--".toList ++ Punycode.encode label

def Link.withAsciiHost (link : Link) : Link :=
  if link.hasNamedHost then
    { link with host := joinDots ((link.host.splitOnP isDot).map asciiLabel) }
  else link

/-- The label that an encoded label stands for. -/
def shownLabel? (label : List Char) : Option (List Char) :=
  match label with
  | 'x' :: 'n' :: '-' :: '-' :: rest => Punycode.decode? (rest.map Text.asciiSmall)
  | _ => some label

def Link.withShownHost (link : Link) : Link :=
  if link.hasNamedHost then
    match (link.host.splitOnP isDot).mapM shownLabel? with
    | some labels => { link with host := joinDots labels }
    | none => link
  else link

/-- Characters that stand in an encoded destination as they are. -/
def isPlain (c : Char) : Bool := c.isAlphanum || ";/?:@&=+$,-_.!~*'()#".toList.contains c

/-- Encodes all other characters, but no byte that is encoded already. -/
def encodeChars : List Char → List Char
  | [] => []
  | '%' :: high :: low :: rest =>
    if (hexPair? high low).isSome then '%' :: high :: low :: encodeChars rest
    else percentChar '%' ++ encodeChars (high :: low :: rest)
  | c :: rest => (if isPlain c then [c] else percentChar c) ++ encodeChars rest

/-- A destination as it is kept: its host in ASCII and everything else encoded. -/
def normalizeChars (text : List Char) : List Char :=
  encodeChars (Link.parse text).withAsciiHost.format

/-- Protocols that a link must not have. -/
def isBarred (text : List Char) : Bool :=
  ["vbscript:", "javascript:", "file:", "data:"].any fun name => name.toList.isPrefixOf text

/-- Data that a link may hold in spite of its protocol. -/
def isImageData (text : List Char) : Bool :=
  ["gif;", "png;", "jpeg;", "webp;"].any fun kind =>
    ("data:image/" ++ kind).toList.isPrefixOf text

/-- Whether a destination may be linked to. -/
def isAllowed (text : List Char) : Bool :=
  let small := (Text.trim text).map Text.asciiSmall
  !isBarred small || isImageData small

/-- The encoded bytes at the head of a text, and what follows them. -/
def takeEncoded : List Char → List UInt8 × List Char
  | '%' :: high :: low :: rest =>
    match hexPair? high low with
    | some b => let (bytes, left) := takeEncoded rest; (b :: bytes, left)
    | none => ([], '%' :: high :: low :: rest)
  | text => ([], text)

/-- Characters that are shown encoded. -/
def staysEncoded (c : Char) : Bool := ";/?:@&=+$,#%".toList.contains c

/-- The continuation bytes that a lead byte asks for. -/
def missingBytes (lead : UInt8) : Nat :=
  let n := lead.toNat
  if n / 32 = 6 then 1
  else if n / 16 = 14 then 2
  else if n / 8 = 30 then 3
  else 0

/-- The characters that a run of encoded bytes stands for. A byte that belongs to no character is
replaced, and so is each byte of a sequence that stands for none. -/
def shownBytes (skip : Nat) : List UInt8 → List Char
  | [] => []
  | b :: rest =>
    match skip with
    | skip + 1 => shownBytes skip rest
    | 0 =>
      if b.toNat < 0x80 then
        let c := Char.ofNat b.toNat
        (if staysEncoded c then percentByte b else [c]) ++ shownBytes 0 rest
      else
        let missing := missingBytes b
        let sequence := rest.take missing
        if 0 < missing && sequence.length = missing && sequence.all Text.Utf8.isContinuation then
          (match Text.Utf8.decode (b :: sequence) with
            | .ok chars => chars
            | .error _ => List.replicate (missing + 1) '\ufffd') ++ shownBytes missing rest
        else '\ufffd' :: shownBytes 0 rest

def decodeChars (fuel : Nat) (text : List Char) : List Char :=
  match fuel, text with
  | 0, text => text
  | _, [] => []
  | fuel + 1, c :: rest =>
    match takeEncoded (c :: rest) with
    | ([], _) => c :: decodeChars fuel rest
    | (bytes, left) => shownBytes 0 bytes ++ decodeChars fuel left

/-- A destination as an autolink shows it. -/
def shownChars (text : List Char) : List Char :=
  let formatted := (Link.parse text).withShownHost.format
  decodeChars formatted.length formatted

end DocScript.Url
