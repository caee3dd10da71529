import DocScript.Text.Class
import DocScript.Text.Quoted
import DocScript.Url.Address
import DocScript.Url.Percent

/-! # The parts of a URL

A URL is divided at its first marks: scheme, authority, path with parameters, query and fragment.
A part that is empty and a part that is missing are the same. Authorities that could be mistaken
for others are refused.
-/

namespace DocScript.Url

structure Parts where
  scheme : List Char
  authority : List Char
  path : List Char
  parameters : List Char
  query : List Char
  fragment : List Char

/-- Why a text cannot be divided. -/
inductive Malformed where
  | unbalancedBrackets
  | futureAddress
  | noAddress (host : List Char)
  | octetsInBrackets
  | ambiguousAuthority (authority : List Char)

def Malformed.message : Malformed → String
  | .unbalancedBrackets => "Invalid IPv6 URL"
  | .futureAddress => "IPvFuture address is invalid"
  | .noAddress host =>
    Text.quoted (String.ofList host) ++ " does not appear to be an IPv4 or IPv6 address"
  | .octetsInBrackets => "An IPv4 address cannot be in brackets"
  | .ambiguousAuthority authority =>
    "netloc '" ++ String.ofList authority ++
      "' contains invalid characters under NFKC normalization"

/-- Schemes whose references may be relative. The empty name stands for no scheme. -/
def relativeSchemes : List String :=
  ["", "ftp", "http", "gopher", "nntp", "imap", "wais", "file", "https", "shttp", "mms",
   "prospero", "rtsp", "rtsps", "rtspu", "sftp", "svn", "svn+ssh", "ws", "wss"]

/-- Schemes with an authority. -/
def authoritySchemes : List String :=
  ["", "ftp", "http", "gopher", "nntp", "telnet", "imap", "wais", "file", "mms", "https", "shttp",
   "snews", "prospero", "rtsp", "rtsps", "rtspu", "rsync", "svn", "svn+ssh", "sftp", "nfs", "git",
   "git+ssh", "ws", "wss"]

/-- Schemes whose paths end in parameters. -/
def parameterSchemes : List String :=
  ["", "ftp", "hdl", "prospero", "http", "imap", "https", "shttp", "rtsp", "rtsps", "rtspu",
   "sip", "sips", "mms", "sftp", "tel"]

def isRelative (scheme : List Char) : Bool := relativeSchemes.contains (String.ofList scheme)

def hasAuthority (scheme : List Char) : Bool := authoritySchemes.contains (String.ofList scheme)

def hasParameters (scheme : List Char) : Bool := parameterSchemes.contains (String.ofList scheme)

/-- The text before the first of some characters, and the text from it on. -/
def before (mark : Char → Bool) (text : List Char) : List Char × List Char :=
  (text.takeWhile fun c => !mark c, text.dropWhile fun c => !mark c)

/-- The text before the first `mark`, and the text after it. -/
def cut (mark : Char) (text : List Char) : List Char × List Char :=
  (text.takeWhile (· ≠ mark), (text.dropWhile (· ≠ mark)).drop 1)

def isSchemeChar (c : Char) : Bool := c.isAlphanum || c = '+' || c = '-' || c = '.'

/-- A scheme in small letters, or `default` if there is none, and the text behind it. -/
def splitScheme (default : List Char) (text : List Char) : List Char × List Char :=
  match before (· = ':') text with
  | (first :: others, ':' :: rest) =>
    if first.isAlpha && others.all isSchemeChar then ((first :: others).map Char.toLower, rest)
    else (default, text)
  | _ => (default, text)

/-- Characters that a URL leaves out wherever they stand. -/
def isDropped (c : Char) : Bool := c = '\t' || c = '\n' || c = '\r'

def cleaned (text : List Char) : List Char :=
  (text.dropWhile fun c => c.toNat ≤ 0x20).filter fun c => !isDropped c

/-- Characters with a compatibility form in which a mark stands that divides URLs. -/
def lookalikes : List Nat :=
  [0x2047, 0x2048, 0x2049, 0x2100, 0x2101, 0x2105, 0x2106, 0x2A74, 0xFE13, 0xFE16, 0xFE55, 0xFE56,
   0xFE5F, 0xFE6B, 0xFF03, 0xFF0F, 0xFF1A, 0xFF1F, 0xFF20]

/-- A host in brackets is an address in groups, or one of a version to come. -/
def checkBracketed (host : List Char) : Except Malformed Unit :=
  match host with
  | 'v' :: version =>
    let (digits, rest) := before (fun c => !Address.isHexDigit c) version
    match rest with
    | '.' :: _ :: _ => if digits.isEmpty then .error .futureAddress else .ok ()
    | _ => .error .futureAddress
  | _ =>
    if Address.isOctets host then .error .octetsInBrackets
    else if Address.isGroups host then .ok ()
    else .error (.noAddress host)

/-- An authority has both brackets or none, and around an address only. -/
def checkBrackets (authority : List Char) : Except Malformed Unit :=
  if authority.contains '[' ≠ authority.contains ']' then .error .unbalancedBrackets
  else if authority.contains '[' then checkBracketed (cut ']' (cut '[' authority).2).1
  else .ok ()

def checkLookalikes (authority : List Char) : Except Malformed Unit :=
  if authority.any fun c => lookalikes.contains c.toNat then .error (.ambiguousAuthority authority)
  else .ok ()

def endsPart (c : Char) : Bool := c = '/' || c = '?' || c = '#'

/-- The authority behind two slashes, and the text that follows it. -/
def splitAuthority (text : List Char) : List Char × List Char :=
  match text with
  | '/' :: '/' :: rest => before endsPart rest
  | _ => ([], text)

/-- The parameters of the last step of a path. -/
def splitParameters (path : List Char) : List Char × List Char :=
  let last := (path.reverse.takeWhile (· ≠ '/')).reverse
  let (step, parameters) := cut ';' last
  (path.take (path.length - last.length) ++ step, parameters)

/-- The parts of a text, with a scheme for a text that names none. -/
def Parts.ofText (scheme text : List Char) : Except Malformed Parts := do
  let (scheme, rest) := splitScheme scheme (cleaned text)
  let (authority, rest) := splitAuthority rest
  checkBrackets authority
  checkLookalikes authority
  let (rest, fragment) := cut '#' rest
  let (path, query) := cut '?' rest
  let (path, parameters) := if hasParameters scheme then splitParameters path else (path, [])
  return { scheme, authority, path, parameters, query, fragment }

/-- A part with the mark that comes before it, unless the part is empty. -/
def marked (mark : Char) (part : List Char) : List Char :=
  if part.isEmpty then [] else mark :: part

/-- The text of the parts. A scheme that has an authority gets the slashes of an empty one. -/
def Parts.toText (parts : Parts) : List Char :=
  let path := parts.path ++ marked ';' parts.parameters
  let place :=
    if !parts.authority.isEmpty || (!parts.scheme.isEmpty && hasAuthority parts.scheme) ||
        path.take 2 = ['/', '/'] then
      let path := if !path.isEmpty && path.head? ≠ some '/' then '/' :: path else path
      '/' :: '/' :: parts.authority ++ path
    else path
  let named := if parts.scheme.isEmpty then place else parts.scheme ++ ':' :: place
  named ++ marked '?' parts.query ++ marked '#' parts.fragment

end DocScript.Url
