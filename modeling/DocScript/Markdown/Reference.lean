import DocScript.Markdown.Entity
import DocScript.Text.Hex
import DocScript.Url.Link

/-! # Labels, destinations and titles

The parts of a link, wherever it stands, and of a definition that gives a label its destination.
-/

namespace DocScript.Markdown

/-- Destinations by label. The first definition of a label counts. -/
abbrev Definitions := List (List Char × List Char)

def collapseBlanks (afterBlank : Bool) : List Char → List Char
  | [] => []
  | c :: rest =>
    if Text.isBlank c then
      if afterBlank then collapseBlanks true rest else ' ' :: collapseBlanks true rest
    else c :: collapseBlanks false rest

/-- The form in which labels are compared: runs of blanks and the case of letters do not count. -/
def normalizeLabel (label : List Char) : List Char :=
  (collapseBlanks false (Text.trim label)).flatMap Text.capital

def isAsciiPunctuation (c : Char) : Bool :=
  "!\"#$%&'()*+,-./:;<=>?@[\\]^_\x60\x7b|\x7d~".toList.contains c

/-- The digits at the head of a text in a number of places up to `most`, and what follows the
semicolon behind them. -/
def takeCodeDigits (isDigit : Char → Bool) (most : Nat) (text : List Char) :
    Option (List Char × List Char) :=
  let digits := text.takeWhile isDigit
  match text.drop digits.length with
  | ';' :: rest => if 0 < digits.length && digits.length ≤ most then some (digits, rest) else none
  | _ => none

def isHexDigit (c : Char) : Bool := (Text.hexValue? c).isSome

/-- The code of a reference behind `&#`, and what follows its semicolon. -/
def takeCode? (mostDecimal mostHex : Nat) : List Char → Option (Nat × List Char)
  | [] => none
  | c :: rest =>
    if c = 'x' || c = 'X' then do
      let (digits, left) ← takeCodeDigits isHexDigit mostHex rest
      return (← Text.hexNumber? digits, left)
    else do
      let (digits, left) ← takeCodeDigits Char.isDigit mostDecimal (c :: rest)
      return (digits.foldl (fun n d => n * 10 + (d.toNat - 48)) 0, left)

/-- What a name behind `&` stands for, and what follows its semicolon. -/
def takeEntity? (text : List Char) : Option (List Char × List Char) :=
  let name := text.takeWhile Char.isAlphanum
  match text.drop name.length with
  | ';' :: rest => (entity? name).map fun chars => (chars, rest)
  | _ => none

/-- What a reference behind `&` stands for in running text, and what follows it. A code that may
not be named is replaced. -/
def takeReference? : List Char → Option (List Char × List Char)
  | '#' :: rest =>
    (takeCode? 7 6 rest).map fun (code, left) =>
      ([if isReferable code then Char.ofNat code else '\ufffd'], left)
  | text => takeEntity? text

/-- What a reference behind `&` stands for in a destination. A code that may not be named is no
reference. -/
def takeStrictReference? : List Char → Option (List Char × List Char)
  | '#' :: rest => do
    let (code, left) ← takeCode? 8 8 rest
    if isReferable code then some ([Char.ofNat code], left) else none
  | text => takeEntity? text

/-- A destination with its backslashes and references resolved. -/
def unescapeLink (fuel : Nat) (text : List Char) : List Char :=
  match fuel, text with
  | 0, text => text
  | _, [] => []
  | fuel + 1, '\\' :: c :: rest =>
    if isAsciiPunctuation c then c :: unescapeLink fuel rest
    else '\\' :: unescapeLink fuel (c :: rest)
  | fuel + 1, '&' :: rest =>
    match takeStrictReference? rest with
    | some (chars, left) => chars ++ unescapeLink fuel left
    | none => '&' :: unescapeLink fuel rest
  | fuel + 1, c :: rest => c :: unescapeLink fuel rest

/-- A destination in angle brackets, from behind the first of them. The result is what stands
before the second one, and what follows it. -/
def takeAngled : List Char → Option (List Char × List Char)
  | [] => none
  | '\n' :: _ => none
  | '<' :: _ => none
  | '>' :: rest => some ([], rest)
  | '\\' :: c :: rest => (takeAngled rest).map fun (inside, left) => ('\\' :: c :: inside, left)
  | c :: rest => (takeAngled rest).map fun (inside, left) => (c :: inside, left)

/-- Parentheses nest up to this depth in a destination. -/
def maxParens : Nat := 32

/-- A bare destination: it ends at a blank or a control character, and at a parenthesis that it
does not open. The result is its text, what follows, and whether its parentheses are balanced. -/
def takeBare (depth : Nat) : List Char → List Char × List Char × Bool
  | [] => ([], [], depth = 0)
  | '\\' :: c :: rest =>
    if c = ' ' then ([], '\\' :: c :: rest, depth = 0)
    else
      let (inside, left) := takeBare depth rest
      ('\\' :: c :: inside, left)
  | c :: rest =>
    if c.toNat ≤ 0x20 || c.toNat = 0x7F then ([], c :: rest, depth = 0)
    else if c = '(' then
      if maxParens ≤ depth then ([], c :: rest, false)
      else
        let (inside, left) := takeBare (depth + 1) rest
        (c :: inside, left)
    else if c = ')' then
      match depth with
      | 0 => ([], c :: rest, true)
      | outer + 1 =>
        let (inside, left) := takeBare outer rest
        (c :: inside, left)
    else
      let (inside, left) := takeBare depth rest
      (c :: inside, left)

/-- The destination at the head of a text, and what follows it. -/
def takeDestination? (text : List Char) : Option (List Char × List Char) :=
  match text with
  | '<' :: rest =>
    (takeAngled rest).map fun (inside, left) => (unescapeLink inside.length inside, left)
  | _ =>
    match takeBare 0 text with
    | ([], _) => none
    | (inside, left, balanced) =>
      if balanced then some (unescapeLink inside.length inside, left) else none

/-- What follows a title whose closing mark is `close`, from behind its opening mark. -/
def dropTitle (close : Char) : List Char → Option (List Char)
  | [] => none
  | c :: rest =>
    if c = close then some rest
    else if c = '(' && close = ')' then none
    else if c = '\\' then
      match rest with
      | _ :: rest => dropTitle close rest
      | [] => none
    else dropTitle close rest

/-- What follows the title at the head of a text. -/
def takeTitle? : List Char → Option (List Char)
  | [] => none
  | c :: rest =>
    if c = '"' || c = '\x27' then dropTitle c rest
    else if c = '(' then dropTitle ')' rest
    else none

/-- A destination as it is kept, if it may be linked to. -/
def allowedUrl? (destination : List Char) : Option (List Char) :=
  let url := Url.normalizeChars destination
  if Url.isAllowed url then some url else none

/-- Space or tab. -/
def isSpace (c : Char) : Bool := c = ' ' || c = '\t'

def isSpaceOrBreak (c : Char) : Bool := isSpace c || c = '\n'

/-- The label of a definition from behind its bracket, and what follows the closing one. -/
def takeDefinitionLabel : List Char → Option (List Char × List Char)
  | [] => none
  | '[' :: _ => none
  | ']' :: rest => some ([], rest)
  | '\\' :: c :: rest =>
    (takeDefinitionLabel rest).map fun (label, left) => ('\\' :: c :: label, left)
  | c :: rest => (takeDefinitionLabel rest).map fun (label, left) => (c :: label, left)

def endsLine : List Char → Bool
  | [] => true
  | c :: _ => c = '\n'

/-- What follows the destination of a definition: nothing else on its line, or a title and then
nothing else. A title with text that something follows is no part of the definition. -/
def afterDefinition? (text : List Char) : Option (List Char) :=
  let bare := text.dropWhile isSpace
  let spaced := text.dropWhile isSpaceOrBreak
  let untitled := if endsLine bare then some bare else none
  if spaced.length = text.length then untitled
  else
    match takeTitle? spaced with
    | none => untitled
    | some left =>
      let rest := left.dropWhile isSpace
      if endsLine rest then some rest
      else if spaced.length = left.length + 2 then none
      else untitled

/-- The definition at the head of a text, and what follows it from the end of its last line. -/
def takeDefinition? (text : List Char) : Option ((List Char × List Char) × List Char) := do
  match text with
  | '[' :: rest =>
    let (label, left) ← takeDefinitionLabel rest
    match left with
    | ':' :: left =>
      let (destination, left) ← takeDestination? (left.dropWhile isSpaceOrBreak)
      let url ← allowedUrl? destination
      let left ← afterDefinition? left
      let label := normalizeLabel label
      if label.isEmpty then none else some ((label, url), left)
    | _ => none
  | _ => none

end DocScript.Markdown
