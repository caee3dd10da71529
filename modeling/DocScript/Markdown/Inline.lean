import DocScript.Markdown.Emphasis
import DocScript.Markdown.Reference
import DocScript.Markdown.Tag

/-! # Inline text

The text of a paragraph or heading is scanned from left to right. Where several forms could begin,
the first that can be completed wins. Links are found by looking ahead for the end of their text,
and what has been passed over once is remembered.
-/

namespace DocScript.Markdown

/-- The state of a scan. -/
structure Scan where
  position : Nat
  /-- The end of the text, or of the link text being scanned. -/
  limit : Nat
  level : Nat
  /-- Text that belongs to no form, last character first. -/
  pending : List Char
  pieces : Array Piece
  marks : Array Mark
  /-- Where the token at a position ends, as far as this is known. -/
  passed : Array (Option Nat)
  /-- For each length of a run of backquotes, a position from which none follows. -/
  codeRuns : List (Nat × Nat)
  /-- Whether the text has been searched for backquotes to its end. -/
  codeSearched : Bool

/-- What a scan works on. -/
structure Source where
  chars : Array Char
  definitions : Definitions

/-- The outcome of trying a form: whether it was found, and the state of the scan. -/
structure Attempt where
  found : Bool
  scan : Scan

/-- Links and images nest up to this depth. -/
def maxNesting : Nat := 20

def Source.slice (source : Source) (start stop : Nat) : List Char :=
  (source.chars.extract start stop).toList

/-- The first position from `i` to `limit` at which `p` does not hold. -/
def Source.spanEnd (source : Source) (p : Char → Bool) (limit i : Nat) : Nat :=
  if i < limit then
    match source.chars[i]? with
    | some c => if p c then spanEnd source p limit (i + 1) else i
    | none => i
  else i
termination_by limit - i

namespace Scan

def start (length : Nat) : Scan where
  position := 0
  limit := length
  level := 0
  pending := []
  pieces := #[]
  marks := #[]
  passed := Array.replicate (length + 1) none
  codeRuns := []
  codeSearched := false

/-- Makes a piece of the pending text. -/
def flush (s : Scan) : Scan :=
  if s.pending.isEmpty then s
  else { s with pending := [], pieces := s.pieces.push (.text s.pending.reverse) }

def push (s : Scan) (piece : Piece) : Scan :=
  let s := s.flush
  { s with pieces := s.pieces.push piece }

def addPending (s : Scan) (chars : List Char) : Scan :=
  { s with pending := chars.reverse ++ s.pending }

def moveTo (s : Scan) (position : Nat) : Scan := { s with position }

def fail (s : Scan) : Attempt := ⟨false, s⟩

def succeed (s : Scan) (position : Nat) : Attempt := ⟨true, s.moveTo position⟩

/-- Succeeds, and adds a piece unless the scan only looks ahead. -/
def found (s : Scan) (silent : Bool) (piece : Piece) (position : Nat) : Attempt :=
  (if silent then s else s.push piece).succeed position

end Scan

/-- The characters with which a form may begin. -/
def mayBeginForm (c : Char) : Bool :=
  "\n!#$%&*+-:<=>@[\\]^_\x60\x7b\x7d~".toList.contains c

def lineBreak : Piece := .node (.inlined (.text "\n") [])

/-- Text up to the next character that may begin a form. -/
def scanText (source : Source) (silent : Bool) (s : Scan) : Attempt :=
  let stop := source.spanEnd (fun c => !mayBeginForm c) s.limit s.position
  if stop = s.position then s.fail
  else (if silent then s else s.addPending (source.slice s.position stop)).succeed stop

/-- A line break, with the blanks before and after it. -/
def scanBreak (source : Source) (silent : Bool) (s : Scan) : Attempt :=
  let next := source.spanEnd isSpace s.limit (s.position + 1)
  if silent then s.succeed next
  else
    let pending := match s.pending with
      | ' ' :: ' ' :: rest => rest.dropWhile (· = ' ')
      | ' ' :: rest => rest
      | pending => pending
    ({ s with pending }.push lineBreak).succeed next

/-- A backslash and the character after it. -/
def scanEscape (source : Source) (silent : Bool) (s : Scan) : Attempt :=
  let next := s.position + 1
  if s.limit ≤ next then s.fail
  else
    match source.chars[next]? with
    | none => s.fail
    | some '\n' => s.found silent lineBreak (source.spanEnd isSpace s.limit (next + 1))
    | some c =>
      s.found silent (.text (if isAsciiPunctuation c then [c] else ['\\', c])) (next + 1)

/-- Code without the one blank on either side of it. -/
def trimCode (code : List Char) : List Char :=
  let code := code.map fun c => if c = '\n' then ' ' else c
  if code.head? = some ' ' && code.getLast? = some ' ' && !(code.all Text.isBlank) then
    (code.drop 1).dropLast
  else code

def isBackquote (c : Char) : Bool := c = '\x60'

/-- Searches from a position for a run of backquotes of a length. The result is where it begins and
ends, and the runs of other lengths that were passed. -/
def findCodeEnd (fuel : Nat) (source : Source) (limit length i : Nat) (runs : List (Nat × Nat)) :
    Option (Nat × Nat) × List (Nat × Nat) :=
  match fuel with
  | 0 => (none, runs)
  | fuel + 1 =>
    let start := source.spanEnd (fun c => !isBackquote c) source.chars.size i
    if source.chars.size ≤ start then (none, runs)
    else
      let stop := source.spanEnd isBackquote limit (start + 1)
      if stop - start = length then (some (start, stop), runs)
      else findCodeEnd fuel source limit length stop ((stop - start, start) :: runs)

/-- Code between two runs of backquotes of one length, or else the first run as text. -/
def scanCode (source : Source) (silent : Bool) (s : Scan) : Attempt :=
  let inside := source.spanEnd isBackquote s.limit (s.position + 1)
  let length := inside - s.position
  let asText (s : Scan) : Attempt :=
    (if silent then s else s.addPending (List.replicate length '\x60')).succeed inside
  if s.codeSearched && (s.codeRuns.lookup length).getD 0 ≤ s.position then asText s
  else
    match findCodeEnd (source.chars.size + 1) source s.limit length inside s.codeRuns with
    | (some (start, stop), codeRuns) =>
      let code := String.ofList (trimCode (source.slice inside start))
      { s with codeRuns }.found silent (.node (.inlined (.inlineCode code) [])) stop
    | (none, codeRuns) => asText { s with codeRuns, codeSearched := true }

/-- Blanks as the rules of emphasis see them. -/
def isFlankBlank (c : Char) : Bool :=
  let n := c.toNat
  (0x2000 ≤ n && n ≤ 0x200A) || (0x09 ≤ n && n ≤ 0x0D) || n = 0x20 || n = 0xA0 || n = 0x1680 ||
    n = 0x202F || n = 0x205F || n = 0x3000

/-- A run of `*` or `_`, each of which is a mark. A run of `_` does not divide a word. -/
def scanMarks (source : Source) (char : Char) (s : Scan) : Attempt :=
  let stop := source.spanEnd (· = char) s.limit s.position
  let length := stop - s.position
  let before := if s.position = 0 then ' ' else (source.chars[s.position - 1]?).getD ' '
  let after := if stop < s.limit then (source.chars[stop]?).getD ' ' else ' '
  let blankBefore := isFlankBlank before
  let blankAfter := isFlankBlank after
  let punctuationBefore := Text.isPunctuation before
  let punctuationAfter := Text.isPunctuation after
  let left := !(blankAfter || (punctuationAfter && !(blankBefore || punctuationBefore)))
  let right := !(blankBefore || (punctuationBefore && !(blankAfter || punctuationAfter)))
  let splits := char = '*'
  let opens := left && (splits || !right || punctuationBefore)
  let closes := right && (splits || !left || punctuationAfter)
  let pushMark (s : Scan) (_ : Nat) : Scan :=
    let s := s.push (.mark char)
    let mark : Mark := ⟨char, length, s.pieces.size - 1, opens, closes, none⟩
    { s with marks := s.marks.push mark }
  ((List.range length).foldl pushMark s).succeed stop

/-- A character reference. -/
def scanReference (source : Source) (silent : Bool) (s : Scan) : Attempt :=
  if s.limit ≤ s.position + 1 then s.fail
  else
    let rest := source.slice (s.position + 1) source.chars.size
    match takeReference? rest with
    | some (chars, left) =>
      s.found silent (.text chars) (s.position + 1 + (rest.length - left.length))
    | none => s.fail

/-- The part of a text that a pattern which ends at the end of a text may match: a last newline
may be left over. -/
def beforeFinalBreak (text : List Char) : List Char :=
  if text.getLast? = some '\n' then text.dropLast else text

def isSchemeChar (c : Char) : Bool := c.isAlphanum || c = '+' || c = '.' || c = '-'

/-- Whether a text is a scheme of two to 32 characters, a colon, and no blank. -/
def isAbsoluteUri (text : List Char) : Bool :=
  let scheme := text.takeWhile isSchemeChar
  match text.drop scheme.length with
  | ':' :: rest =>
    (scheme.head?.map Char.isAlpha).getD false && 2 ≤ scheme.length && scheme.length ≤ 32 &&
      (beforeFinalBreak rest).all fun c => c ≠ '<' && c ≠ '>' && 0x20 < c.toNat
  | _ => false

def isMailboxChar (c : Char) : Bool :=
  c.isAlphanum || ".!#$%&'*+/=?^_\x60\x7b|\x7d~-".toList.contains c

/-- A label of a mail domain: up to 63 letters, digits and inner hyphens. -/
def isMailLabel (label : List Char) : Bool :=
  0 < label.length && label.length ≤ 63 && (label.all fun c => c.isAlphanum || c = '-') &&
    label.head? ≠ some '-' && label.getLast? ≠ some '-'

def isMailAddress (text : List Char) : Bool :=
  let text := beforeFinalBreak text
  let mailbox := text.takeWhile isMailboxChar
  match text.drop mailbox.length with
  | '@' :: domain => !mailbox.isEmpty && (domain.splitOn '.').all isMailLabel
  | _ => false

/-- A link whose text is its destination as it is shown. -/
def autolink (url shown : List Char) : Piece :=
  let text := Node.inlined (.text (String.ofList shown)) []
  .node (.inlined (.link (String.ofList url)) (if shown.isEmpty then [] else [text]))

/-- A destination in angle brackets. -/
def scanAutolink (source : Source) (silent : Bool) (s : Scan) : Attempt :=
  let stop := source.spanEnd (fun c => c ≠ '<' && c ≠ '>') s.limit (s.position + 1)
  if s.limit ≤ stop || source.chars[stop]? ≠ some '>' then s.fail
  else
    let text := source.slice (s.position + 1) stop
    let attempt (destination : List Char) : Attempt :=
      match allowedUrl? destination with
      | some url => s.found silent (autolink url (Url.shownChars text)) (stop + 1)
      | none => s.fail
    if isAbsoluteUri text then attempt text
    else if isMailAddress text then attempt ("mailto:".toList ++ text)
    else s.fail

/-- A tag or another form of markup that passes through. -/
def scanTag (source : Source) (silent : Bool) (s : Scan) : Attempt :=
  if s.limit ≤ s.position + 2 then s.fail
  else
    let rest := source.slice s.position source.chars.size
    match takeTag? rest with
    | some left =>
      let length := rest.length - left.length
      let text := String.ofList (rest.take length)
      s.found silent (.node (.inlined (.html text) [])) (s.position + length)
    | none => s.fail

/-- What stands in parentheses behind the text of a link or an image. -/
inductive Target where
  /-- A destination, and the position behind the parentheses. -/
  | url (url : List Char) (next : Nat)
  /-- No destination. A reference may stand at the position. -/
  | none (next : Nat)
  /-- The text ends inside the parentheses. -/
  | unfinished

/-- Reads a target from behind its opening parenthesis. -/
def takeTarget (source : Source) (limit position : Nat) : Target :=
  let start := source.spanEnd isSpaceOrBreak limit position
  if limit ≤ start then .unfinished
  else
    let positionOf (left : List Char) : Nat := limit - left.length
    let text := source.slice start limit
    let (url, rest) := match takeDestination? text with
      | some (destination, left) =>
        match allowedUrl? destination with
        | some url => (url, left)
        | Option.none => ([], text)
      | Option.none => ([], text)
    let spaced := rest.dropWhile isSpaceOrBreak
    let rest :=
      if spaced.length < rest.length then
        match takeTitle? spaced with
        | some left => left.dropWhile isSpaceOrBreak
        | Option.none => spaced
      else spaced
    match rest with
    | ')' :: left => .url url (positionOf left)
    | _ => .none (positionOf rest + 1)

mutual

/-- Scans up to the limit. -/
def scanAll (fuel : Nat) (source : Source) (s : Scan) : Scan :=
  match fuel with
  | 0 => s.flush
  | fuel + 1 =>
    if s.position < s.limit then
      let attempt := if s.level < maxNesting then scanForm fuel source false s else s.fail
      if attempt.found then scanAll fuel source attempt.scan
      else
        let s := attempt.scan
        scanAll fuel source
          ((s.addPending (source.slice s.position (s.position + 1))).moveTo (s.position + 1))
    else s.flush

/-- Tries the forms that may begin at a position. -/
def scanForm (fuel : Nat) (source : Source) (silent : Bool) (s : Scan) : Attempt :=
  match fuel with
  | 0 => s.fail
  | fuel + 1 =>
    match source.chars[s.position]? with
    | none => s.fail
    | some c =>
      if c = '\n' then scanBreak source silent s
      else if c = '\\' then scanEscape source silent s
      else if isBackquote c then scanCode source silent s
      else if c = '*' || c = '_' then if silent then s.fail else scanMarks source c s
      else if c = '[' then scanLink fuel source silent s
      else if c = '!' then scanImage fuel source silent s
      else if c = '<' then
        let attempt := scanAutolink source silent s
        if attempt.found then attempt else scanTag source silent s
      else if c = '&' then scanReference source silent s
      else scanText source silent s

/-- Passes over one token without keeping it. -/
def skipToken (fuel : Nat) (source : Source) (s : Scan) : Scan :=
  match fuel with
  | 0 => s.moveTo (s.position + 1)
  | fuel + 1 =>
    match s.passed.getD s.position none with
    | some next => s.moveTo next
    | none =>
      let start := s.position
      let s :=
        if s.level < maxNesting then
          let attempt := scanForm fuel source true { s with level := s.level + 1 }
          let next := if attempt.found then attempt.scan.position else start + 1
          { attempt.scan with level := s.level, position := next }
        else s.moveTo (s.limit + 1)
      { s with passed := s.passed.setIfInBounds start (some s.position) }

/-- Looks for the bracket that ends a link text. `depth` brackets are open, and `nested` says
whether a link inside is allowed. -/
def findTextEnd (fuel : Nat) (source : Source) (nested : Bool) (depth : Nat) (s : Scan) :
    Option Nat × Scan :=
  match fuel with
  | 0 => (none, s)
  | fuel + 1 =>
    if s.position < s.limit then
      let c := (source.chars[s.position]?).getD ' '
      if c = ']' && depth = 1 then (some s.position, s)
      else
        let depth := if c = ']' then depth - 1 else depth
        let skipped := skipToken fuel source s
        if c = '[' then
          if skipped.position = s.position + 1 then
            findTextEnd fuel source nested (depth + 1) skipped
          else if nested then findTextEnd fuel source nested depth skipped
          else (none, skipped)
        else findTextEnd fuel source nested depth skipped
    else (none, s)

/-- The end of the link text whose bracket stands at a position. -/
def textEnd (fuel : Nat) (source : Source) (nested : Bool) (start : Nat) (s : Scan) :
    Option Nat × Scan :=
  match fuel with
  | 0 => (none, s)
  | fuel + 1 =>
    let (stop, t) := findTextEnd fuel source nested 1 (s.moveTo (start + 1))
    (stop, { t with position := s.position })

/-- The destination that a definition gives a link text, or the label in brackets behind it. -/
def findDefinition (fuel : Nat) (source : Source) (textStart textStop next : Nat) (s : Scan) :
    Option (List Char × Nat) × Scan :=
  match fuel with
  | 0 => (none, s)
  | fuel + 1 =>
    if source.definitions.isEmpty then (none, s)
    else
      let (stop, s) :=
        if next < s.limit && source.chars[next]? = some '[' then textEnd fuel source true next s
        else (none, s)
      let (label, next) := match stop with
        | some stop => (source.slice (next + 1) stop, stop + 1)
        | none => ([], textStop + 1)
      let label := if label.isEmpty then source.slice textStart textStop else label
      ((source.definitions.lookup (normalizeLabel label)).map fun url => (url, next), s)

/-- A link. -/
def scanLink (fuel : Nat) (source : Source) (silent : Bool) (s : Scan) : Attempt :=
  match fuel with
  | 0 => s.fail
  | fuel + 1 =>
    let textStart := s.position + 1
    match textEnd fuel source false s.position s with
    | (none, s) => s.fail
    | (some textStop, s) =>
      let after := textStop + 1
      let target :=
        if after < s.limit && source.chars[after]? = some '(' then
          takeTarget source s.limit (after + 1)
        else .none after
      let (found, s) := match target with
        | .url url next => (some (url, next), s)
        | .none next => findDefinition fuel source textStart textStop next s
        | .unfinished => (none, s)
      match found with
      | none => s.fail
      | some (url, next) =>
        if silent then s.succeed next
        else
          let outer := s.flush
          let inner := scanAll fuel source
            { outer with
              position := textStart, limit := textStop, level := s.level + 1
              pieces := #[], marks := #[] }
          let children := resolveMarks inner.pieces inner.marks
          let link := Node.inlined (.link (String.ofList url)) children
          { outer with
            passed := inner.passed, codeRuns := inner.codeRuns
            codeSearched := inner.codeSearched }.found false (.node link) next

/-- An image. Its text is passed over. -/
def scanImage (fuel : Nat) (source : Source) (silent : Bool) (s : Scan) : Attempt :=
  match fuel with
  | 0 => s.fail
  | fuel + 1 =>
    let bracket := s.position + 1
    if bracket < s.limit && source.chars[bracket]? ≠ some '[' then s.fail
    else
      match textEnd fuel source true bracket s with
      | (none, s) => s.fail
      | (some textStop, s) =>
        let after := textStop + 1
        let (found, s) :=
          if after < s.limit && source.chars[after]? = some '(' then
            match takeTarget source s.limit (after + 1) with
            | .url url next => (some (url, next), s)
            | _ => (none, s)
          else findDefinition fuel source (bracket + 1) textStop after s
        match found with
        | none => s.fail
        | some (url, next) =>
          s.found silent (.node (.inlined (.image (String.ofList url)) [])) next

end

/-- Enough for every level of nesting to pass over the whole text. -/
def inlineFuel (length : Nat) : Nat := 8 * (maxNesting + 2) * (length + 2)

/-- The nodes of inline text. -/
def parseInline (definitions : Definitions) (text : List Char) : List Node :=
  let source : Source := ⟨text.toArray, definitions⟩
  let length := source.chars.size
  let s := scanAll (inlineFuel length) source (Scan.start length)
  resolveMarks s.pieces s.marks

end DocScript.Markdown
