import DocScript.Text.Quoted
import DocScript.Url.Link

/-! # Tags

The forms of markup that pass through a document unread: opening and closing tags, comments,
processing instructions, declarations and character data.
-/

namespace DocScript.Markdown

/-- Where a place in an opening tag may lie. One place may lie in several ways. -/
inductive TagPlace where
  | name
  | gap
  | attribute
  | afterAttribute
  | beforeValue
  | bareValue
  | quoted (quote : Char)
  | afterQuoted
  | slash
  | finish
  deriving DecidableEq, Repr

def startsAttribute (c : Char) : Bool := c.isAlpha || c = '_' || c = ':'

def continuesAttribute (c : Char) : Bool := c.isAlphanum || c = ':' || c = '.' || c = '_' || c = '-'

def inBareValue (c : Char) : Bool :=
  !("\"'=<>\x60".toList.contains c) && 0x20 < c.toNat

/-- The ways in which the place after a character may lie. -/
def TagPlace.next (c : Char) : TagPlace → List TagPlace
  | .name =>
    (if c.isAlphanum || c = '-' then [.name] else []) ++ close ++ if blank then [.gap] else []
  | .gap => (if blank then [.gap] else []) ++ opening ++ close
  | .attribute =>
    (if continuesAttribute c then [.attribute] else []) ++
      (if blank then [.afterAttribute] else []) ++ value ++ close
  | .afterAttribute => (if blank then [.afterAttribute] else []) ++ opening ++ value ++ close
  | .beforeValue =>
    (if blank then [.beforeValue] else []) ++
      (if c = '"' || c = Text.singleQuote then [.quoted c] else []) ++
      if inBareValue c then [.bareValue] else []
  | .bareValue =>
    (if inBareValue c then [.bareValue] else []) ++ (if blank then [.gap] else []) ++ close
  | .quoted quote => if c = quote then [.afterQuoted] else [.quoted quote]
  | .afterQuoted => (if blank then [.gap] else []) ++ close
  | .slash => if c = '>' then [.finish] else []
  | .finish => []
where
  blank : Bool := Text.isBlank c
  opening : List TagPlace := if startsAttribute c then [.attribute] else []
  value : List TagPlace := if c = '=' then [.beforeValue] else []
  close : List TagPlace := if c = '/' then [.slash] else if c = '>' then [.finish] else []

/-- What follows an opening tag, given how the place before the text may lie. -/
def takeOpening (places : List TagPlace) : List Char → Option (List Char)
  | [] => none
  | c :: rest =>
    let next := (places.flatMap (TagPlace.next c)).eraseDups
    if next.contains .finish then some rest
    else if next.isEmpty then none
    else takeOpening next rest

def isTagNameChar (c : Char) : Bool := c.isAlphanum || c = '-'

/-- What follows an opening or a closing tag at the head of a text. -/
def takeElementTag? : List Char → Option (List Char)
  | '<' :: '/' :: c :: rest =>
    if c.isAlpha then
      match (rest.dropWhile isTagNameChar).dropWhile Text.isBlank with
      | '>' :: left => some left
      | _ => none
    else none
  | '<' :: c :: rest => if c.isAlpha then takeOpening [.name] rest else none
  | _ => none

/-- What follows the first occurrence of `mark`. -/
def dropThrough (mark : List Char) : List Char → Option (List Char)
  | [] => none
  | c :: rest =>
    if mark.isPrefixOf (c :: rest) then some ((c :: rest).drop mark.length)
    else dropThrough mark rest

/-- What follows a comment, from a place inside it. Three characters that begin with two dashes are
taken together, so that a third dash hides the end. -/
def dropComment : List Char → Option (List Char)
  | [] => none
  | '-' :: '-' :: '>' :: rest => some rest
  | '-' :: '-' :: _ :: rest => dropComment rest
  | '-' :: c :: rest => if c = '-' then none else dropComment rest
  | ['-'] => none
  | _ :: rest => dropComment rest

/-- What follows a tag, comment, instruction, declaration or character data at the head of a
text. -/
def takeTag? (text : List Char) : Option (List Char) :=
  match text with
  | '<' :: '!' :: '-' :: '-' :: '>' :: rest => some rest
  | '<' :: '!' :: '-' :: '-' :: '-' :: '>' :: rest => some rest
  | '<' :: '!' :: '-' :: '-' :: rest => dropComment rest
  | '<' :: '?' :: rest => dropThrough ['?', '>'] rest
  | '<' :: '!' :: c :: rest =>
    if c.isAlpha then dropThrough ['>'] rest
    else if "[CDATA[".toList.isPrefixOf (c :: rest) then
      dropThrough "]]>".toList ((c :: rest).drop 7)
    else none
  | _ => takeElementTag? text

/-- The text that opens a block of markup, as a name behind `<` that a given character follows. -/
def startsWithName (names : List String) (follows : List Char → Bool) (text : List Char) : Bool :=
  names.any fun name =>
    name.toList = (text.take name.length).map Url.foldLetter && follows (text.drop name.length)

/-- Whether a line ends a name: the name is followed by a blank, by `>` or by nothing. -/
def endsName : List Char → Bool
  | [] => true
  | c :: _ => Text.isBlank c || c = '>'

/-- Whether a line ends a name that a slash may close. -/
def endsNameOrSlash : List Char → Bool
  | '/' :: '>' :: _ => true
  | text => endsName text

def contains (mark : List Char) (text : List Char) : Bool := (dropThrough mark text).isSome

/-- Elements whose content is not marked up. -/
def rawNames : List String := ["script", "pre", "style", "textarea"]

/-- Elements that make a block of the lines up to the next empty one. -/
def blockNames : List String :=
  ["address", "article", "aside", "base", "basefont", "blockquote", "body", "caption", "center",
   "col", "colgroup", "dd", "details", "dialog", "dir", "div", "dl", "dt", "fieldset",
   "figcaption", "figure", "footer", "form", "frame", "frameset", "h1", "h2", "h3", "h4", "h5",
   "h6", "head", "header", "hr", "html", "iframe", "legend", "li", "link", "main", "menu",
   "menuitem", "nav", "noframes", "ol", "optgroup", "option", "p", "param", "search", "section",
   "summary", "table", "tbody", "td", "tfoot", "th", "thead", "title", "tr", "track", "ul"]

/-- The kinds of blocks of markup, told apart by how their last line is found. -/
inductive MarkupBlock where
  | raw
  | through (mark : String)
  | element
  | tag
  deriving DecidableEq, Repr

/-- The kind of block that a line opens. -/
def MarkupBlock.ofLine? (line : List Char) : Option MarkupBlock :=
  match line with
  | '<' :: rest =>
    if startsWithName rawNames endsName rest then some .raw
    else if "!--".toList.isPrefixOf rest then some (.through "-->")
    else if "?".toList.isPrefixOf rest then some (.through "?>")
    else if "![CDATA[".toList.isPrefixOf rest then some (.through "]]>")
    else
      match rest with
      | '!' :: c :: _ => if c.isUpper then some (.through ">") else none
      | _ =>
        let inside := match rest with
          | '/' :: inside => inside
          | _ => rest
        if startsWithName blockNames endsNameOrSlash inside then some .element
        else
          match takeElementTag? line with
          | some left => if left.all Text.isBlank then some .tag else none
          | none => none
  | _ => none

/-- Whether a block may stand right behind a paragraph. -/
def MarkupBlock.interrupts : MarkupBlock → Bool
  | .tag => false
  | _ => true

/-- Whether a line is the last of a block. -/
def MarkupBlock.endsAt (line : List Char) : MarkupBlock → Bool
  | .raw =>
    let small := line.map Url.foldLetter
    rawNames.any fun name => contains ("</" ++ name ++ ">").toList small
  | .through mark => contains mark.toList line
  | .element => line.isEmpty
  | .tag => line.isEmpty

end DocScript.Markdown
