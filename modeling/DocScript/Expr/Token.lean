import DocScript.Expr.Basic
import DocScript.Number.Numeral
import DocScript.Text.Quoted

/-! # Tokens of expressions

Which tokens are tried at a place depends on what may stand there. If none of them matches, any
token is tried, so that an error can name it. Every token takes at least one character.
-/

namespace DocScript

inductive Symbol where
  | binary (op : BinaryOp)
  | not
  | dot
  | comma
  | openParen
  | closeParen
  | openBracket
  | closeBracket
  deriving DecidableEq, Repr

def Symbol.text : Symbol → String
  | .binary op => op.text
  | .not => "!"
  | .dot => "."
  | .comma => ","
  | .openParen => "("
  | .closeParen => ")"
  | .openBracket => "["
  | .closeBracket => "]"

inductive Token where
  | name (text : String)
  | number (numeral : Numeral) (source : String)
  | string (body source : String)
  | symbol (value : Symbol)
  deriving DecidableEq

/-- A token as it stands in the text. -/
def Token.text : Token → String
  | .name text => text
  | .number _ source => source
  | .string _ source => source
  | .symbol s => s.text

/-- What may stand at a place. -/
inductive Expected where
  | operand
  | operator
  | memberName
  deriving DecidableEq, Repr

def startsName (c : Char) : Bool := c.isAlpha || c = '_' || c = '$'

def continuesName (c : Char) : Bool := Text.isWord c || c = '$'

/-- The text of a string up to its closing quote, and what follows the quote. A backslash takes
the next character with it, which must not be a newline. -/
def takeString (quote : Char) : List Char → Option (List Char × List Char)
  | [] => none
  | '\\' :: c :: rest =>
    if c = '\n' then none
    else (takeString quote rest).map fun (body, left) => ('\\' :: c :: body, left)
  | c :: rest =>
    if c = quote then some ([], rest)
    else if c = '\\' then none
    else (takeString quote rest).map fun (body, left) => (c :: body, left)

theorem takeString_length {quote : Char} {text body left : List Char}
    (h : takeString quote text = some (body, left)) : left.length < text.length := by
  fun_induction takeString quote text generalizing body with
  | case1 => cases h
  | case2 => cases h
  | case3 c rest hc ih =>
    obtain ⟨⟨b, l⟩, hb, he⟩ := Option.map_eq_some_iff.1 h
    have := ih (hb.trans (by rw [(Prod.mk.inj he).2]))
    simp only [List.length_cons]
    omega
  | case4 => cases h; simp
  | case5 => cases h
  | case6 c rest _ hq hs ih =>
    obtain ⟨⟨b, l⟩, hb, he⟩ := Option.map_eq_some_iff.1 h
    have := ih (hb.trans (by rw [(Prod.mk.inj he).2]))
    simp only [List.length_cons]
    omega

/-- The name, number or string at the head of a text. -/
def takeWord? : List Char → Option (Token × List Char)
  | [] => none
  | c :: rest =>
    if startsName c then
      some (.name (String.ofList (c :: rest.takeWhile continuesName)), rest.dropWhile continuesName)
    else if c = '"' || c = Text.singleQuote then
      match takeString c rest with
      | some (body, left) =>
        some (.string (String.ofList body) (String.ofList (c :: body ++ [c])), left)
      | none => none
    else
      match Numeral.take? (c :: rest) with
      | some (numeral, left) =>
        let source := (c :: rest).take (rest.length + 1 - left.length)
        some (.number numeral (String.ofList source), left)
      | none => none

theorem takeWord?_length {text left : List Char} {t : Token}
    (h : takeWord? text = some (t, left)) : left.length < text.length := by
  cases text with
  | nil => cases h
  | cons c rest =>
    simp only [takeWord?] at h
    split at h
    · have := List.IsSuffix.length_le (List.dropWhile_suffix (l := rest) continuesName)
      cases h
      simp only [List.length_cons]
      omega
    · split at h
      · split at h
        · rename_i body after hs
          have := takeString_length hs
          cases h
          simp only [List.length_cons]
          omega
        · cases h
      · split at h
        · rename_i n after hn
          have := Numeral.take?_length hn
          cases h
          omega
        · cases h

/-- The longest symbol other than `!` at the head of a text. -/
def takeInfix? : List Char → Option (Symbol × List Char)
  | '=' :: '=' :: '=' :: rest => some (.binary (.operator .strictEq), rest)
  | '!' :: '=' :: '=' :: rest => some (.binary (.operator .strictNe), rest)
  | '=' :: '=' :: rest => some (.binary (.operator .eq), rest)
  | '!' :: '=' :: rest => some (.binary (.operator .ne), rest)
  | '<' :: '=' :: rest => some (.binary (.operator .le), rest)
  | '>' :: '=' :: rest => some (.binary (.operator .ge), rest)
  | '|' :: '|' :: rest => some (.binary (.logical .or), rest)
  | '&' :: '&' :: rest => some (.binary (.logical .and), rest)
  | '<' :: rest => some (.binary (.operator .lt), rest)
  | '>' :: rest => some (.binary (.operator .gt), rest)
  | '+' :: rest => some (.binary (.operator .add), rest)
  | '-' :: rest => some (.binary (.operator .sub), rest)
  | '*' :: rest => some (.binary (.operator .mul), rest)
  | '/' :: rest => some (.binary (.operator .div), rest)
  | '%' :: rest => some (.binary (.operator .mod), rest)
  | '.' :: rest => some (.dot, rest)
  | ',' :: rest => some (.comma, rest)
  | '(' :: rest => some (.openParen, rest)
  | ')' :: rest => some (.closeParen, rest)
  | '[' :: rest => some (.openBracket, rest)
  | ']' :: rest => some (.closeBracket, rest)
  | _ => none

theorem takeInfix?_length {text left : List Char} {s : Symbol}
    (h : takeInfix? text = some (s, left)) : left.length < text.length := by
  unfold takeInfix? at h
  split at h <;> cases h <;> simp <;> omega

/-- The symbols that can begin an operand, and the parenthesis that ends an empty argument list. -/
def takePrefix? : List Char → Option (Symbol × List Char)
  | '!' :: rest => some (.not, rest)
  | '+' :: rest => some (.binary (.operator .add), rest)
  | '-' :: rest => some (.binary (.operator .sub), rest)
  | '(' :: rest => some (.openParen, rest)
  | ')' :: rest => some (.closeParen, rest)
  | _ => none

theorem takePrefix?_length {text left : List Char} {s : Symbol}
    (h : takePrefix? text = some (s, left)) : left.length < text.length := by
  unfold takePrefix? at h
  split at h <;> cases h <;> simp

def asToken (found : Option (Symbol × List Char)) : Option (Token × List Char) :=
  found.map fun (s, left) => (.symbol s, left)

theorem asToken_length {found : Option (Symbol × List Char)} {text left : List Char} {t : Token}
    (hf : ∀ s l, found = some (s, l) → l.length < text.length)
    (h : asToken found = some (t, left)) : left.length < text.length := by
  obtain ⟨⟨s, l⟩, hs, he⟩ := Option.map_eq_some_iff.1 h
  obtain ⟨-, rfl⟩ := Prod.mk.inj he
  exact hf s _ hs

/-- Any token, whatever is expected. -/
def takeAny? (text : List Char) : Option (Token × List Char) :=
  (takeWord? text).or ((asToken (takeInfix? text)).or (asToken (takePrefix? text)))

def takeName? (text : List Char) : Option (Token × List Char) :=
  match text with
  | c :: _ => if startsName c then takeWord? text else none
  | [] => none

/-- The token at the head of a text that fits what is expected. -/
def takeExpected? (expected : Expected) (text : List Char) : Option (Token × List Char) :=
  match expected with
  | .operand => (takeWord? text).or (asToken (takePrefix? text))
  | .operator => asToken (takeInfix? text)
  | .memberName => takeName? text

/-- The token at the head of a text, one that fits if there is one. -/
def Token.take? (expected : Expected) (text : List Char) : Option (Token × List Char) :=
  (takeExpected? expected text).or (takeAny? text)

theorem takeAny?_length {text left : List Char} {t : Token} (h : takeAny? text = some (t, left)) :
    left.length < text.length := by
  unfold takeAny? at h
  rcases Option.or_eq_some_iff.1 h with hw | ⟨-, h⟩
  · exact takeWord?_length hw
  · rcases Option.or_eq_some_iff.1 h with hi | ⟨-, hp⟩
    · exact asToken_length (fun _ _ => takeInfix?_length) hi
    · exact asToken_length (fun _ _ => takePrefix?_length) hp

theorem takeExpected?_length {expected : Expected} {text left : List Char} {t : Token}
    (h : takeExpected? expected text = some (t, left)) : left.length < text.length := by
  cases expected with
  | operand =>
    rcases Option.or_eq_some_iff.1 h with hw | ⟨-, hp⟩
    · exact takeWord?_length hw
    · exact asToken_length (fun _ _ => takePrefix?_length) hp
  | operator => exact asToken_length (fun _ _ => takeInfix?_length) h
  | memberName =>
    simp only [takeExpected?, takeName?] at h
    split at h
    · split at h
      · exact takeWord?_length h
      · cases h
    · cases h

theorem Token.take?_length {expected : Expected} {text left : List Char} {t : Token}
    (h : Token.take? expected text = some (t, left)) : left.length < text.length := by
  rcases Option.or_eq_some_iff.1 h with he | ⟨-, ha⟩
  · exact takeExpected?_length he
  · exact takeAny?_length ha

end DocScript
