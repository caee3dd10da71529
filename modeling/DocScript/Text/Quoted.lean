import DocScript.Text.Points

/-! # Quoted text

Text inside quotes, with a backslash before what could be mistaken for its end. The quotes are
single unless the text holds a single quote and no double one.
-/

namespace DocScript.Text

def singleQuote : Char := '\x27'

/-- A code behind a backslash, in the shortest of three widths. -/
def escapeCode (code : Nat) : List Char :=
  if code < 0x100 then '\\' :: 'x' :: hexadecimal 2 code
  else if code < 0x10000 then '\\' :: 'u' :: hexadecimal 4 code
  else '\\' :: 'U' :: hexadecimal 8 code

/-- One character as it stands between two `quote`s. -/
def escapeChar (quote c : Char) : List Char :=
  if c = quote || c = '\\' then ['\\', c]
  else if c = '\n' then ['\\', 'n']
  else if c = '\r' then ['\\', 'r']
  else if c = '\t' then ['\\', 't']
  else if isPrintable c then [c]
  else escapeCode c.toNat

/-- One point as it stands between two `quote`s. Half of a pair cannot be printed. -/
def escape (quote : Char) : Point → List Char
  | .char c => escapeChar quote c
  | .half index => escapeCode (Point.half index).code

def quoteFor (text : Points) : Char :=
  if text.contains (.char singleQuote) && !text.contains (.char '"') then '"' else singleQuote

def quoteChars (text : Points) : List Char :=
  let quote := quoteFor text
  quote :: text.flatMap (escape quote) ++ [quote]

def quoted (text : Points) : String :=
  String.ofList (quoteChars text)

end DocScript.Text
