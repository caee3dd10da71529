import DocScript.Number.Numeral
import DocScript.Number.Text
import DocScript.Text.Quoted
import DocScript.Value.Basic

/-! # Values as text

A value is shown on a console, joined to other text, or written in a trace. Strings inside lists
and records are quoted in all three. Integers are written as they are, but a value with an integer
over the limit on conversions counts as one that cannot be written.
-/

namespace DocScript

def joinWith {α : Type} (separator : List α) : List (List α) → List α
  | [] => []
  | [part] => part
  | part :: rest => part ++ separator ++ joinWith separator rest

/-- A key as it stands before its colon. -/
def Key.points : Key → Points
  | .text s => s
  | .number n => Points.ofChars n.plainChars

/-- The blanks before a line at a level. A negative width or level gives none. -/
def indentation (width level : Int) : Points :=
  List.replicate (width.toNat * level.toNat) (.char ' ')

namespace Value

/-- The text of a value that is neither a text nor made of other values. -/
def atomChars : Value → List Char
  | .none => "undefined".toList
  | .bool b => if b then "true".toList else "false".toList
  | .number n => n.textChars
  | _ => []

mutual

/-- A value at a level of nesting. Strings are quoted when `nested`. -/
def layout (width level : Int) (nested : Bool) : Value → Points
  | .string s => if nested then Points.ofChars (Text.quoteChars s) else s
  | .list _ items =>
    .char '[' :: joinWith (Points.ofString ", ") (layoutItems width (level + 1) items) ++
      [.char ']']
  | .record _ [] => Points.ofString "\x7b\x7d"
  | .record _ (field :: rest) =>
    let lines := layoutFields width (level + 1) (field :: rest)
    Points.ofString "\x7b\n" ++ joinWith [.char '\n'] lines ++
      .char '\n' :: indentation width level ++
      [.char '\x7d']
  | value => Points.ofChars value.atomChars

def layoutItems (width level : Int) : List Value → List Points
  | [] => []
  | item :: rest => layout width level true item :: layoutItems width level rest

/-- One line for each field, indented to the level. -/
def layoutFields (width level : Int) : List Field → List Points
  | [] => []
  | .mk key value :: rest =>
    (indentation width level ++ key.points ++ Points.ofString ": " ++
      layout width level true value) :: layoutFields width level rest

end

mutual

/-- A value as it stands in a trace. -/
def traceChars : Value → List Char
  | .none => "None".toList
  | .bool b => if b then "True".toList else "False".toList
  | .number n => n.plainChars
  | .string s => Text.quoteChars s
  | .list _ items => '[' :: joinWith ", ".toList (traceItems items) ++ [']']
  | .record _ fields => '\x7b' :: joinWith ", ".toList (traceFields fields) ++ ['\x7d']

def traceItems : List Value → List (List Char)
  | [] => []
  | item :: rest => traceChars item :: traceItems rest

def traceFields : List Field → List (List Char)
  | [] => []
  | .mk key value :: rest =>
    let name := match key with
      | .text s => Text.quoteChars s
      | .number n => n.plainChars
    (name ++ ':' :: ' ' :: traceChars value) :: traceFields rest

end

/-- Values are indented by two blanks a level. -/
def indentWidth : Int := 2

def displayAt (width level : Int) (value : Value) : Points := layout width level false value

/-- A value as it is shown on a console. -/
def display (value : Value) : Points := displayAt indentWidth 0 value

/-- A value as part of another text, where no value is empty. -/
def text : Value → Points
  | .none => []
  | value => value.display

/-- A value as error messages quote it. -/
def described : Value → Points
  | .none => Points.ofString "undefined"
  | value => value.text

/-- Whether all integers in a value are within the limit on conversions. -/
def isWritable (value : Value) : Bool :=
  value.integers.all fun n => (Nat.toDigits 10 n.natAbs).length ≤ Numeral.maxDigits

end Value

end DocScript
