import DocScript.Text.Quoted

/-! # Argument lists

An argument list is divided at its commas, other than those inside quotes or brackets.
-/

namespace DocScript

/-- Whether a place lies inside quotes, and then whether it follows a backslash. -/
inductive Quoting where
  | outside
  | inside (quote : Char) (escaped : Bool)

/-- How a character changes the quoting of the place after it. -/
def Quoting.next (c : Char) : Quoting → Quoting
  | .outside => if c = '"' || c = Text.singleQuote then .inside c false else .outside
  | .inside quote true => .inside quote false
  | .inside quote false =>
    if c = '\\' then .inside quote true
    else if c = quote then .outside
    else .inside quote false

/-- How a character outside quotes changes the number of open brackets. -/
def bracketChange (c : Char) : Int :=
  if c = '(' || c = '[' || c = '\x7b' then 1
  else if c = ')' || c = ']' || c = '\x7d' then -1
  else 0

def argumentText (passed : List Char) : String := String.ofList (Text.trim passed.reverse)

/-- Divides what follows a place. `passed` is the argument so far, last character first. -/
def splitFrom (passed : List Char) (depth : Int) (quoting : Quoting) : List Char → List String
  | [] => [argumentText passed]
  | c :: rest =>
    match quoting with
    | .inside _ _ => splitFrom (c :: passed) depth (quoting.next c) rest
    | .outside =>
      if c = ',' && depth = 0 then argumentText passed :: splitFrom [] depth .outside rest
      else splitFrom (c :: passed) (depth + bracketChange c) (quoting.next c) rest

/-- The arguments of a list, without the blanks around them. A blank list has none. -/
def splitArguments (text : String) : List String :=
  if Text.trim text.toList = [] then [] else splitFrom [] 0 .outside text.toList

end DocScript
