import DocScript.Machine.Run
import DocScript.Text.Line

/-! # Reports

What became of a script: what it printed, and if it failed, the error with the lines around it and
the invocations in progress. Line numbers and excerpts are those of the script itself.
-/

namespace DocScript

structure Report where
  failed : Bool
  printed : List Value
  message : Option Points
  line : Line
  context : String

namespace Report

/-- The word that a report puts before an error. -/
def label : ErrorKind → String
  | .general => "InternalError"
  | .typeMismatch => "TypeError"
  | .undeclared => "UndeclaredVariableError"
  | .resolution => "ResolutionError"
  | .malformed => "SyntaxError"
  | .unsupported => "UnsupportedExpressionError"

/-- The word that a report puts before a fault. -/
def faultLabel : Fault → String
  | .overflow _ => "RecursionError"
  | .raised error => label error.kind
  | _ => label .general

def messageOf : Failure → Points
  | .error e => Points.ofString (label e.kind ++ ": ") ++ e.detail
  | .fault f => Points.ofString (faultLabel f ++ ": ") ++ f.reason

def lineOf : Failure → Line
  | .error e => e.line
  | .fault f => f.line

/-- An excerpt shows this many lines before and after a line. -/
def radius : Nat := 2

/-- Aligned to the right in some width. -/
def padLeft (width : Nat) (text : String) : String :=
  String.ofList (List.replicate (width - text.length) ' ') ++ text

/-- A line of an excerpt. The one that it is about is marked. -/
def excerptLine (width marked number : Nat) (text : String) : String :=
  (if number = marked then ">" else " ") ++ " " ++ padLeft width (toString number) ++ " | " ++ text

/-- The lines of a script around a line, or nothing if there is no such line. -/
def excerptAt (lines : List String) (marked : Nat) : List String :=
  if 1 ≤ marked ∧ marked ≤ lines.length then
    let first := marked - radius - 1
    let last := min lines.length (marked + radius)
    let width := (toString last).length
    ((lines.take last).drop first).mapIdx fun i text =>
      excerptLine width marked (first + i + 1) text
  else []

def excerpt (script : String) (line : Line) : List String :=
  match line with
  | some (.ofNat n) => excerptAt (Text.lines script) n
  | _ => []

/-- An argument as it stands in a list of invocations. A number must be one that can be written. -/
def argumentText : Value → Except Fault String
  | .list _ items => .ok ("#[" ++ toString items.length ++ "]")
  | .record _ _ => .ok "#\x7b...\x7d"
  | .string s => .ok (Text.quoted s)
  | value =>
    if value.isWritable then .ok (String.ofList value.atomChars) else .error .unwritable

def frameText (frame : Frame) : Except Fault String :=
  (frame.args.mapM argumentText).map fun args =>
    "  " ++ frame.function ++ "(" ++ String.intercalate ", " args ++ ")"

/-- The invocations in progress, the outermost one first. -/
def stackLines (frames : List Frame) : Except Fault (List String) :=
  if frames.isEmpty then .ok []
  else (frames.reverse.mapM frameText).map ("Stack (most recent call last):" :: ·)

def joinLines (lines : List String) : String := String.intercalate "\n" lines

/-- The report on a script that has failed, if it can be written. -/
def ofFailure (script : String) (session : Session) (failure : Failure) : Except Fault Report :=
  (stackLines session.frames).map fun stack =>
    { failed := true
      printed := session.output
      message := some (messageOf failure)
      line := lineOf failure
      context := joinLines (excerpt script (lineOf failure) ++ stack) }

/-- The report on a script that has come to its end. -/
def ofSession (session : Session) : Report := ⟨false, session.output, none, none, ""⟩

/-- The error as it is shown to a user, or nothing if there was none. -/
def text (report : Report) : Points :=
  match report.message with
  | none => []
  | some message =>
    let located := match report.line with
      | some n => Points.ofString ("Error on line " ++ toString n ++ ": ") ++ message
      | none => message
    if report.context.isEmpty then located
    else located ++ Points.ofString ("\n" ++ report.context)

end Report

/-- A script, and how it is to be run. -/
structure Script where
  text : String
  entry : String
  args : List Value
  /-- What references in the script resolve against. -/
  origin : Option String

namespace Script

/-- The program of a script. A script without an origin has the directory that programs run in. -/
def program (script : Script) (world : World) : Result Program := do
  let program ← (Program.parse script.text).program
  return program.withOrigin (some (← Result.ofFault (Location.base world script.origin)))

/-- A machine about to run a script, or one that has failed because the script is malformed. -/
def start (script : Script) (world : World) (session : Session) (library : Library) : Machine :=
  let compiled := Program.parse script.text
  let store := (⟨library, []⟩ : Store).noteAll (compiled.dropped.map .dropped)
  match script.program world with
  | .ok program => Machine.start program script.entry script.args session store
  | .error failure => ⟨session, store, [], .failed failure⟩

end Script

end DocScript
