import DocScript.Command.Disk
import DocScript.Script.Runner

/-! # The command line

A command names a document, a function and its arguments. It shows what the script prints, answers
its requests for input with lines of the standard input, and ends with a status.
-/

namespace DocScript

structure Command where
  /-- The path as it is written. -/
  path : String
  entry : String
  args : List String

namespace Command

/-- The function that runs unless a command names another one. -/
def defaultEntry : String := "main"

/-- The command that arguments make. There is none without a document. -/
def ofArguments? : List String → Option Command
  | [] => none
  | path :: rest =>
    if path.startsWith "-" then none
    else some ⟨path, rest.headD defaultEntry, rest.drop 1⟩

def usage : String := "usage: mdlang <file.md> [entry] [args...]"

def usageStatus : UInt32 := 2

def failureStatus : UInt32 := 1

def notFound (path : String) : String := "Error: file not found: " ++ path

/-- The path of the document, which may end in a slash. -/
def documentPath (command : Command) : String :=
  String.ofList (Path.tidy command.path.toList)

/-- The lines of an input without their ends. -/
def inputLines (stdin : String) : List String :=
  let lines := (stdin.toList.splitOn '\n').map String.ofList
  if lines.getLast? = some "" then lines.dropLast else lines

/-- Gives a script some lines, and empty ones after the last. -/
def lineProvider (lines : List String) : Provider := ⟨fun n => .ok (.string (lines.getD n "")), 0⟩

/-- What a command has a runner run once the text of its document has been read. -/
def submission (command : Command) (text stdin : String) : Submission where
  text := text
  entry := command.entry
  args := command.args.map fun (arg : String) => .string arg
  inputs := []
  provider := some (lineProvider (inputLines stdin))

end Command

/-- What a command asks of the system besides its files. -/
structure Host where
  overflow : Overflow
  fetch : String → Except Missing Response

/-- Why a command has no status: the system fails to read its document, or a report cannot be
written. -/
inductive Escape where
  | reading (error : FileError)
  | reporting (fault : Fault)

/-- How a command ends: with a status, or by an error that it does not catch. -/
structure Exit where
  status : Except Escape UInt32
  stdout : String
  stderr : String

namespace Points

/-- The halves of pairs that come first in a text, with the place of the first of them. -/
def firstHalves (text : Points) : Nat × Points :=
  let before := text.takeWhile Point.isChar
  (before.length, (text.drop before.length).takeWhile fun point => !point.isChar)

/-- What there is to say of a text with halves of pairs, which cannot be encoded. -/
def notEncoded (text : Points) : String :=
  let place := match text.firstHalves with
    | (position, [half]) =>
      "character " ++ Text.quoted [half] ++ " in position " ++ toString position
    | (position, halves) =>
      "characters in position " ++ toString position ++ "-" ++
        toString (position + halves.length - 1)
  "'utf-8' codec can't encode " ++ place ++ ": surrogates not allowed"

/-- A text with the codes of halves in their places. -/
def escaped (text : Points) : String :=
  String.ofList (text.flatMap fun
    | .char c => [c]
    | .half index => Text.escapeCode (Point.half index).code)

end Points

namespace Exit

def textOf (lines : List String) : String := String.join (lines.map fun line => line ++ "\n")

/-- What there is to say of a command that goes on for longer than it is given. -/
def unfinished : Exit := ⟨.error (.reading (.other "unfinished")), "", ""⟩

end Exit

namespace Command

/-- The line that shows a value on the standard output, which takes what can be encoded. -/
def shown (value : Value) : Except Fault String :=
  match value.display.string? with
  | some line => .ok line
  | none => .error (.refused value.display.notEncoded)

/-- Writes values to the standard output. -/
def writer : Sink (List String) := fun lines value =>
  match shown value with
  | .ok line => (lines ++ [line], none)
  | .error fault => (lines, some fault)

/-- The exit of a command whose script has ended, after some lines on the standard output. -/
def exitOf (lines : List String) : Except Fault Outcome → Exit
  | .ok outcome =>
    if outcome.failed then
      ⟨.ok failureStatus, Exit.textOf lines, Exit.textOf [outcome.text.escaped]⟩
    else ⟨.ok 0, Exit.textOf lines, ""⟩
  | .error fault => ⟨.error (.reporting fault), Exit.textOf lines, ""⟩

/-- The exit of a command on a disk, if its script ends within as many steps as `fuel` says. -/
def exit? (command : Command) (host : Host) (disk : Disk) (stdin : String) (fuel : Nat) :
    Option Exit :=
  match disk.readText command.documentPath with
  | .error .missing => some ⟨.ok failureStatus, "", Exit.textOf [notFound command.path]⟩
  | .error error => some ⟨.error (.reading error), "", ""⟩
  | .ok text =>
    let runner : Runner := ⟨some (disk.directoryOf command.documentPath), none⟩
    let handled := runner.handle host.overflow writer (disk.world host.fetch) .empty fuel
      (command.submission text stdin) []
    handled.outcome.map (exitOf handled.host)

/-- The exit of the command that arguments make. Where they make none, it shows how to write one. -/
def exitOfArguments? (arguments : List String) (host : Host) (disk : Disk) (stdin : String)
    (fuel : Nat) : Option Exit :=
  match ofArguments? arguments with
  | none => some ⟨.ok usageStatus, "", Exit.textOf [usage]⟩
  | some command => command.exit? host disk stdin fuel

/-- Runs the command that arguments make to its end. -/
def runArguments (arguments : List String) (host : Host) (disk : Disk) (stdin : String) : Exit :=
  (exitOfArguments? arguments host disk stdin enoughSteps).getD .unfinished

end Command

end DocScript
