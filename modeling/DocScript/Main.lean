import DocScript.Command.Line
import DocScript.Machine.Need

/-! # The program

Runs the command that its arguments make. Values are shown as they are printed, so that scripts can
prompt for input.
-/

namespace DocScript.Main

/-- What an error of the system means for a file. -/
def fileError : IO.Error → FileError
  | .noFileOrDirectory _ _ _ => .missing
  | .inappropriateType _ 20 _ => .notDirectory
  | .inappropriateType _ _ _ => .isDirectory
  | .permissionDenied _ _ _ => .denied
  | e => .other e.toString

def readText (path : String) : IO (Except FileError String) := do
  if path.toList.contains '\x00' then return .error .nullByte
  try
    return textOfBytes (← IO.FS.readBinFile path).toList
  catch e => return .error (fileError e)

/-- The next line of the standard input without its end, or an empty one after the last. -/
def readLine : IO String := do
  let line ← (← IO.getStdin).getLine
  return (Command.inputLines line).headD ""

/-- A world in which nothing is found. -/
def nowhere : World where
  read path := .error (FileError.missing.toMissing path)
  fetch _ := .error (.failed "no network")
  directory := .ok .root
  suspends := false

/-- Gets what a machine needs: a world for its next step, and a session with its next input. -/
def provide (machine : Machine) : IO (World × Machine) := do
  match machine.need? nowhere .async with
  | some (.file path) =>
    let text ← readText path
    let world := { nowhere with read := fun path => text.mapError (FileError.toMissing path) }
    return (world, machine)
  | some .input =>
    let provider := Command.lineProvider [← readLine]
    let session := { machine.session with provider := some provider }
    return (nowhere, { machine with session })
  | _ => return (nowhere, machine)

/-- Writes a value that a step has printed to the standard output. One that cannot be shown ends the
machine. -/
def showPrinted (before after : Machine) : IO Machine := do
  match before.printing? with
  | some value =>
    let (record, fault) := Record.print Command.writer ⟨[], []⟩ value
    for line in record.host do
      IO.println line
      (← IO.getStdout).flush
    return match fault with
      | none => after
      | some fault => after.fail (.fault fault)
  | none => return after

/-- Runs a machine to its end. -/
partial def drive (machine : Machine) : IO Machine := do
  if machine.isRunning then
    let (world, machine) ← provide machine
    drive (← showPrinted machine (machine.step world .async))
  else return machine

def runScript (command : Command) (text directory : String) : IO UInt32 := do
  let submission := command.submission text ""
  let runner : Runner := ⟨some directory, none⟩
  let machine ← drive (runner.started .never nowhere .empty submission)
  let runner := { runner with session := some machine.session }
  let exit := ((runner.outcome? text machine.status []).map (Command.exitOf [])).getD .unfinished
  IO.eprint exit.stderr
  match exit.status with
  | .ok status => return status
  | .error _ => return Command.failureStatus

/-- The absolute path of the directory that a file is in. -/
def directoryOf (path : String) : IO String := do
  let parent := String.ofList (Path.parent path.toList)
  return (← IO.FS.realPath (if parent = "" then "." else parent)).toString

def run (command : Command) : IO UInt32 := do
  match ← readText command.documentPath with
  | .error .missing =>
    IO.eprintln (Command.notFound command.path)
    return Command.failureStatus
  | .error error =>
    IO.eprintln (error.reason command.documentPath)
    return Command.failureStatus
  | .ok text => runScript command text (← directoryOf command.documentPath)

end DocScript.Main

def main (arguments : List String) : IO UInt32 := do
  match DocScript.Command.ofArguments? arguments with
  | some command => DocScript.Main.run command
  | none =>
    IO.eprintln DocScript.Command.usage
    return DocScript.Command.usageStatus
