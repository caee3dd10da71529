import DocScript.Proofs.Command.Output

/-! # How commands end

A command ends if its script does: with the status 0 if nothing has ended the script before its end,
and otherwise with the status 1 and a message. Without a script to run it ends at once, with a
status and a message too, unless its document is there and cannot be read.
-/

namespace DocScript

/-! ## Reports -/

namespace Report

variable {script : String} {session : Session} {failure : Failure} {report : Report}

/-- What the text of a report begins with. -/
def located (failure : Failure) : Points :=
  match lineOf failure with
  | some n => Points.ofString ("Error on line " ++ toString n ++ ": ") ++ messageOf failure
  | none => messageOf failure

end Report

/-! ## Documents -/

/-- The errors of reading a document at a path, other than that there is none: it is a directory,
the path goes through a file or is too long, or the bytes are not UTF-8. -/
inductive FileError.Escapes (path : String) : FileError → Prop
  | isDirectory : Escapes path .isDirectory
  | notDirectory : Escapes path .notDirectory
  | nameTooLong : Escapes path .nameTooLong
  | malformed (fault : Text.Utf8.Fault) : Escapes path (.malformed fault)
  | nullByte (h : '\x00' ∈ path.toList) : Escapes path .nullByte

namespace Disk

variable {disk : Disk} {path : String} {error : FileError}

end Disk

/-! ## Commands -/

namespace Command

/-- Whether there are no arguments, or the first one begins with a dash. -/
def NamesNoDocument (arguments : List String) : Prop :=
  ∀ first rest, arguments = first :: rest → ['-'] <+: first.toList

/-- A machine about to run the script of a command, once the text of its document has been read. -/
def ready (command : Command) (host : Host) (disk : Disk) (text stdin : String) : Machine :=
  (command.submission text stdin).ready host.overflow .empty
    (.ok (disk.directoryOf command.documentPath))

/-- How the script of a command ends, for which its document must be read: what has ended the script
before its end, if anything has, and the lines that have been shown. -/
def EndsIn (command : Command) (host : Host) (disk : Disk) (stdin : String)
    (outcome : Option Failure) (lines : List String) : Prop :=
  ∃ text, disk.readText command.documentPath = .ok text ∧
    (command.ready host disk text stdin).EndsOn host.overflow (disk.world host.fetch) outcome lines

/-- Whether the script of a command measures a text or a list that no memory holds. -/
def Exceeds (command : Command) (host : Host) (disk : Disk) (stdin : String) : Prop :=
  ∃ text n, disk.readText command.documentPath = .ok text ∧
    ¬(Machine.run (disk.world host.fetch) .async n (command.ready host disk text stdin)).Fits

/-- The ways in which the command that arguments make ends on a host and a disk. -/
inductive Ends (arguments : List String) (host : Host) (disk : Disk) (stdin : String) : Exit → Prop
  | succeeded {command : Command} {lines : List String} (hc : ofArguments? arguments = some command)
    (hs : command.EndsIn host disk stdin none lines) :
    Ends arguments host disk stdin ⟨.ok 0, Exit.textOf lines, ""⟩
  | failed {command : Command} {failure : Failure} {lines : List String} (context : Points)
    (hc : ofArguments? arguments = some command)
    (hs : command.EndsIn host disk stdin (some failure) lines) :
    Ends arguments host disk stdin
      ⟨.ok 1, Exit.textOf lines, Exit.textOf [(Report.located failure ++ context).escaped]⟩
  | missing {command : Command} (hc : ofArguments? arguments = some command)
    (hd : disk.readText command.documentPath = .error .missing) :
    Ends arguments host disk stdin ⟨.ok 1, "", Exit.textOf [notFound command.path]⟩
  | misused (hn : NamesNoDocument arguments) :
    Ends arguments host disk stdin ⟨.ok 2, "", Exit.textOf [usage]⟩
  | unreadable {command : Command} {error : FileError}
    (hc : ofArguments? arguments = some command)
    (hd : disk.readText command.documentPath = .error error)
    (he : error.Escapes command.documentPath) :
    Ends arguments host disk stdin ⟨.error (.reading error), "", ""⟩
  | unwritten {command : Command} {failure : Failure} {lines : List String} (fault : Fault)
    (hc : ofArguments? arguments = some command)
    (hs : command.EndsIn host disk stdin (some failure) lines)
    (hx : command.Exceeds host disk stdin) :
    Ends arguments host disk stdin ⟨.error (.reporting fault), Exit.textOf lines, ""⟩

section Exits

variable {command : Command} {arguments : List String} {host : Host} {disk : Disk}
  {stdin text : String} {exit : Exit} {fuel : Nat} {error : FileError}

/-- The runner of a command, before its script. -/
def runner (command : Command) (disk : Disk) : Runner :=
  ⟨some (disk.directoryOf command.documentPath), none⟩

/-- The machine that runs the script of a command, which notes what is left out of the script. -/
def started (command : Command) (host : Host) (disk : Disk) (text stdin : String) : Machine :=
  (command.runner disk).started host.overflow (disk.world host.fetch) .empty
    (command.submission text stdin)

end Exits

end Command

end DocScript
