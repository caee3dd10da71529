import DocScript.Machine.Library
import DocScript.Text.Utf8

/-! # Disks

Files and directories as a program sees them from a working directory. A path is followed step by
step, and every step but the last one must lead to a directory.
-/

namespace DocScript

/-- Where each file is, as the steps from the root, with its bytes, and the working directory. -/
structure Disk where
  files : List (List String × List UInt8)
  workingDirectory : List String

/-- Why a file cannot be read. -/
inductive FileError where
  | missing
  | isDirectory
  | notDirectory
  | nameTooLong
  | denied
  | nullByte
  | malformed (fault : Text.Utf8.Fault)
  | other (reason : String)
  deriving DecidableEq, Repr

namespace FileError

/-- What the system says about an error at a path. -/
def reason (path : String) : FileError → String
  | .missing => "[Errno 2] No such file or directory: " ++ Text.quoted path
  | .isDirectory => "[Errno 21] Is a directory: " ++ Text.quoted path
  | .notDirectory => "[Errno 20] Not a directory: " ++ Text.quoted path
  | .nameTooLong => "[Errno 36] File name too long: " ++ Text.quoted path
  | .denied => "[Errno 13] Permission denied: " ++ Text.quoted path
  | .nullByte => "embedded null byte"
  | .malformed fault => fault.message
  | .other reason => reason

/-- A path with a null byte is no path, and asking for it is a fault. -/
def toMissing (path : String) (error : FileError) : Missing :=
  match error with
  | .nullByte => .fault (.refused (error.reason path))
  | error => .failed (error.reason path)

end FileError

/-- A text as it is read from a file, with its line ends unified. -/
def textOfBytes (bytes : List UInt8) : Except FileError String :=
  match Text.Utf8.decode bytes with
  | .ok chars => .ok (String.ofList (Text.unifyBreaks chars))
  | .error fault => .error (.malformed fault)

namespace Disk

def isFile (disk : Disk) (place : List String) : Bool := (disk.files.lookup place).isSome

/-- The root, the working directory and those above it, and directories with files below them. -/
def isDirectory (disk : Disk) (place : List String) : Bool :=
  place.isPrefixOf disk.workingDirectory ||
    disk.files.any fun file => place.isPrefixOf file.1 && place ≠ file.1

/-- A name has at most this many bytes. -/
def maxName : Nat := 255

/-- A path has at most this many bytes. -/
def maxPath : Nat := 4095

/-- Takes one step from a directory. -/
def walk (disk : Disk) (place : List String) (step : String) : Except FileError (List String) :=
  if disk.isFile place then .error .notDirectory
  else if !disk.isDirectory place then .error .missing
  else if step = "" || step = "." then .ok place
  else if step = ".." then .ok place.dropLast
  else if maxName < step.utf8ByteSize then .error .nameTooLong
  else .ok (place ++ [step])

/-- Where a path leads from the working directory. -/
def follow (disk : Disk) (path : String) : Except FileError (List String) :=
  let steps := (path.toList.splitOn Path.separator).map String.ofList
  let start := if Path.isAbsolute path.toList then [] else disk.workingDirectory
  steps.foldlM disk.walk start

/-- The bytes of the file at a place. -/
def bytesAt (disk : Disk) (place : List String) : Except FileError (List UInt8) :=
  match disk.files.lookup place with
  | some bytes => .ok bytes
  | none => .error (if disk.isDirectory place then .isDirectory else .missing)

/-- The bytes of a file. -/
def readBytes (disk : Disk) (path : String) : Except FileError (List UInt8) :=
  if path.toList.contains '\x00' then .error .nullByte
  else if maxPath < path.utf8ByteSize then .error .nameTooLong
  else disk.follow path >>= disk.bytesAt

def readText (disk : Disk) (path : String) : Except FileError String := do
  textOfBytes (← disk.readBytes path)

def pathOf (place : List String) : String := "/" ++ String.intercalate "/" place

theorem isAbsolute_pathOf (place : List String) : Path.isAbsolute (pathOf place).toList = true := by
  rw [pathOf, String.toList_append]
  rfl

/-- The absolute path of the directory that a file is in. -/
def directoryOf (disk : Disk) (path : String) : String :=
  match disk.follow path with
  | .ok place => pathOf place.dropLast
  | .error _ => pathOf []

/-- The files of a disk, and what servers answer. -/
def world (disk : Disk) (fetch : String → Except Missing Response) : World where
  read path := (disk.readText path).mapError (FileError.toMissing path)
  fetch := fetch
  directory := .ok ⟨pathOf disk.workingDirectory, isAbsolute_pathOf _⟩
  suspends := false

end Disk

end DocScript
