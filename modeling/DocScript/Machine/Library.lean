import DocScript.Machine.Trace
import DocScript.Path
import DocScript.Url.Resolve

/-! # Libraries

Documents that have been loaded, each under the absolute path or URL that names it, in the order in
which they came. A reference is located from the document that it stands in, looked up, and read
from outside only if it is not there yet.
-/

namespace DocScript

structure Library where
  entries : List (String × Program)

namespace Library

def empty : Library := ⟨[]⟩

def find? (library : Library) (key : String) : Option Program := library.entries.lookup key

/-- A key that is taken gets the new program and keeps its place. -/
def insert (library : Library) (key : String) (program : Program) : Library :=
  ⟨put library.entries⟩
where
  put : List (String × Program) → List (String × Program)
    | [] => [(key, program)]
    | entry :: rest => if entry.1 = key then (key, program) :: rest else entry :: put rest

def keys (library : Library) : List String := library.entries.map Prod.fst

def size (library : Library) : Nat := library.entries.length

end Library

/-- A document as a server answers with it. -/
structure Response where
  status : Int
  text : String

/-- Whether a server found what it was asked for. -/
def Response.isGood (response : Response) : Bool := 200 ≤ response.status && response.status < 300

/-- Why no document came from outside. A failure is reported by the call that needs the document,
and a fault is not. -/
inductive Missing where
  | failed (reason : String)
  | fault (fault : Fault)

/-- A directory by its absolute path. -/
structure Directory where
  path : String
  isAbsolute : Path.isAbsolute path.toList = true

def Directory.root : Directory := ⟨"/", rfl⟩

/-- The documents outside, and the directory that a program runs in, which may be gone. A world
suspends if looking something up there takes time. -/
structure World where
  read : String → Except Missing String
  fetch : String → Except Missing Response
  directory : Except Fault Directory
  suspends : Bool

/-- Whether a run may wait for something. One that may not cannot reach remote documents. -/
inductive Mode where
  | sync
  | async
  deriving DecidableEq, Repr

/-- Where a document is. -/
inductive Location where
  | file (path : String)
  | remote (url : String)
  deriving DecidableEq, Repr

namespace Location

def key : Location → String
  | .file path => path
  | .remote url => url

/-- What references in a document at a location resolve against. -/
def origin : Location → String
  | .file path => String.ofList (Path.parent path.toList)
  | .remote url => url

/-- What references resolve against that stand at an origin. Those from nowhere are resolved against
the directory that the program runs in. An empty origin is none. -/
def base (world : World) (origin : Option String) : Except Fault String :=
  match origin.filter (· ≠ "") with
  | some origin => .ok origin
  | none => world.directory.map Directory.path

/-- The file that a reference names from a base. -/
def ofFile (base reference : String) : Location :=
  .file (String.ofList (Path.normalize (Path.join base.toList reference.toList)))

def isRemote (origin : Option String) : Bool :=
  match origin with
  | some origin => Url.isRemote origin
  | none => false

/-- What a reference names from a document. Without a remote one it is a URL itself. -/
def completed (origin : Option String) (reference : String) : Except Url.Malformed (List Char) :=
  match origin with
  | some base =>
    if Url.isRemote base then Url.join base.toList reference.toList else .ok reference.toList
  | none => .ok reference.toList

/-- The URL that a reference names from a document, without its fragment. -/
def urlOf (origin : Option String) (reference : String) : Except Url.Malformed (List Char) := do
  Url.withoutFragment (← completed origin reference)

def documentEndings : List String := [".md", ".markdown"]

/-- Whether a path ends as those of documents do, in letters of any case. -/
def namesDocument (path : List Char) : Bool :=
  documentEndings.any fun ending => ending.toList.isSuffixOf (path.map Text.asciiSmall)

def ofMalformed {α : Type} : Except Url.Malformed α → Result α
  | .ok a => .ok a
  | .error e => .error (.fault (.badReference e.message))

/-- The remote document that a reference names. -/
def ofUrl (mode : Mode) (origin : Option String) (reference : String) (line : Line) :
    Result Location := do
  let chars ← ofMalformed (urlOf origin reference)
  let url := String.ofList chars
  if mode = .sync then throw ((Cause.remoteNeedsSuspension url).failure line)
  let path ← ofMalformed (Url.path chars)
  if !namesDocument path then throw ((Cause.notDocument url).failure line)
  return .remote url

/-- The document that a reference names from an origin. All references in remote documents are to
remote documents. -/
def ofReference (world : World) (mode : Mode) (origin : Option String) (reference : String)
    (line : Line) : Result Location :=
  if Url.isRemote reference || isRemote origin then ofUrl mode origin reference line
  else Result.ofFault ((base world origin).map fun base => ofFile base reference)

end Location

/-- A library, and the events since a run began, of which the last one comes first. -/
structure Store where
  library : Library
  events : List Event

namespace Store

/-- The events in order. -/
def log (store : Store) : List Event := store.events.reverse

def note (store : Store) (event : Event) : Store := { store with events := event :: store.events }

def noteAll (store : Store) (events : List Event) : Store := events.foldl note store

/-- The text of a file. It counts as loaded once it has been read. -/
def readFile (world : World) (reference path : String) (line : Line) (store : Store) :
    Result String × Store :=
  let store := store.note (.read path)
  match world.read path with
  | .ok text => (.ok text, store.note (.load path))
  | .error (.failed reason) =>
    (.error ((Cause.unreadable reference path reason).failure line), store)
  | .error (.fault fault) => (.error (.fault fault), store)

/-- The text of a remote document. -/
def fetchUrl (world : World) (url : String) (line : Line) (store : Store) :
    Result String × Store :=
  let store := store.note (.fetch url)
  match world.fetch url with
  | .ok response =>
    if response.isGood then (.ok response.text, store)
    else (.error ((Cause.badStatus url response.status).failure line), store)
  | .error (.failed reason) => (.error ((Cause.unreachable url reason).failure line), store)
  | .error (.fault fault) => (.error (.fault fault), store)

def obtain (world : World) (reference : String) (location : Location) (line : Line)
    (store : Store) : Result String × Store :=
  match location with
  | .file path => store.readFile world reference path line
  | .remote url => store.fetchUrl world url line

/-- Keeps the program of a text that came from a location. -/
def keep (location : Location) (text : String) (store : Store) : Result Program × Store :=
  let compiled := Program.parse text
  let store := store.noteAll (compiled.dropped.map .dropped)
  match compiled.program with
  | .ok program =>
    let program := program.withOrigin (some location.origin)
    (.ok program, { store with library := store.library.insert location.key program })
  | .error failure => (.error failure, store)

/-- The program at a location, which is loaded unless it is there. -/
def load (world : World) (reference : String) (location : Location) (line : Line)
    (store : Store) : Result Program × Store :=
  match store.library.find? location.key with
  | some program => (.ok program, store)
  | none =>
    match store.obtain world reference location line with
    | (.ok text, store) => store.keep location text
    | (.error failure, store) => (.error failure, store)

/-- Finds the function that a call names: in the program that the call stands in, or in the
document that it refers to. An empty reference is none. -/
def resolve (world : World) (mode : Mode) (program : Program) (name : String)
    (reference : Option String) (line : Line) (store : Store) :
    Result (Program × Function) × Store :=
  match reference.filter (· ≠ "") with
  | none =>
    match program.find? name with
    | some function => (.ok (program, function), store)
    | none => (.error ((Cause.noFunction name).failure line), store)
  | some reference =>
    match Location.ofReference world mode program.origin reference line with
    | .error failure => (.error failure, store)
    | .ok location =>
      match store.load world reference location line with
      | (.error failure, store) => (.error failure, store)
      | (.ok target, store) =>
        match target.find? name with
        | some function => (.ok (target, function), store)
        | none => (.error ((Cause.noFunctionIn name reference).failure line), store)

end Store

end DocScript
