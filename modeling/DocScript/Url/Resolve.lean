import DocScript.Url.Parts

/-! # Relative references

A reference in a document names another document from where the first one is. Parts that the
reference lacks come from the URL of the document, and its path is taken from the directory there.
-/

namespace DocScript.Url

def stay : List Char := ['.']

def back : List Char := ['.', '.']

/-- Empty steps are dropped, but the first and the last one are not. -/
def withoutInnerEmpty (steps : List (List Char)) : List (List Char) :=
  match steps with
  | [] => []
  | [step] => [step]
  | first :: rest =>
    first :: (rest.dropLast.filter fun step => !step.isEmpty) ++ rest.getLast?.toList

/-- The steps from the root to what a path names from a directory. -/
def stepsFrom (directory path : List Char) : List (List Char) :=
  if path.head? = some '/' then path.splitOn '/'
  else
    let base := directory.splitOn '/'
    let base := if base.getLast? = some [] then base else base.dropLast
    withoutInnerEmpty (base ++ path.splitOn '/')

/-- Takes one step from a place, whose own steps have the last one first. A step back undoes a
step if there is one. -/
def walk (place : List (List Char)) (step : List Char) : List (List Char) :=
  if step = back then place.drop 1
  else if step = stay then place
  else step :: place

/-- The path that steps lead to. Steps that end in a directory lead to its slash. -/
def followed (steps : List (List Char)) : List Char :=
  let place := (steps.foldl walk []).reverse
  let atDirectory := steps.getLast? = some stay ∨ steps.getLast? = some back
  match ['/'].intercalate (if atDirectory then place ++ [[]] else place) with
  | [] => ['/']
  | path => path

/-- The parts of a reference of the same scheme, completed from those of the base. -/
def Parts.complete (base reference : Parts) : Parts :=
  if hasAuthority reference.scheme && !reference.authority.isEmpty then reference
  else
    let authority :=
      if hasAuthority reference.scheme then base.authority else reference.authority
    if reference.path.isEmpty && reference.parameters.isEmpty then
      { reference with
        authority
        path := base.path
        parameters := base.parameters
        query := if reference.query.isEmpty then base.query else reference.query }
    else
      { reference with authority, path := followed (stepsFrom base.path reference.path) }

/-- What a reference names from a base. A reference of another scheme names the same from
anywhere. -/
def join (base reference : List Char) : Except Malformed (List Char) := do
  if base.isEmpty then return reference
  if reference.isEmpty then return base
  let whole ← Parts.ofText [] base
  let parts ← Parts.ofText whole.scheme reference
  if parts.scheme ≠ whole.scheme || !isRelative parts.scheme then return reference
  return (whole.complete parts).toText

/-- A URL without its fragment. Only a URL with a fragment is divided and written anew. -/
def withoutFragment (url : List Char) : Except Malformed (List Char) := do
  if url.contains '#' then
    let parts ← Parts.ofText [] url
    return { parts with fragment := [] : Parts }.toText
  else return url

/-- The path of a URL. -/
def path (url : List Char) : Except Malformed (List Char) :=
  (Parts.ofText [] url).map Parts.path

/-- References to remote documents begin in one of these ways. -/
def isRemote (reference : String) : Bool :=
  reference.startsWith "http://" || reference.startsWith "https://"

end DocScript.Url
