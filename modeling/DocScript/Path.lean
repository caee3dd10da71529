/-! # Paths

A path names a file by the directories on the way to it, divided by slashes. It is absolute if it
begins with a slash. Its normal form has no empty step, no step that stays, and no step that goes
back on one before it.
-/

namespace DocScript.Path

def separator : Char := '/'

def stay : List Char := ['.']

def back : List Char := ['.', '.']

def isAbsolute (path : List Char) : Bool := path.head? = some separator

/-- The slashes that a normal form begins with. Exactly two are kept, and more count as one. -/
def root : List Char → List Char
  | '/' :: '/' :: '/' :: _ => [separator]
  | '/' :: '/' :: _ => [separator, separator]
  | '/' :: _ => [separator]
  | _ => []

/-- Takes one step from a place, whose own steps have the last one first. A step back undoes a
step, is kept where there is none to undo, and goes nowhere from a root. -/
def walk (rooted : Bool) (place : List (List Char)) (step : List Char) : List (List Char) :=
  if step = [] ∨ step = stay then place
  else if step = back then
    match place with
    | [] => if rooted then [] else [back]
    | last :: before => if last = back then back :: place else before
  else step :: place

/-- The steps of a path with nothing in them that leads nowhere. -/
def steps (path : List Char) : List (List Char) :=
  ((path.splitOn separator).foldl (walk (isAbsolute path)) []).reverse

/-- The normal form of a path. What leads nowhere is a single step that stays. -/
def normalize (path : List Char) : List Char :=
  match root path ++ [separator].intercalate (steps path) with
  | [] => stay
  | normal => normal

/-- A path without its empty steps and those that stay. Steps back are left in it. -/
def tidy (path : List Char) : List Char :=
  let kept := (path.splitOn separator).filter fun step => step ≠ [] ∧ step ≠ stay
  match root path ++ [separator].intercalate kept with
  | [] => stay
  | tidied => tidied

/-- What a reference names from a directory. An absolute reference names the same from anywhere. -/
def join (directory reference : List Char) : List Char :=
  if isAbsolute reference then reference
  else if directory = [] ∨ directory.getLast? = some separator then directory ++ reference
  else directory ++ separator :: reference

/-- The directory that a path names something in: what is before the last slash, or the slashes
there if there is nothing else. -/
def parent (path : List Char) : List Char :=
  let before := (path.reverse.dropWhile (· ≠ separator)).reverse
  let trimmed := (before.reverse.dropWhile (· = separator)).reverse
  if trimmed = [] then before else trimmed

end DocScript.Path
