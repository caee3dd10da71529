import DocScript.Number.Basic
import DocScript.Text.Points

/-! # Values

What variables hold and what is printed. Lists and records come from outside and are told apart
by identity, and everything else by what it is.
-/

namespace DocScript

/-- What selects a member of a value, and what a record files its fields under. -/
inductive Key where
  | text (text : Points)
  | number (number : Number)
  deriving DecidableEq

mutual

inductive Value where
  | none
  | bool (value : Bool)
  | number (value : Number)
  | string (value : Points)
  | list (identity : Nat) (items : List Value)
  | record (identity : Nat) (fields : List Field)

/-- One entry of a record. -/
inductive Field where
  | mk (key : Key) (value : Value)

end

instance : Inhabited Value := ⟨.none⟩

inductive Kind where
  | undefined
  | boolean
  | number
  | string
  | object
  deriving DecidableEq, Repr

def Kind.name : Kind → String
  | .undefined => "undefined"
  | .boolean => "boolean"
  | .number => "number"
  | .string => "string"
  | .object => "object"

def Number.integers : Number → List Int
  | .int n => [n]
  | .float _ => []

def Key.integers : Key → List Int
  | .text _ => []
  | .number n => n.integers

/-- Keys that are numbers agree when their values do, whether integer or float. -/
def Key.same : Key → Key → Bool
  | .text a, .text b => a = b
  | .number a, .number b => a.same b
  | _, _ => false

namespace Field

def key : Field → Key
  | .mk key _ => key

def value : Field → Value
  | .mk _ value => value

/-- The value filed under a key. -/
def find? (key : Key) : List Field → Option Value
  | [] => none
  | field :: rest => if field.key.same key then some field.value else find? key rest

/-- A new key goes to the end, and an old one keeps its place and its spelling. -/
def insert (key : Key) (value : Value) : List Field → List Field
  | [] => [.mk key value]
  | field :: rest =>
    if field.key.same key then .mk field.key value :: rest
    else field :: insert key value rest

/-- The fields of a record from entries in order, of which the last one for a key counts. -/
def ofEntries (entries : List (Key × Value)) : List Field :=
  entries.foldl (fun fields (key, value) => insert key value fields) []

end Field

namespace Value

def kind : Value → Kind
  | .none => .undefined
  | .bool _ => .boolean
  | .number _ => .number
  | .string _ => .string
  | .list _ _ => .object
  | .record _ _ => .object

def isString : Value → Bool
  | .string _ => true
  | _ => false

/-- Nothing, zero, NaN and the empty text do not hold. -/
def truthy : Value → Bool
  | .none => false
  | .bool b => b
  | .number n => !n.isNaN && !n.isZero
  | .string s => !s.isEmpty
  | .list _ _ => true
  | .record _ _ => true

def identity? : Value → Option Nat
  | .list identity _ => some identity
  | .record identity _ => some identity
  | _ => Option.none

/-- Whether two values are the same list or the same record. -/
def isSameObject (a b : Value) : Bool :=
  match a.identity?, b.identity? with
  | some i, some j => i = j
  | _, _ => false

mutual

/-- The integers in a value at any depth. -/
def integers : Value → List Int
  | .none => []
  | .bool _ => []
  | .number n => n.integers
  | .string _ => []
  | .list _ items => itemIntegers items
  | .record _ fields => fieldIntegers fields

def itemIntegers : List Value → List Int
  | [] => []
  | item :: rest => item.integers ++ itemIntegers rest

def fieldIntegers : List Field → List Int
  | [] => []
  | .mk key value :: rest => key.integers ++ value.integers ++ fieldIntegers rest

end

/-- Brings a number into its one form. -/
def clamp : Value → Value
  | .number n => .number n.clamp
  | value => value

end Value

end DocScript
