import DocScript.Failure
import DocScript.Number.Setting

/-! # Settings of a download

How long a client waits for an answer, how often it tries again, and how long it pauses before. A
setting is taken from the configuration, else from the environment, else it has a default. A
configuration must be right, and an environment that is not right is passed over.
-/

namespace DocScript.Download

/-- Values that a program sets, by name. -/
structure Config where
  timeout : Option Value
  retries : Option Value
  backoff : Option Value
  headers : List (String × String)

/-- The texts of the environment, by name. -/
abbrev Environment := List (String × String)

structure Settings where
  timeout : Binary64
  retries : Int
  backoff : Binary64
  headers : List (String × String)

def refusedNumber (text : Points) : Fault :=
  .refused ("could not convert string to float: " ++ Text.quoted text)

def refusedInteger (text : Points) : Fault :=
  .refused ("invalid literal for int() with base 10: " ++ Text.quoted text)

/-- The float that a value is taken for. -/
def toFloat : Value → Except Fault Binary64
  | .bool b => .ok (.ofInt (if b then 1 else 0))
  | .number n =>
    match n.toBinary64? with
    | .ok x => .ok x
    | .error _ => .error .outOfRange
  | .string s =>
    match s.string?.bind floatOfSetting? with
    | some x => .ok x
    | none => .error (refusedNumber s)
  | _ => .error .unfitSetting

/-- The integer that a value is taken for, of which a fraction is dropped. -/
def toInteger : Value → Except Fault Int
  | .bool b => .ok (if b then 1 else 0)
  | .number (.int n) => .ok n
  | .number (.float x) =>
    if x.isNaN then .error (.refused "cannot convert float NaN to integer")
    else if x.isInfinite then .error .outOfRange
    else .ok (Binary64.truncate x.toRat)
  | .string s =>
    match (s.string?.map intOfSetting?).getD (.ok none) with
    | .ok (some n) => .ok n
    | .ok none => .error (refusedInteger s)
    | .error e => .error (.tooManyDigits e.digits)
  | _ => .error .unfitSetting

/-- What the environment sets, as far as it is a number. -/
def fromEnvironment (environment : Environment) (name : String) (default : Number) : Value :=
  match environment.lookup name with
  | some text =>
    if text = "" then .number default
    else
      match floatOfSetting? text with
      | some x => .number (.float x)
      | none => .number default
  | none => .number default

def defaultTimeout : Number := .int 5

def defaultRetries : Number := .int 2

/-- A fifth of a second. -/
def defaultBackoff : Number := .float (.round (1 / 5))

def acceptName : String := "Accept"

def acceptValue : String := "text/markdown, text/plain;q=0.9, */*;q=0.1"

/-- Headers say what is accepted, and what they say already under this very name stands. -/
def withAccept (headers : List (String × String)) : List (String × String) :=
  if (headers.lookup acceptName).isSome then headers else headers ++ [(acceptName, acceptValue)]

/-- The settings, or the first failure to read one. -/
def Settings.of (config : Config) (environment : Environment) : Except Fault Settings := do
  let setting (value : Option Value) (name : String) (default : Number) : Value :=
    value.getD (fromEnvironment environment name default)
  let timeout ← toFloat (setting config.timeout "MDLANG_HTTP_TIMEOUT" defaultTimeout)
  let retries ← toInteger (setting config.retries "MDLANG_HTTP_RETRIES" defaultRetries)
  let backoff ← toFloat (setting config.backoff "MDLANG_HTTP_BACKOFF" defaultBackoff)
  return { timeout, retries, backoff, headers := withAccept config.headers }

end DocScript.Download
