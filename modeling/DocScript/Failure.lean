import DocScript.Number.Numeral
import DocScript.Value.Text

/-! # Failures

An error is something a document did wrong: it has a cause, and the line of the heading, paragraph
or item where it arose. A fault comes from a limit or from the outside.
-/

namespace DocScript

inductive ErrorKind where
  | general
  | typeMismatch
  | undeclared
  | resolution
  | malformed
  | unsupported
  deriving DecidableEq, Repr

/-- What a document did wrong. -/
inductive Cause where
  | notNumber (context : String) (got : Value)
  | notIndex (context : String) (got : Value)
  | undeclared (variableName : String)
  | noEntry (name : String)
  | noFunction (name : String)
  | noFunctionIn (name reference : String)
  | unreadable (reference path reason : String)
  | remoteNeedsSuspension (url : String)
  | notDocument (url : String)
  | unreachable (url reason : String)
  | badStatus (url : String) (status : Int)
  | suspended
  | emptyExpression
  | unexpectedEnd (text : String)
  | unexpectedChar (found : Char) (index : Nat) (text : String)
  | unexpectedToken (found : String) (index : Nat) (text : String)
  | callExpression (callee : String)
  | unknownOperator (operator : String)
  | unknownUnary (operator : String)
  /-- An error that a host states in its own words. -/
  | stated (kind : ErrorKind) (text : String)

namespace Cause

def kind : Cause → ErrorKind
  | .notNumber _ _ => .typeMismatch
  | .notIndex _ _ => .typeMismatch
  | .undeclared _ => .undeclared
  | .noEntry _ => .resolution
  | .noFunction _ => .resolution
  | .noFunctionIn _ _ => .resolution
  | .unreadable _ _ _ => .resolution
  | .remoteNeedsSuspension _ => .resolution
  | .notDocument _ => .resolution
  | .unreachable _ _ => .resolution
  | .badStatus _ _ => .resolution
  | .suspended => .resolution
  | .emptyExpression => .malformed
  | .unexpectedEnd _ => .malformed
  | .unexpectedChar _ _ _ => .malformed
  | .unexpectedToken _ _ _ => .malformed
  | .callExpression _ => .unsupported
  | .unknownOperator _ => .unsupported
  | .unknownUnary _ => .unsupported
  | .stated kind _ => kind

def between (text : String) : String := "'" ++ text ++ "'"

def expected (what context : String) (got : Value) : Points :=
  Points.ofString
      ("Expected " ++ what ++ " for " ++ context ++ ", got " ++ got.kind.name ++ " (") ++
    got.described ++ Points.ofString ")"

/-- The wording of a cause. -/
def detail : Cause → Points
  | .notNumber context got => expected "number" context got
  | .notIndex context got => expected "string or number" context got
  | .undeclared name =>
    "Variable '" ++ name ++ "' is not declared. Use '- " ++ name ++ " = value' to declare it."
  | .noEntry name => "Entry function " ++ between name ++ " not found"
  | .noFunction name => "Function " ++ between name ++ " not found"
  | .noFunctionIn name reference =>
    "Function " ++ between name ++ " not found in " ++ between reference
  | .unreadable reference path reason =>
    "Cannot read document " ++ between reference ++ " (resolved to " ++ between path ++ "): " ++
      reason
  | .remoteNeedsSuspension url =>
    "Cannot resolve " ++ between url ++ " synchronously; URL imports require interpret_async"
  | .notDocument url => between url ++ " does not reference a markdown document"
  | .unreachable url reason => "Failed to fetch " ++ between url ++ ": " ++ reason
  | .badStatus url status => "Failed to fetch " ++ between url ++ ": HTTP " ++ toString status
  | .suspended => "Synchronous interpretation attempted to suspend; use interpret_async"
  | .emptyExpression => "Empty expression"
  | .unexpectedEnd text => "Unexpected end of expression in " ++ between text
  | .unexpectedChar found index text =>
    "Unexpected character " ++ Text.quoted (String.ofList [found]) ++ " at index " ++
      toString index ++ " in " ++ between text
  | .unexpectedToken found index text =>
    "Unexpected " ++ Text.quoted found ++ " at index " ++ toString index ++ " in " ++ between text
  | .callExpression callee => "Call expressions not supported: " ++ callee
  | .unknownOperator operator => "Unknown operator: " ++ operator
  | .unknownUnary operator => "Unknown unary operator: " ++ operator
  | .stated _ text => text

end Cause

/-- A line number. Line 0 counts as none. -/
abbrev Line := Option Int

def Line.isSet (line : Line) : Bool :=
  match line with
  | some n => n ≠ 0
  | none => false

structure ScriptError where
  cause : Cause
  line : Line

namespace ScriptError

def kind (e : ScriptError) : ErrorKind := e.cause.kind

def detail (e : ScriptError) : Points := e.cause.detail

/-- The wording with the line in front, if there is one. -/
def message (e : ScriptError) : Points :=
  match e.line with
  | some n =>
    if n ≠ 0 then Points.ofString ("Line " ++ toString n ++ ": ") ++ e.detail else e.detail
  | none => e.detail

/-- Whether tagging with a line leaves an error alone: it has a line, or the tag is none. -/
def keepsLine (e : ScriptError) (line : Line) : Bool := e.line.isSet || !line.isSet

/-- The error with a line, unless it has one. -/
def withLine (e : ScriptError) (line : Line) : ScriptError :=
  if e.keepsLine line then e else { e with line := line }

end ScriptError

/-- What a limit or the outside does to a run. -/
inductive Fault where
  | tooManyDigits (digits : Nat)
  /-- A value is to be written that has an integer over the limit on conversions. -/
  | unwritable
  | outOfRange
  /-- A reference that cannot be split into the parts of a URL. -/
  | badReference (reason : String)
  /-- A heading in a tree has no depth, or none that headings have. -/
  | badDepth (depth : Option Int)
  | noInvocation
  | noFrame
  | invalidUrl (reason : String)
  /-- The system that a program runs on reports a failure. -/
  | system (reason : String)
  /-- A value that a reader, a client, a setting or an encoding refuses. -/
  | refused (reason : String)
  /-- A setting is neither a number nor text. -/
  | unfitSetting
  /-- The stack of the system has no room left. -/
  | overflow (reason : String)
  /-- The host raises what looks like an error of a document. -/
  | raised (error : ScriptError)

namespace Fault

/-- What there is to say of an integer over the limit on conversions. -/
def overLimit (found : String) : String :=
  "Exceeds the limit (4300 digits) for integer string conversion" ++ found ++
    "; use sys.set_int_max_str_digits() to increase the limit"

def reason : Fault → Points
  | .tooManyDigits digits => overLimit (": value has " ++ toString digits ++ " digits")
  | .unwritable => overLimit ""
  | .outOfRange => "int too large to convert to float"
  | .badReference reason => reason
  | .badDepth (some _) => "pop from empty list"
  | .badDepth none => "'>=' not supported between instances of 'int' and 'NoneType'"
  | .noInvocation => "pop from empty list"
  | .noFrame => "'NoneType' object has no attribute 'declared'"
  | .invalidUrl reason => reason
  | .system reason => reason
  | .refused reason => reason
  | .unfitSetting => "a setting must be a number or a text"
  | .overflow reason => reason
  | .raised error => error.detail

/-- Only what looks like an error of a document can have a line. -/
def line : Fault → Line
  | .raised error => error.line
  | _ => none

end Fault

/-- Why a computation ended early. -/
inductive Failure where
  | error (error : ScriptError)
  | fault (fault : Fault)

abbrev Result := Except Failure

theorem Result.bind_eq_ok {ε α β : Type} {result : Except ε α} {f : α → Except ε β} {b : β} :
    result >>= f = .ok b ↔ ∃ a, result = .ok a ∧ f a = .ok b := by
  cases result with
  | error failure => simp [bind, Except.bind]
  | ok a => simp [bind, Except.bind]

theorem Result.map_eq_ok {ε α β : Type} {result : Except ε α} {f : α → β} {b : β} :
    result.map f = .ok b ↔ ∃ a, result = .ok a ∧ f a = b := by
  cases result with
  | error failure => simp [Except.map]
  | ok a => simp [Except.map]

def Result.ofFault {α : Type} : Except Fault α → Result α
  | .ok a => .ok a
  | .error fault => .error (.fault fault)

theorem Result.ofFault_eq_ok {α : Type} {result : Except Fault α} {a : α} :
    Result.ofFault result = .ok a ↔ result = .ok a := by
  cases result <;> simp [Result.ofFault]

/-- A failure of a document at a line. -/
def Cause.failure (cause : Cause) (line : Line) : Failure := .error ⟨cause, line⟩

namespace Failure

/-- An error gets a line unless it has one, and a fault stays as it is. -/
def withLine (line : Line) : Failure → Failure
  | .error e => .error (e.withLine line)
  | .fault f => .fault f

end Failure

/-- What a text denotes as a number, within the limit on integer numerals. -/
def Result.numberOfText? (text : Points) : Result (Option Number) :=
  match text.string? with
  | some s =>
    match DocScript.numberOfText? s with
    | .ok n => .ok n
    | .error e => .error (.fault (.tooManyDigits e.digits))
  | none => .ok none

/-- The failure by a cause whose wording has a value in it, unless this cannot be written. -/
def Value.refused (value : Value) (cause : Cause) (line : Line) : Failure :=
  if value.isWritable then cause.failure line else .fault .unwritable

/-- The text of a value as part of another text. -/
def Value.written (value : Value) : Result Points :=
  if value.isWritable then .ok value.text else .error (.fault .unwritable)

end DocScript
