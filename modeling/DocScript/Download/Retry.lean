import DocScript.Download.Settings
import DocScript.Machine.Library

/-! # Retrying

A client asks for a document, and asks again when the transport fails. It pauses before, each time
twice as long as the time before. Any answer ends the download, whatever its status. All errors of
the transport count alike, and which there are is up to the client.
-/

namespace DocScript.Download

variable {ε : Type}

/-- What comes back for one request. -/
inductive Answer (ε : Type) where
  | response (response : Response)
  | transport (error : ε)
  | other (fault : Fault)

/-- What a client does. -/
inductive Action where
  | opened (timeout : Binary64)
  /-- A document is asked for by GET, with some headers. -/
  | requested (url : String) (headers : List (String × String))
  | slept (seconds : Binary64)
  | closed

/-- How a download ends. Without any attempt there is nothing. -/
inductive Outcome (ε : Type) where
  | nothing
  | response (response : Response)
  | transport (error : ε)
  | fault (fault : Fault)

/-- The pause before a retry. It doubles with each attempt. -/
def pause (settings : Settings) (attempt : Nat) : Except OutOfRange Binary64 := do
  return settings.backoff.mul (← (Number.int (1 <<< attempt : Nat)).toBinary64?)

/-- The attempts from some attempt on, of which `left` are left. The client answers the first
attempt, the second, and so on. -/
def attempts (settings : Settings) (url : String) (client : Nat → Answer ε) (attempt : Nat) :
    Nat → List Action × Outcome ε
  | 0 => ([], .nothing)
  | left + 1 =>
    let request := Action.requested url settings.headers
    match client attempt with
    | .response response => ([request], .response response)
    | .other fault => ([request], .fault fault)
    | .transport error =>
      if left = 0 then ([request], .transport error)
      else
        match pause settings attempt with
        | .error _ => ([request], .fault .outOfRange)
        | .ok seconds =>
          let (actions, outcome) := attempts settings url client (attempt + 1) left
          (request :: .slept seconds :: actions, outcome)

/-- Asks for a document with some settings. -/
def perform (settings : Settings) (url : String) (client : Nat → Answer ε) :
    List Action × Outcome ε :=
  let (actions, outcome) := attempts settings url client 0 (settings.retries + 1).toNat
  (.opened settings.timeout :: actions ++ [.closed], outcome)

/-- Downloads a document. Nothing is done if a setting cannot be read. -/
def run (config : Config) (environment : Environment) (url : String) (client : Nat → Answer ε) :
    List Action × Outcome ε :=
  match Settings.of config environment with
  | .ok settings => perform settings url client
  | .error fault => ([], .fault fault)

end DocScript.Download
