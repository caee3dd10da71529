import DocScript.Program.Compile

/-! # Traces

What a run does that can be seen from outside: invocations, and documents that it asks for. Most
events are reported, one line an event.
-/

namespace DocScript

inductive Event where
  | enter (function : String) (args : List Value)
  | tailCall (caller callee : String)
  /-- A file is asked for. This is not reported, but its loading is. -/
  | read (path : String)
  | load (path : String)
  | fetch (url : String)
  | dropped (heading : DroppedHeading)

def tracePrefix : String := "[DBG] "

def lineText : Line → String
  | some n => toString n
  | none => "None"

namespace Event

def text? : Event → Option String
  | .enter function args =>
    some ("enter " ++ function ++ " " ++ String.ofList (Value.list 0 args).traceChars)
  | .tailCall caller callee => some ("tail call " ++ caller ++ " -> " ++ callee)
  | .read _ => none
  | .load path => some ("load " ++ path)
  | .fetch url => some ("fetch " ++ url)
  | .dropped heading =>
    some ("dropped heading h" ++ toString heading.depth ++ " " ++ Text.quoted heading.text ++
      " at line " ++ lineText heading.line)

def line? (event : Event) : Option String := event.text?.map (tracePrefix ++ ·)

def read? : Event → Option String
  | .read path => some path
  | _ => none

def fetched? : Event → Option String
  | .fetch url => some url
  | _ => none

end Event

end DocScript
