import DocScript.Machine.Session

/-! # The innermost frame

A statement sees only the innermost frame. It does the same whatever frames are beneath, and leaves
them as they are.
-/

namespace DocScript

/-- A function with the arguments that it was called with. -/
structure Invocation where
  function : String
  args : List Value

def Frame.invocation (frame : Frame) : Invocation := ⟨frame.function, frame.args⟩

@[simp] theorem Frame.invocation_ofBindings (function : String) (bindings : List (String × Value))
    (args : List Value) :
    (Frame.ofBindings function bindings args).invocation = ⟨function, args⟩ := by
  suffices h : ∀ frame : Frame,
      (bindings.foldl (fun frame binding => frame.declare binding.1 binding.2) frame).invocation =
        frame.invocation from h _
  induction bindings with
  | nil => exact fun _ => rfl
  | cons binding rest ih => exact fun frame => ih _

theorem Frame.function_ofBindings (function : String) (bindings : List (String × Value))
    (args : List Value) : (Frame.ofBindings function bindings args).function = function :=
  congrArg Invocation.function (Frame.invocation_ofBindings function bindings args)

namespace Session

variable {session session' s s' t : Session} {frames : List Frame}

/-- A session with further frames beneath its own. -/
def onto (session : Session) (frames : List Frame) : Session :=
  { session with frames := session.frames ++ frames }

theorem get_onto (h : session.frames ≠ []) : (session.onto frames).get = session.get := by
  obtain ⟨_ | ⟨frame, rest⟩, _, _, _⟩ := session
  · exact absurd rfl h
  · rfl

theorem eval_onto (h : session.frames ≠ []) (e : Expr) (line : Line) :
    (session.onto frames).eval e line = session.eval e line := by
  rw [eval, eval, get_onto h]

theorem evalPrinted_onto (h : session.frames ≠ []) (content : Printed) (line : Line) :
    (session.onto frames).evalPrinted content line = session.evalPrinted content line := by
  cases content with
  | expr e => exact eval_onto h e line
  | template t => rw [evalPrinted, evalPrinted, get_onto h]

theorem evalDeclared_onto (h : session.frames ≠ []) (value : Option Expr) (line : Line) :
    (session.onto frames).evalDeclared value line = session.evalDeclared value line := by
  cases value with
  | none => rfl
  | some e => exact eval_onto h e line

theorem checkDeclared_onto (h : session.frames ≠ []) (name : String) (line : Line) :
    (session.onto frames).checkDeclared name line = session.checkDeclared name line := by
  obtain ⟨_ | ⟨frame, rest⟩, _, _, _⟩ := session
  · exact absurd rfl h
  · rfl

theorem declare_onto (h : session.frames ≠ []) (name : String) (value : Value) :
    (session.onto frames).declare name value =
      (session.declare name value).map (onto · frames) := by
  obtain ⟨_ | ⟨frame, rest⟩, _, _, _⟩ := session
  · exact absurd rfl h
  · rfl

theorem set_onto (h : session.frames ≠ []) (name : String) (value : Value) (line : Line) :
    (session.onto frames).set name value line =
      (session.set name value line).map (onto · frames) := by
  obtain ⟨_ | ⟨frame, rest⟩, _, _, _⟩ := session
  · exact absurd rfl h
  · simp only [set, onto, List.cons_append]
    split <;> rfl

theorem read_onto (session : Session) (frames : List Frame) :
    (session.onto frames).read =
      session.read.map fun (value, rest) => (value, rest.onto frames) := by
  obtain ⟨_, _, inputs, _ | provider⟩ := session
  · cases inputs <;> rfl
  · show (provider.answer provider.taken).map _ = ((provider.answer provider.taken).map _).map _
    cases provider.answer provider.taken <;> rfl

theorem read_frames {value : Value} (h : session.read = .ok (value, session')) :
    session'.frames = session.frames := by
  obtain ⟨_, _, inputs, _ | provider⟩ := session
  · cases inputs <;> cases h <;> rfl
  · obtain ⟨_, -, h⟩ := Result.map_eq_ok.mp h
    cases h
    rfl

theorem assign_onto (h : session.frames ≠ []) (name : String) (op : Option Compound)
    (value : Expr) (line : Line) :
    (session.onto frames).assign name op value line =
      (session.assign name op value line).map (onto · frames) := by
  simp only [assign, eval_onto h, checkDeclared_onto h, set_onto h, get_onto h]
  cases session.eval value line with
  | error failure => rfl
  | ok value =>
    cases session.checkDeclared name line with
    | error failure => rfl
    | ok =>
      cases op with
      | none => rfl
      | some op =>
        cases ha : op.apply name (session.get name) value line <;>
          simp only [bind, Except.bind, ha, Except.map]

theorem ofFault_map {α β : Type} (f : α → β) (result : Except Fault α) :
    Result.ofFault (result.map f) = (Result.ofFault result).map f := by
  cases result <;> rfl

theorem perform_onto (h : session.frames ≠ []) (statement : Statement) :
    (session.onto frames).perform statement = (session.perform statement).map (onto · frames) := by
  cases statement with
  | print content line =>
    simp only [perform, evalPrinted_onto h]
    cases session.evalPrinted content line <;> rfl
  | assign name op value line => exact assign_onto h name op value line
  | declare name value line =>
    simp only [perform, evalDeclared_onto h, declare_onto h, ofFault_map]
    cases session.evalDeclared value line <;> rfl
  | input name line =>
    simp only [perform, read_onto]
    cases hr : session.read with
    | error fault => rfl
    | ok answer =>
      have hf : answer.2.frames ≠ [] := by rwa [read_frames hr]
      exact (congrArg Result.ofFault (declare_onto hf name answer.1)).trans (ofFault_map _ _)
  | stop => rfl
  | cond => rfl
  | call => rfl

/-- Whether two sessions are about the same invocations and agree beneath the innermost one. -/
def SameCalls (session session' : Session) : Prop :=
  session'.frames.map Frame.invocation = session.frames.map Frame.invocation ∧
    session'.frames.tail = session.frames.tail

theorem SameCalls.functions (h : session.SameCalls session') :
    session'.frames.map Frame.function = session.frames.map Frame.function := by
  have hf : Frame.function = Invocation.function ∘ Frame.invocation := rfl
  simp only [hf, ← List.map_map, h.1]

theorem sameCalls_declare {name : String} {value : Value}
    (h : session.declare name value = .ok session') : SameCalls session session' := by
  obtain ⟨_ | ⟨frame, rest⟩, _, _, _⟩ := session
  · cases h
  · cases h
    exact ⟨rfl, rfl⟩

theorem sameCalls_set {name : String} {value : Value} {line : Line}
    (h : session.set name value line = .ok session') : SameCalls session session' := by
  obtain ⟨_ | ⟨frame, rest⟩, _, _, _⟩ := session
  · cases h
  · simp only [set] at h
    split at h <;> cases h
    exact ⟨rfl, rfl⟩

theorem sameCalls_assign {name : String} {op : Option Compound} {value : Expr} {line : Line}
    (h : session.assign name op value line = .ok session') : SameCalls session session' := by
  simp only [assign, Result.bind_eq_ok] at h
  obtain ⟨value, -, -, -, h⟩ := h
  cases op with
  | none => exact sameCalls_set h
  | some op =>
    obtain ⟨result, -, h⟩ := Result.bind_eq_ok.mp h
    exact sameCalls_set h

theorem sameCalls_perform {statement : Statement} (h : session.perform statement = .ok session') :
    SameCalls session session' := by
  cases statement with
  | print content line =>
    obtain ⟨value, -, rfl⟩ := Result.map_eq_ok.mp h
    exact ⟨rfl, rfl⟩
  | assign name op value line => exact sameCalls_assign h
  | declare name value line =>
    obtain ⟨value, -, h⟩ := Result.bind_eq_ok.mp h
    exact sameCalls_declare (Result.ofFault_eq_ok.mp h)
  | input name line =>
    obtain ⟨answer, hr, h⟩ := Result.bind_eq_ok.mp (Result.ofFault_eq_ok.mp h)
    have := sameCalls_declare h
    rwa [SameCalls, read_frames hr] at this
  | stop => cases h; exact ⟨rfl, rfl⟩
  | cond => cases h; exact ⟨rfl, rfl⟩
  | call => cases h; exact ⟨rfl, rfl⟩

/-- A session without its frames. -/
def bare (session : Session) : Session := { session with frames := [] }

/-- Whether two sessions agree, apart from the frames beneath the innermost one. -/
def Alike (s s' : Session) : Prop :=
  (∃ frame rest rest', s.frames = frame :: rest ∧ s'.frames = frame :: rest') ∧ s.bare = s'.bare

theorem Alike.symm (h : Alike s s') : Alike s' s := by
  obtain ⟨⟨frame, rest, rest', hf, hf'⟩, hb⟩ := h
  exact ⟨⟨frame, rest', rest, hf', hf⟩, hb.symm⟩

/-- Alike sessions have a core in common, with one frame. -/
theorem Alike.exists_onto (h : Alike s s') :
    ∃ (core : Session) (rest rest' : List Frame),
      core.frames ≠ [] ∧ s = core.onto rest ∧ s' = core.onto rest' := by
  obtain ⟨⟨frame, rest, rest', hf, hf'⟩, hb⟩ := h
  obtain ⟨_, _, _, _⟩ := s
  obtain ⟨_, _, _, _⟩ := s'
  cases hf
  cases hf'
  cases hb
  exact ⟨⟨[frame], _, _, _⟩, rest, rest', List.cons_ne_nil _ _, rfl, rfl⟩

theorem alike_onto {core : Session} (hn : core.frames ≠ []) (rest rest' : List Frame) :
    Alike (core.onto rest) (core.onto rest') := by
  obtain ⟨_ | ⟨frame, frames⟩, _, _, _⟩ := core
  · exact absurd rfl hn
  · exact ⟨⟨frame, frames ++ rest, frames ++ rest', rfl, rfl⟩, rfl⟩

theorem Alike.eval_eq (h : Alike s s') (e : Expr) (line : Line) :
    s'.eval e line = s.eval e line := by
  obtain ⟨core, rest, rest', hn, rfl, rfl⟩ := h.exists_onto
  rw [eval_onto hn, eval_onto hn]

theorem Alike.perform_error (h : Alike s s') {statement : Statement} {failure : Failure}
    (hp : s.perform statement = .error failure) : s'.perform statement = .error failure := by
  obtain ⟨core, rest, rest', hn, rfl, rfl⟩ := h.exists_onto
  rw [perform_onto hn] at hp ⊢
  cases hc : core.perform statement <;> rw [hc] at hp <;> cases hp
  rfl

theorem Alike.perform_ok (h : Alike s s') {statement : Statement}
    (hp : s.perform statement = .ok t) : ∃ t', s'.perform statement = .ok t' ∧ Alike t t' := by
  obtain ⟨core, rest, rest', hn, rfl, rfl⟩ := h.exists_onto
  rw [perform_onto hn] at hp ⊢
  cases hc : core.perform statement with
  | error failure => rw [hc] at hp; cases hp
  | ok core' =>
    rw [hc] at hp
    cases hp
    have hn' : core'.frames ≠ [] := by
      have := congrArg List.length (sameCalls_perform hc).1
      rw [List.length_map, List.length_map] at this
      rw [← List.length_pos_iff] at hn ⊢
      omega
    exact ⟨core'.onto rest', rfl, alike_onto hn' rest rest'⟩

end Session

end DocScript
