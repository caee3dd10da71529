import DocScript.Machine.Run
import DocScript.Proofs.Machine.Frames

/-! # What a session holds

A session holds values in its frames and among what it has printed, and it has others still to
read. What holds of all of them holds after every operation of a value that it holds of.
-/

namespace DocScript

variable {P : Value → Prop}

theorem forall_putVariable {bindings : List (String × Value)}
    (h : ∀ binding ∈ bindings, P binding.2) {value : Value} (hv : P value) (name : String) :
    ∀ binding ∈ putVariable name value bindings, P binding.2 := by
  induction bindings with
  | nil => exact List.forall_mem_cons.mpr ⟨hv, h⟩
  | cons entry rest ih =>
    obtain ⟨hfirst, hrest⟩ := List.forall_mem_cons.mp h
    rw [putVariable]
    split
    · exact List.forall_mem_cons.mpr ⟨hv, hrest⟩
    · exact List.forall_mem_cons.mpr ⟨hfirst, ih hrest⟩

namespace Frame

variable {frame : Frame} {value : Value}

/-- Whether all variables and arguments of a frame have a property. -/
structure Holds (P : Value → Prop) (frame : Frame) : Prop where
  bindings : ∀ binding ∈ frame.bindings, P binding.2
  args : ∀ value ∈ frame.args, P value

theorem Holds.set (h : frame.Holds P) (hv : P value) (name : String) :
    (frame.set name value).Holds P where
  bindings := forall_putVariable h.bindings hv name
  args := h.args

theorem Holds.declare (h : frame.Holds P) (hv : P value) (name : String) :
    (frame.declare name value).Holds P where
  bindings := forall_putVariable h.bindings hv name
  args := h.args

theorem holds_ofBindings {bindings : List (String × Value)} {args : List Value}
    (hb : ∀ binding ∈ bindings, P binding.2) (ha : ∀ value ∈ args, P value) (function : String) :
    (ofBindings function bindings args).Holds P := by
  suffices h : ∀ frame : Frame, frame.Holds P →
      (bindings.foldl (fun frame binding => frame.declare binding.1 binding.2) frame).Holds P from
    h _ ⟨nofun, ha⟩
  induction bindings with
  | nil => exact fun _ => id
  | cons binding rest ih =>
    obtain ⟨hfirst, hrest⟩ := List.forall_mem_cons.mp hb
    exact fun frame h => ih hrest _ (h.declare hfirst _)

end Frame

namespace Session

variable {session session' : Session} {value : Value}

/-- Whether all values that are in a session or that it may still read have a property. -/
structure Holds (P : Value → Prop) (session : Session) : Prop where
  frames : ∀ frame ∈ session.frames, frame.Holds P
  printed : ∀ value ∈ session.printed, P value
  inputs : ∀ value ∈ session.inputs, P value
  provider : ∀ source ∈ session.provider, ∀ n value, source.answer n = .ok value → P value

theorem Holds.get (h : session.Holds P) (hn : P .none) (name : String) : P (session.get name) := by
  unfold Session.get
  split
  · rename_i frame rest hf
    have hframe : frame.Holds P := h.frames frame (by rw [hf]; exact List.mem_cons_self)
    cases hb : frame.get? name with
    | none => exact hn
    | some value =>
      obtain ⟨before, after, he, -⟩ := List.lookup_eq_some_iff.mp hb
      refine hframe.bindings (name, value) ?_
      rw [he]
      exact List.mem_append_right before List.mem_cons_self
  · exact hn

theorem Holds.print (h : session.Holds P) (hv : P value) : (session.print value).Holds P where
  frames := h.frames
  printed := List.forall_mem_cons.mpr ⟨hv, h.printed⟩
  inputs := h.inputs
  provider := h.provider

/-- A session holds what it has held, in other frames too. -/
theorem Holds.withFrames (h : session.Holds P) {frames : List Frame}
    (hf : ∀ frame ∈ frames, frame.Holds P) : Holds P { session with frames } where
  frames := hf
  printed := h.printed
  inputs := h.inputs
  provider := h.provider

theorem Holds.push (h : session.Holds P) {frame : Frame} (hf : frame.Holds P) :
    (session.push frame).Holds P :=
  h.withFrames (List.forall_mem_cons.mpr ⟨hf, h.frames⟩)

theorem Holds.declare (h : session.Holds P) (hv : P value) {name : String}
    (hd : session.declare name value = .ok session') : session'.Holds P := by
  obtain ⟨_ | ⟨frame, rest⟩, _, _, _⟩ := session
  · cases hd
  · cases hd
    obtain ⟨hfirst, hrest⟩ := List.forall_mem_cons.mp h.frames
    exact h.withFrames (List.forall_mem_cons.mpr ⟨hfirst.declare hv name, hrest⟩)

theorem Holds.set (h : session.Holds P) (hv : P value) {name : String} {line : Line}
    (hs : session.set name value line = .ok session') : session'.Holds P := by
  obtain ⟨_ | ⟨frame, rest⟩, _, _, _⟩ := session
  · cases hs
  · simp only [Session.set] at hs
    split at hs <;> cases hs
    obtain ⟨hfirst, hrest⟩ := List.forall_mem_cons.mp h.frames
    exact h.withFrames (List.forall_mem_cons.mpr ⟨hfirst.set hv name, hrest⟩)

theorem Holds.read (h : session.Holds P) (hn : P .none)
    (hr : session.read = .ok (value, session')) : P value ∧ session'.Holds P := by
  obtain ⟨frames, printed, inputs, _ | source⟩ := session
  · cases inputs with
    | nil =>
      cases hr
      exact ⟨hn, h⟩
    | cons first rest =>
      cases hr
      obtain ⟨hfirst, hrest⟩ := List.forall_mem_cons.mp h.inputs
      exact ⟨hfirst, h.frames, h.printed, hrest, nofun⟩
  · obtain ⟨answer, ha, hs⟩ := Result.map_eq_ok.mp hr
    cases hs
    refine ⟨h.provider source rfl source.taken value ha, h.frames, h.printed, h.inputs, ?_⟩
    rintro _ ⟨⟩
    exact h.provider source rfl

end Session

namespace Machine

variable {m : Machine} {args : List Value}

theorem forall_bindings (hn : P .none) (ha : ∀ value ∈ args, P value) (parameters : List String) :
    ∀ binding ∈ bindings parameters args, P binding.2 := by
  induction parameters generalizing args with
  | nil => exact nofun
  | cons parameter rest ih =>
    cases args with
    | nil => exact List.forall_mem_cons.mpr ⟨hn, ih nofun⟩
    | cons arg args =>
      obtain ⟨hfirst, hrest⟩ := List.forall_mem_cons.mp ha
      exact List.forall_mem_cons.mpr ⟨hfirst, ih hrest⟩

theorem holds_enter (h : m.session.Holds P) (hn : P .none) (ha : ∀ value ∈ args, P value)
    (program : Program) (function : Function) :
    (m.enter program function args).session.Holds P :=
  h.push (Frame.holds_ofBindings (forall_bindings hn ha _) ha _)

theorem holds_leave (h : m.session.Holds P) : m.leave.session.Holds P :=
  h.withFrames fun frame hf => h.frames frame (List.mem_of_mem_drop hf)

theorem session_continueWith (m : Machine) (blocks : List (List Statement)) :
    (m.continueWith blocks).session = m.session := by
  obtain ⟨_, _, _ | ⟨_, _⟩, _⟩ := m <;> rfl

end Machine

end DocScript
