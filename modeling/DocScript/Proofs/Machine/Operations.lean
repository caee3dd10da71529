import DocScript.Proofs.Machine.Assignments
import DocScript.Proofs.Machine.Prints

/-! # Sessions in use

A host may ask a session for anything in any order. Whatever it has asked for, each frame declares
just the variables that it binds, and binds them to what was last written to it. Only the innermost
frame changes, inputs are handed out in order, and what is refused changes nothing.
-/

namespace DocScript

/-- What a host can ask a session for. -/
inductive Operation where
  | push (function : String) (bindings : List (String × Value)) (args : List Value)
  | pop
  | get (name : String)
  | declare (name : String) (value : Value)
  | check (name : String) (line : Line)
  | set (name : String) (value : Value) (line : Line)
  | print (value : Value)
  | read

/-- What an operation gives back. -/
inductive Answer where
  | nothing
  | frame (frame : Frame)
  | value (value : Value)

namespace Session

def operate (session : Session) : Operation → Result (Answer × Session)
  | .push function bindings args =>
    let frame := Frame.ofBindings function bindings args
    .ok (.frame frame, session.push frame)
  | .pop => Result.ofFault (session.pop.map fun (frame, session) => (.frame frame, session))
  | .get name => .ok (.value (session.get name), session)
  | .declare name value =>
    Result.ofFault ((session.declare name value).map fun session => (.nothing, session))
  | .check name line => (session.checkDeclared name line).map fun _ => (.nothing, session)
  | .set name value line => (session.set name value line).map fun session => (.nothing, session)
  | .print value => .ok (.nothing, session.print value)
  | .read => Result.ofFault (session.read.map fun (value, session) => (.value value, session))

/-- The session that an operation leaves, which is the one before it if the operation fails. -/
def after (session : Session) (op : Operation) : Session :=
  match session.operate op with
  | .ok (_, session) => session
  | .error _ => session

def afterAll (session : Session) (ops : List Operation) : Session := ops.foldl after session

/-- The values that the reads among some operations give, in order. -/
def readings (session : Session) : List Operation → List Value
  | [] => []
  | .read :: rest =>
    (session.read.toOption.map Prod.fst).toList ++ (session.after .read).readings rest
  | op :: rest => (session.after op).readings rest

end Session

/-- What has been written to the variables of a frame, the last write first. -/
abbrev Writes := List (String × Value)

namespace Operation

/-- Whether a variable of the innermost frame has been written. -/
def isWritten (frames : List Writes) (name : String) : Bool :=
  ((frames.headD []).map Prod.fst).contains name

/-- What has been written to the frames after an operation, of which the innermost one comes first.
A frame begins with the variables that it is pushed with, and only those that it has can be set. -/
def record (frames : List Writes) : Operation → List Writes
  | .push _ bindings _ => bindings.reverse :: frames
  | .pop => frames.drop 1
  | .declare name value => frames.modifyHead ((name, value) :: ·)
  | .set name value _ =>
    if isWritten frames name then frames.modifyHead ((name, value) :: ·) else frames
  | _ => frames

def recordAll (ops : List Operation) : List Writes := ops.foldl record []

/-- Why an operation is refused, if it is. -/
def refusal? (frames : List Writes) : Operation → Option Failure
  | .pop => if frames.isEmpty then some (.fault .noInvocation) else none
  | .declare _ _ => if frames.isEmpty then some (.fault .noFrame) else none
  | .check name line | .set name _ line =>
    if isWritten frames name then none else some ((Cause.undeclared name).failure line)
  | _ => none

/-- What an operation makes of the frames: a new one on top of them, all but the innermost one, the
same ones of which the innermost one may have other variables, or the same ones. -/
def KeepsFrames (frames after : List Frame) : Operation → Prop
  | .push function bindings args => after = .ofBindings function bindings args :: frames
  | .pop => after = frames.drop 1
  | .declare _ _ | .set _ _ _ =>
    after.map Frame.invocation = frames.map Frame.invocation ∧ after.drop 1 = frames.drop 1
  | _ => after = frames

def isRead : Operation → Bool
  | .read => true
  | _ => false

def printed? : Operation → Option Value
  | .print value => some value
  | _ => none

end Operation

/-! ## Frames -/

theorem isSome_lookup_iff {name : String} {bindings : List (String × Value)} :
    (bindings.lookup name).isSome = true ↔ name ∈ bindings.map Prod.fst := by
  rw [List.lookup_isSome_iff, List.mem_map]
  refine exists_congr fun entry => and_congr_right fun _ => ?_
  rw [beq_iff_eq]
  exact eq_comm

theorem keys_putVariable (name : String) (value : Value) (bindings : List (String × Value)) :
    (putVariable name value bindings).map Prod.fst =
      if name ∈ bindings.map Prod.fst then bindings.map Prod.fst
      else bindings.map Prod.fst ++ [name] := by
  induction bindings with
  | nil => rfl
  | cons entry rest ih =>
    by_cases hb : entry.1 = name
    · simp [putVariable, hb]
    · have hb' : name ≠ entry.1 := Ne.symm hb
      simp only [putVariable, if_neg hb, List.map_cons, ih, List.mem_cons, hb', false_or]
      split <;> rfl

namespace Frame

variable {frame : Frame} {name : String} {value : Value} {writes : Writes}

/-- Whether a frame has come of some writes: it declares the variables that it binds, each once, and
binds each to what was last written to it. -/
structure Follows (frame : Frame) (writes : Writes) : Prop where
  declared : frame.declared = frame.bindings.map Prod.fst
  nodup : frame.declared.Nodup
  value : ∀ name, frame.get? name = writes.lookup name

theorem Follows.isDeclared_eq (h : frame.Follows writes) (name : String) :
    frame.isDeclared name = (writes.map Prod.fst).contains name := by
  rw [Bool.eq_iff_iff, isDeclared, List.contains_iff_mem, List.contains_iff_mem, h.declared,
    ← isSome_lookup_iff, ← isSome_lookup_iff, ← h.value, get?]

theorem Follows.write (h : frame.Follows writes) {written : Frame}
    (hb : written.bindings = putVariable name value frame.bindings)
    (hd : written.declared =
      if name ∈ frame.declared then frame.declared else frame.declared ++ [name]) :
    written.Follows ((name, value) :: writes) where
  declared := by rw [hd, hb, keys_putVariable, h.declared]
  nodup := by
    rw [hd]
    split
    · exact h.nodup
    · rename_i hn
      refine List.nodup_append.mpr ⟨h.nodup, by simp, ?_⟩
      rintro other ho _ hl rfl
      rw [List.mem_singleton.mp hl] at ho
      exact hn ho
  value other := by
    rw [get?, hb, lookup_putVariable, lookup_cons_eq_ite, ← h.value]
    rfl

theorem Follows.declare (h : frame.Follows writes) (name : String) (value : Value) :
    (frame.declare name value).Follows ((name, value) :: writes) := by
  apply h.write
  · rfl
  · simp only [Frame.declare, isDeclared, List.contains_iff_mem]

theorem Follows.set (h : frame.Follows writes) (hd : frame.isDeclared name = true)
    (value : Value) : (frame.set name value).Follows ((name, value) :: writes) := by
  apply h.write
  · rfl
  · rw [if_pos (List.contains_iff_mem.mp hd)]
    rfl

theorem follows_ofBindings (function : String) (bindings : List (String × Value))
    (args : List Value) : (ofBindings function bindings args).Follows bindings.reverse := by
  suffices h : ∀ (frame : Frame) writes, frame.Follows writes →
      (bindings.foldl (fun frame binding => frame.declare binding.1 binding.2) frame).Follows
        (bindings.reverse ++ writes) by
    have hempty : Follows ⟨function, [], [], args⟩ [] := ⟨rfl, List.nodup_nil, fun _ => rfl⟩
    have hall := h _ _ hempty
    rwa [List.append_nil] at hall
  induction bindings with
  | nil => exact fun _ _ h => h
  | cons binding rest ih =>
    intro frame writes h
    rw [List.reverse_cons, List.append_assoc]
    exact ih _ _ (h.declare binding.1 binding.2)

end Frame

/-! ## Sessions -/

namespace Session

variable {session : Session} {frames : List Writes} {op : Operation}

/-- Whether the frames of a session have come of what was written to them. -/
def Follows (session : Session) (frames : List Writes) : Prop :=
  List.Forall₂ Frame.Follows session.frames frames

theorem isDeclared_eq_isWritten {frame : Frame} {rest : List Frame}
    (h : List.Forall₂ Frame.Follows (frame :: rest) frames) (name : String) :
    frame.isDeclared name = Operation.isWritten frames name := by
  cases h with
  | cons hf _ => exact hf.isDeclared_eq name

theorem exists_read_eq_ok (h : session.provider = none) :
    ∃ value after, session.read = .ok (value, after) := by
  obtain ⟨_, _, _ | ⟨value, rest⟩, _⟩ := session <;> cases h
  · exact ⟨_, _, rfl⟩
  · exact ⟨_, _, rfl⟩

/-- Without a provider an operation is refused as the writes say. -/
theorem Follows.operate_eq_error_iff (h : session.Follows frames) (hp : session.provider = none)
    {failure : Failure} :
    session.operate op = .error failure ↔ op.refusal? frames = some failure := by
  obtain ⟨value, after, hr⟩ := exists_read_eq_ok hp
  obtain ⟨_ | ⟨frame, rest⟩, printed, inputs, provider⟩ := session
  · cases h
    cases op <;>
      simp [operate, Operation.refusal?, Operation.isWritten, Session.pop, Session.declare,
        checkDeclared, Session.set, Result.ofFault, Except.map, hr]
  · have hd := isDeclared_eq_isWritten h
    cases h with
    | cons hf hrest =>
      cases op with
      | check name line | set name value line =>
        simp only [operate, Operation.refusal?, checkDeclared, Session.set, hd]
        split <;> simp [Except.map]
      | read => simp [operate, Operation.refusal?, hr, Result.ofFault, Except.map]
      | _ =>
        simp [operate, Operation.refusal?, Session.pop, Session.declare, Result.ofFault, Except.map]

/-- A session after a read is the one that the read leaves with its value, or the same one. -/
theorem after_read (session : Session) :
    (∃ value, session.read = .ok (value, session.after .read)) ∨ session.after .read = session := by
  rw [after, operate]
  cases session.read with
  | ok read => exact .inl ⟨read.1, rfl⟩
  | error fault => exact .inr rfl

theorem frames_after_read (session : Session) : (session.after .read).frames = session.frames := by
  rcases session.after_read with ⟨value, hr⟩ | hs
  · exact read_frames hr
  · rw [hs]

theorem printed_after_read (session : Session) :
    (session.after .read).printed = session.printed := by
  rcases session.after_read with ⟨value, hr⟩ | hs
  · exact printed_read hr
  · rw [hs]

theorem after_check (session : Session) (name : String) (line : Line) :
    session.after (.check name line) = session := by
  rw [after, operate]
  cases session.checkDeclared name line <;> rfl

theorem after_set_push (session : Session) (frame : Frame) (name : String) (value : Value)
    (line : Line) :
    (session.push frame).after (.set name value line) =
      session.push (if frame.isDeclared name then frame.set name value else frame) := by
  simp only [after, operate, Session.set, push]
  cases frame.isDeclared name <;> rfl

theorem Follows.after_set (h : session.Follows frames) (name : String) (value : Value)
    (line : Line) :
    (session.after (.set name value line)).Follows
      (Operation.record frames (.set name value line)) := by
  obtain ⟨_ | ⟨frame, rest⟩, printed, inputs, provider⟩ := session
  · cases h
    exact .nil
  · have hd := isDeclared_eq_isWritten h name
    have hs := after_set_push ⟨rest, printed, inputs, provider⟩ frame name value line
    rw [Follows, show Session.after ⟨frame :: rest, _, _, _⟩ _ = _ from hs, Operation.record, ← hd]
    cases h with
    | cons hf hrest =>
      by_cases hw : frame.isDeclared name = true
      · rw [if_pos hw, if_pos hw]
        exact .cons (hf.set hw value) hrest
      · rw [if_neg hw, if_neg hw]
        exact .cons hf hrest

/-- After an operation the frames have come of what has been written then. -/
theorem Follows.after (h : session.Follows frames) (op : Operation) :
    (session.after op).Follows (op.record frames) := by
  cases op with
  | push function bindings args => exact .cons (Frame.follows_ofBindings function bindings args) h
  | set name value line => exact h.after_set name value line
  | get | print => exact h
  | check name line => rwa [after_check]
  | read => rwa [Follows, frames_after_read]
  | pop =>
    obtain ⟨_ | ⟨frame, rest⟩, _, _, _⟩ := session
    · cases h
      exact .nil
    · cases h with
      | cons _ hrest => exact hrest
  | declare name value =>
    obtain ⟨_ | ⟨frame, rest⟩, _, _, _⟩ := session
    · cases h
      exact .nil
    · cases h with
      | cons hf hrest => exact .cons (hf.declare name value) hrest

theorem Follows.afterAll (h : session.Follows frames) (ops : List Operation) :
    (session.afterAll ops).Follows (ops.foldl Operation.record frames) := by
  induction ops generalizing session frames with
  | nil => exact h
  | cons op rest ih => exact ih (h.after op)

theorem Follows.get_eq (h : session.Follows frames) (name : String) :
    session.get name = ((frames.headD []).lookup name).getD .none := by
  obtain ⟨_ | ⟨frame, rest⟩, _, _, _⟩ := session
  · cases h
    rfl
  · cases h with
    | cons hf _ => exact congrArg (Option.getD · Value.none) (hf.value name)

theorem keepsFrames_after (session : Session) (op : Operation) :
    op.KeepsFrames session.frames (session.after op).frames := by
  cases op with
  | push | get | print => rfl
  | check name line => exact congrArg frames (session.after_check name line)
  | read => exact session.frames_after_read
  | pop =>
    obtain ⟨_ | ⟨frame, rest⟩, _, _, _⟩ := session <;> rfl
  | declare name value =>
    obtain ⟨_ | ⟨frame, rest⟩, _, _, _⟩ := session <;> exact ⟨rfl, rfl⟩
  | set name value line =>
    obtain ⟨_ | ⟨frame, rest⟩, _, _, _⟩ := session
    · exact ⟨rfl, rfl⟩
    · rw [show Session.after ⟨frame :: rest, _, _, _⟩ _ = _ from
        after_set_push ⟨rest, _, _, _⟩ frame name value line]
      split <;> exact ⟨rfl, rfl⟩

/-- An operation that neither prints nor reads changes at most the frames. -/
theorem bare_after (session : Session) {op : Operation} (hr : op.isRead = false)
    (hp : op.printed? = none) : (session.after op).bare = session.bare := by
  cases op with
  | push | get => rfl
  | print => cases hp
  | read => cases hr
  | check name line => rw [after_check]
  | pop | declare => obtain ⟨_ | ⟨frame, rest⟩, _, _, _⟩ := session <;> rfl
  | set name value line =>
    obtain ⟨_ | ⟨frame, rest⟩, _, _, _⟩ := session
    · rfl
    · rw [show Session.after ⟨frame :: rest, _, _, _⟩ _ = _ from
        after_set_push ⟨rest, _, _, _⟩ frame name value line]
      rfl

theorem output_after (session : Session) (op : Operation) :
    (session.after op).output = session.output ++ op.printed?.toList := by
  have hsilent (hb : (session.after op).printed = session.printed) (hp : op.printed? = none) :
      (session.after op).output = session.output ++ op.printed?.toList := by
    rw [output, hb, hp, Option.toList_none, List.append_nil, output]
  cases hp : op.printed? with
  | some value =>
    cases op <;> cases hp
    exact List.reverse_cons
  | none =>
    rw [← hp]
    by_cases hr : op.isRead = true
    · cases op <;> cases hr
      exact hsilent session.printed_after_read hp
    · have hb := session.bare_after (by simpa using hr) hp
      have hprinted : (session.after op).bare.printed = session.bare.printed := by rw [hb]
      exact hsilent hprinted hp

theorem output_afterAll (session : Session) (ops : List Operation) :
    (session.afterAll ops).output = session.output ++ ops.filterMap Operation.printed? := by
  induction ops generalizing session with
  | nil => exact (List.append_nil _).symm
  | cons op rest ih =>
    have hr : (session.afterAll (op :: rest)).output = _ := ih (session.after op)
    rw [hr, output_after, List.append_assoc, List.filterMap_cons]
    cases op.printed? <;> rfl

/-- Only reads take inputs. -/
theorem inputs_after (session : Session) {op : Operation} (h : op.isRead = false) :
    (session.after op).inputs = session.inputs ∧
      (session.after op).provider = session.provider := by
  cases hp : op.printed? with
  | some value =>
    cases op <;> cases hp
    exact ⟨rfl, rfl⟩
  | none =>
    have hb := session.bare_after h hp
    have hi : (session.after op).bare.inputs = session.bare.inputs := by rw [hb]
    have hprovider : (session.after op).bare.provider = session.bare.provider := by rw [hb]
    exact ⟨hi, hprovider⟩

theorem provider_afterAll (h : session.provider = none) (ops : List Operation) :
    (session.afterAll ops).provider = none := by
  induction ops generalizing session with
  | nil => exact h
  | cons op rest ih =>
    apply ih
    by_cases hr : op.isRead = true
    · cases op <;> cases hr
      obtain ⟨_, _, _ | ⟨value, inputs⟩, _⟩ := session <;> cases h <;> rfl
    · rw [(session.inputs_after (by simpa using hr)).2, h]

/-- Reads give the inputs in order, and no value once there are none left. -/
theorem readings_eq (h : session.provider = none) (ops : List Operation) :
    session.readings ops =
        session.inputs.take (ops.countP Operation.isRead) ++
          List.replicate (ops.countP Operation.isRead - session.inputs.length) .none ∧
      (session.afterAll ops).inputs = session.inputs.drop (ops.countP Operation.isRead) := by
  induction ops generalizing session with
  | nil => simp [readings, afterAll]
  | cons op rest ih =>
    by_cases hr : op.isRead = true
    · cases op <;> cases hr
      obtain ⟨frames, printed, inputs, provider⟩ := session
      cases h
      rw [readings, List.countP_cons_of_pos rfl]
      cases inputs with
      | nil =>
        have hrest := @ih ⟨frames, printed, [], none⟩ rfl
        simp only [List.take_nil, List.nil_append, List.length_nil, Nat.sub_zero,
          List.drop_nil] at hrest ⊢
        rw [List.replicate_succ]
        exact ⟨congrArg (Value.none :: ·) hrest.1, hrest.2⟩
      | cons value inputs =>
        have hrest := @ih ⟨frames, printed, inputs, none⟩ rfl
        rw [List.take_succ_cons, List.length_cons, Nat.add_sub_add_right, List.drop_succ_cons]
        exact ⟨congrArg (value :: ·) hrest.1, hrest.2⟩
    · have hr : op.isRead = false := by simpa using hr
      obtain ⟨hi, hp⟩ := session.inputs_after hr
      rw [List.countP_cons_of_neg (by simp [hr]), ← hi]
      have hrest := ih (hp.trans h)
      cases op <;> first | exact hrest | cases hr

end Session

/-- Whatever a host has asked a session for, each frame declares just the variables that it binds
and binds them to what was last written to it, reads have given the inputs in order and no value
once these had run out, and the output is what has been printed. Whatever it asks for next is
refused as the writes to the innermost frame say. What is refused changes nothing, and anything else
changes at most the innermost frame, the end of the output and the inputs that are left. -/
theorem session_accounts_for_operations (inputs : List Value) (ops : List Operation) :
    let session := (Session.start inputs none).afterAll ops
    let frames := Operation.recordAll ops
    let reads := ops.countP Operation.isRead
    List.Forall₂ Frame.Follows session.frames frames ∧
      (∀ name, session.get name = ((frames.headD []).lookup name).getD .none) ∧
      (Session.start inputs none).readings ops =
        inputs.take reads ++ List.replicate (reads - inputs.length) .none ∧
      session.inputs = inputs.drop reads ∧
      session.output = ops.filterMap Operation.printed? ∧
      ∀ op,
        (∀ failure, session.operate op = .error failure ↔ op.refusal? frames = some failure) ∧
        (∀ failure, session.operate op = .error failure → session.after op = session) ∧
        op.KeepsFrames session.frames (session.after op).frames ∧
        (session.after op).output = session.output ++ op.printed?.toList := by
  intro session frames reads
  have hs : (Session.start inputs none).Follows [] := .nil
  have hp : (Session.start inputs none).provider = none := rfl
  have hf : session.Follows frames := hs.afterAll ops
  obtain ⟨hreadings, hinputs⟩ := Session.readings_eq hp ops
  refine ⟨hf, hf.get_eq, hreadings, hinputs, Session.output_afterAll _ ops, fun op => ?_⟩
  have hafter : session.provider = none := Session.provider_afterAll hp ops
  refine ⟨fun _ => hf.operate_eq_error_iff hafter, ?_, session.keepsFrames_after op,
    session.output_after op⟩
  intro failure h
  rw [Session.after, h]

/-- A variable can only be set in the frame that has it. -/
example : ((Session.start [] none).afterAll [.push "f" [("x", .bool true)] [], .push "g" [] [],
    .set "x" .none none, .pop]).get "x" = .bool true := rfl

end DocScript
