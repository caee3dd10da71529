import DocScript.Machine.Need
import DocScript.Proofs.Machine.Requests
import DocScript.Proofs.Machine.Simulation

/-! # Steps and stores

Only a call looks at the store of a machine, and all that it does there is to find its function.
Machines that agree apart from their stores therefore make the same step if their calls find the
same.
-/

namespace DocScript.Machine

variable {world world' : World} {mode mode' : Mode} {m : Machine} {program : Program}
  {statement : Statement} {name : String} {reference : Option String} {arguments : List Expr}
  {line : Line} {blocks : List (List Statement)}

/-- A machine with another store. -/
def withStore (machine : Machine) (store : Store) : Machine := { machine with store }

/-- Whether the next step of a machine is a call. -/
structure Calls (machine : Machine) (program : Program) (name : String)
    (reference : Option String) (arguments : List Expr) (line : Line) : Prop where
  running : machine.status = .running
  next : machine.next? = some (program, .call name reference arguments line)

theorem exists_activation (h : m.next? = some (program, statement)) :
    ∃ function later outer rest,
      m.activations = ⟨program, function, (statement :: later) :: outer⟩ :: rest := by
  unfold next? at h
  split at h
  · rename_i program' function statement' later outer rest he
    cases h
    exact ⟨function, later, outer, rest, he⟩
  · cases h

theorem continueWith_withStore (m : Machine) (store : Store) (blocks : List (List Statement)) :
    (m.withStore store).continueWith blocks = (m.continueWith blocks).withStore store := by
  obtain ⟨_, _, _ | ⟨_, _⟩, _⟩ := m <;> rfl

theorem settle_withStore (m : Machine) (store : Store) (blocks : List (List Statement))
    (result : Result Session) :
    (m.withStore store).settle blocks result = (m.settle blocks result).withStore store := by
  cases result with
  | error failure => rfl
  | ok session => exact continueWith_withStore { m with session } store blocks

/-- The programs that the invocations in progress are of. -/
def programs (machine : Machine) : List Program := machine.activations.map Activation.program

theorem programs_leave_subset (m : Machine) : m.leave.programs ⊆ m.programs :=
  List.map_subset _ (List.drop_subset 1 m.activations)

theorem programs_continueWith (m : Machine) (blocks : List (List Statement)) :
    (m.continueWith blocks).programs = m.programs := by
  obtain ⟨_, _, _ | ⟨_, _⟩, _⟩ := m <;> rfl

theorem programs_settle (m : Machine) (blocks : List (List Statement)) (result : Result Session) :
    (m.settle blocks result).programs = m.programs := by
  cases result with
  | error failure => rfl
  | ok session => exact programs_continueWith { m with session } blocks

/-- A step without a call, which is the same with any store, and in any world and mode. -/
structure Plain (machine after : Machine) : Prop where
  withStore : ∀ world mode store, step world mode (machine.withStore store) = after.withStore store
  programs : after.programs ⊆ machine.programs

theorem plain_continueWith (blocks : List (List Statement))
    (h : ∀ world mode store, step world mode (m.withStore store) =
      (m.withStore store).continueWith blocks) : m.Plain (m.continueWith blocks) where
  withStore world mode store := (h world mode store).trans (continueWith_withStore m store blocks)
  programs := by rw [programs_continueWith]; exact List.Subset.refl _

theorem plain_settle (blocks : List (List Statement)) (result : Result Session)
    (h : ∀ world mode store, step world mode (m.withStore store) =
      (m.withStore store).settle blocks result) : m.Plain (m.settle blocks result) where
  withStore world mode store := (h world mode store).trans (settle_withStore m store blocks result)
  programs := by rw [programs_settle]; exact List.Subset.refl _

theorem plain_leave
    (h : ∀ world mode store, step world mode (m.withStore store) = (m.withStore store).leave) :
    m.Plain m.leave where
  withStore := h
  programs := m.programs_leave_subset

theorem plain_of_ended (h : m.status ≠ .running) : m.Plain m where
  withStore _ _ store := step_of_ended (m := m.withStore store) h
  programs := List.Subset.refl _

/-- A step is a call or plain. -/
theorem calls_or_plain (m : Machine) :
    (∃ program name reference arguments line, m.Calls program name reference arguments line) ∨
      ∃ after, m.Plain after := by
  by_cases hr : m.status = .running
  · obtain ⟨session, store, _ | ⟨⟨program, name, blocks⟩, rest⟩, status⟩ := m <;> subst hr
    · exact .inr ⟨⟨session, store, [], .finished⟩, fun _ _ _ => rfl, List.Subset.refl []⟩
    · match blocks with
      | [] => exact .inr ⟨_, plain_leave fun _ _ _ => rfl⟩
      | [] :: outer => exact .inr ⟨_, plain_continueWith outer fun _ _ _ => rfl⟩
      | (.call callee reference arguments line :: later) :: outer =>
        exact .inl ⟨program, callee, reference, arguments, line, rfl, rfl⟩
      | (.stop _ :: _) :: _ => exact .inr ⟨_, plain_leave fun _ _ _ => rfl⟩
      | (.cond condition body line :: later) :: outer =>
        right
        cases h : session.eval condition line with
        | ok value =>
          let blocks := if value.truthy then body :: later :: outer else later :: outer
          refine ⟨_, plain_continueWith blocks fun _ _ _ => ?_⟩
          simp only [step, advance, execute, withStore, h, blocks]
        | error failure =>
          refine ⟨_, plain_settle [] (.error failure) fun _ _ _ => ?_⟩
          simp only [step, advance, execute, withStore, h, settle]
      | (.print .. :: later) :: outer =>
        exact .inr ⟨_, plain_settle (later :: outer) (session.perform _) fun _ _ _ => rfl⟩
      | (.assign .. :: later) :: outer =>
        exact .inr ⟨_, plain_settle (later :: outer) (session.perform _) fun _ _ _ => rfl⟩
      | (.declare .. :: later) :: outer =>
        exact .inr ⟨_, plain_settle (later :: outer) (session.perform _) fun _ _ _ => rfl⟩
      | (.input .. :: later) :: outer =>
        exact .inr ⟨_, plain_settle (later :: outer) (session.perform _) fun _ _ _ => rfl⟩
  · exact .inr ⟨m, plain_of_ended hr⟩

theorem Plain.step_eq {after : Machine} (h : m.Plain after) (world : World) (mode : Mode) :
    step world mode m = after.withStore m.store := h.withStore world mode m.store

/-- What a call notes that has found something to run, and that some statements come after. -/
def callEvents (caller : String) (later : List Statement) :
    Result (Program × Function × List Value) → List Event
  | .ok (_, function, args) =>
    if later.isEmpty then [.tailCall caller function.name, .enter function.name args]
    else [.enter function.name args]
  | .error _ => []

/-- A machine after a call that has found something to run, or has not. -/
def afterCall (machine : Machine) (later : List Statement) (outer : List (List Statement)) :
    Result (Program × Function × List Value) → Machine
  | .ok (program, function, args) =>
    (if later.isEmpty then machine.leave else machine.continueWith (later :: outer)).enter program
      function args
  | .error failure => machine.fail failure

theorem asked?_of_mem_callEvents {caller : String} {later : List Statement}
    {result : Result (Program × Function × List Value)} :
    ∀ event ∈ callEvents caller later result, event.asked? = none := by
  intro event h
  unfold callEvents at h
  split at h
  · split at h
    · simp only [List.mem_cons, List.not_mem_nil, or_false] at h
      rcases h with rfl | rfl <;> rfl
    · cases List.mem_singleton.mp h
      rfl
  · cases h

theorem call_withStore (world : World) (mode : Mode) (m : Machine) (store : Store)
    (caller : Activation) (name : String) (reference : Option String) (arguments : List Expr)
    (line : Line) (later : List Statement) (outer : List (List Statement)) :
    let prepared := prepare world mode m.session store caller.program name reference arguments line
    call world mode (m.withStore store) caller name reference arguments line later outer =
      (m.afterCall later outer prepared.1).withStore
        (prepared.2.noteAll (callEvents caller.function later prepared.1)) := by
  intro prepared
  have hp : prepare world mode (m.withStore store).session (m.withStore store).store
      caller.program name reference arguments line = prepared := rfl
  rw [call, hp]
  rcases prepared with ⟨failure | ⟨program, function, args⟩, store'⟩
  · rfl
  · simp only [afterCall, callEvents]
    split
    · rfl
    · exact congrArg (enter · program function args) (continueWith_withStore m store' _)

theorem Calls.head_programs (h : m.Calls program name reference arguments line) :
    m.programs.head? = some program := by
  obtain ⟨function, later, outer, rest, ha⟩ := exists_activation h.next
  rw [programs, ha]
  rfl

/-- A step that is a call does what comes of finding its function. -/
theorem Calls.exists_step (h : m.Calls program name reference arguments line) :
    ∃ caller later outer, ∀ world mode store,
      let prepared := prepare world mode m.session store program name reference arguments line
      step world mode (m.withStore store) =
        (m.afterCall later outer prepared.1).withStore
          (prepared.2.noteAll (callEvents caller later prepared.1)) := by
  obtain ⟨function, later, outer, rest, ha⟩ := exists_activation h.next
  refine ⟨function, later, outer, fun world mode store => ?_⟩
  have hr : (m.withStore store).status = .running := h.running
  have ha : (m.withStore store).activations = _ := ha
  rw [step_of_running hr, advance, ha]
  exact call_withStore world mode m store ⟨program, function, _⟩ name reference arguments line
    later outer

/-- Apart from what it asks for, a call only notes what happens. -/
theorem Calls.quiet_step (h : m.Calls program name reference arguments line) (world : World)
    (mode : Mode) :
    (prepare world mode m.session m.store program name reference arguments line).2.Quiet
      (step world mode m).store := by
  obtain ⟨caller, later, outer, hs⟩ := h.exists_step
  have hs := congrArg store (hs world mode m.store)
  rw [show (step world mode m).store = _ from hs]
  exact Store.quiet_noteAll asked?_of_mem_callEvents _

/-- Whether the next step is a call that refers to a document at a location. -/
def Seeks (machine : Machine) (world : World) (mode : Mode) (program : Program)
    (location : Location) : Prop :=
  ∃ name reference arguments line, machine.Calls program name reference arguments line ∧
    Store.Locates world mode program reference line location

theorem Seeks.head_programs {location : Location} (h : m.Seeks world mode program location) :
    m.programs.head? = some program := by
  obtain ⟨name, reference, arguments, line, hc, -⟩ := h
  exact hc.head_programs

theorem Seeks.mem_programs {location : Location} (h : m.Seeks world mode program location) :
    program ∈ m.programs :=
  List.mem_of_mem_head? h.head_programs

theorem Seeks.exists_reference {location : Location} (h : m.Seeks world mode program location) :
    ∃ text line, Location.ofReference world mode program.origin text line = .ok location := by
  obtain ⟨-, -, -, line, -, text, -, -, hl⟩ := h
  exact ⟨text, line, hl⟩

/-- A step asks for no document, or for the one that a call refers to. -/
theorem step_asks (world : World) (mode : Mode) (m : Machine) :
    m.store.Quiet (step world mode m).store ∨
      ∃ program location, m.Seeks world mode program location ∧
        m.store.Asked world location (step world mode m).store := by
  rcases m.calls_or_plain with ⟨program, name, reference, arguments, line, h⟩ | ⟨after, h⟩
  · have hq := h.quiet_step world mode
    rcases prepare_asks world mode m.session m.store program name reference arguments line with
      he | ⟨location, hl, ha⟩
    · left
      rwa [he] at hq
    · right
      exact ⟨program, location, ⟨name, reference, arguments, line, h, hl⟩, ha.quiet hq⟩
  · left
    rw [h.step_eq]
    exact .refl m.store

theorem programs_afterCall {later : List Statement} {outer : List (List Statement)}
    {result : Result (Program × Function × List Value)} {target : Program}
    (h : target ∈ (m.afterCall later outer result).programs) :
    target ∈ m.programs ∨ ∃ function args, result = .ok (target, function, args) := by
  match result with
  | .error failure => exact .inl h
  | .ok (program, function, args) =>
    rcases List.mem_cons.mp h with rfl | hr
    · exact .inr ⟨function, args, rfl⟩
    · left
      split at hr
      · exact m.programs_leave_subset hr
      · exact (programs_continueWith m _) ▸ hr

/-- A step runs programs that have been running, or one that is in the library. -/
theorem step_programs (world : World) (mode : Mode) (m : Machine) {target : Program}
    (h : target ∈ (step world mode m).programs) :
    target ∈ m.programs ∨ ∃ key, (step world mode m).store.library.find? key = some target := by
  rcases m.calls_or_plain with ⟨program, name, reference, arguments, line, hc⟩ | ⟨after, hp⟩
  · have hl := (hc.quiet_step world mode).library
    obtain ⟨caller, later, outer, hs⟩ := hc.exists_step
    have hs : step world mode m = _ := hs world mode m.store
    rw [hs] at h
    rcases programs_afterCall h with hm | ⟨function, args, hp⟩
    · exact .inl hm
    · rw [hl]
      rcases prepare_target (Prod.ext hp rfl) with rfl | hk
      · exact .inl (List.mem_of_mem_head? hc.head_programs)
      · exact .inr hk
  · rw [hp.step_eq] at h
    exact .inl (hp.programs h)

theorem quiet_start (program : Program) (entry : String) (args : List Value) (session : Session)
    (store : Store) : store.Quiet (start program entry args session store).store := by
  unfold start
  split
  · exact store.quiet_note rfl
  · exact .refl store

theorem programs_start_subset (program : Program) (entry : String) (args : List Value)
    (session : Session) (store : Store) :
    (start program entry args session store).programs ⊆ [program] := by
  unfold start
  split
  · exact List.Subset.refl _
  · exact List.nil_subset _

theorem run_succ (world : World) (mode : Mode) (n : Nat) (m : Machine) :
    run world mode (n + 1) m = step world mode (run world mode n m) := by
  rw [run_eq_iterate, run_eq_iterate, Function.iterate_succ_apply']

/-- What each step of a run preserves, the run preserves. -/
theorem run_preserves {P : Machine → Prop} (h : P m) {n : Nat}
    (hs : ∀ k < n, P (run world mode k m) → P (step world mode (run world mode k m))) :
    P (run world mode n m) := by
  induction n with
  | zero => exact h
  | succ n ih =>
    rw [run_succ]
    exact hs n (Nat.lt_succ_self n) (ih fun k hk => hs k (Nat.lt_succ_of_lt hk))

/-- What a run asks for is what one of its calls refers to. -/
theorem exists_seeks_of_mem_requests (hm : m.store.requests = []) {n : Nat} {location : Location}
    (h : location ∈ (run world mode n m).store.requests) :
    ∃ k < n, ∃ program, (run world mode k m).Seeks world mode program location := by
  induction n with
  | zero =>
    rw [run, hm] at h
    cases h
  | succ n ih =>
    have before (h : location ∈ (run world mode n m).store.requests) :
        ∃ k < n + 1, ∃ program, (run world mode k m).Seeks world mode program location := by
      obtain ⟨k, hk, hs⟩ := ih h
      exact ⟨k, Nat.lt_succ_of_lt hk, hs⟩
    rw [run_succ] at h
    rcases step_asks world mode (run world mode n m) with hq | ⟨program, asked, hs, ha⟩
    · rw [hq.requests] at h
      exact before h
    · rw [ha.requests] at h
      rcases List.mem_append.mp h with h | h
      · exact before h
      · cases List.mem_singleton.mp h
        exact ⟨n, Nat.lt_succ_self n, program, hs⟩

section Twins

/-- Machines that are the same apart from their stores, which are related. -/
structure Twins (related : Store → Store → Prop) (machine twin : Machine) : Prop where
  same : twin = machine.withStore twin.store
  stores : related machine.store twin.store

variable {related : Store → Store → Prop} {twin : Machine}

theorem related_noteAll
    (hn : ∀ store store' event, event.asked? = none → related store store' →
      related (store.note event) (store'.note event))
    {events : List Event} (he : ∀ event ∈ events, event.asked? = none) {store store' : Store}
    (h : related store store') : related (store.noteAll events) (store'.noteAll events) := by
  induction events generalizing store store' with
  | nil => exact h
  | cons event rest ih =>
    have hr := hn store store' event (he event List.mem_cons_self) h
    exact ih (fun other ho => he other (List.mem_cons_of_mem event ho)) hr

/-- Twins remain twins if their calls find the same and leave related stores. -/
theorem Twins.step (h : Twins related m twin)
    (hn : ∀ store store' event, event.asked? = none → related store store' →
      related (store.note event) (store'.note event))
    (hc : ∀ program name reference arguments line, m.Calls program name reference arguments line →
      ∃ result t t', related t t' ∧
        prepare world mode m.session m.store program name reference arguments line =
          (result, t) ∧
        prepare world' mode' m.session twin.store program name reference arguments line =
          (result, t')) :
    Twins related (Machine.step world mode m) (Machine.step world' mode' twin) := by
  rcases m.calls_or_plain with ⟨program, name, reference, arguments, line, h'⟩ | ⟨after, h'⟩
  · obtain ⟨result, t, t', ht, hp, hp'⟩ := hc _ _ _ _ _ h'
    obtain ⟨caller, later, outer, hs⟩ := h'.exists_step
    have hm : m.withStore m.store = m := rfl
    rw [h.same, hs, hp', ← hm, hs, hp]
    exact ⟨rfl, related_noteAll hn asked?_of_mem_callEvents ht⟩
  · rw [h.same, h'.withStore, h'.step_eq]
    exact ⟨rfl, h.stores⟩

/-- Twins make twin runs if the same is found with all related stores. -/
theorem Twins.run (h : Twins related m twin)
    (hn : ∀ store store' event, event.asked? = none → related store store' →
      related (store.note event) (store'.note event))
    (hc : ∀ store store' session program name reference arguments line, related store store' →
      ∃ result t t', related t t' ∧
        prepare world mode session store program name reference arguments line = (result, t) ∧
        prepare world' mode' session store' program name reference arguments line = (result, t'))
    (n : Nat) : Twins related (Machine.run world mode n m) (Machine.run world' mode' n twin) := by
  induction n with
  | zero => exact h
  | succ n ih =>
    rw [run_succ, run_succ]
    apply ih.step hn
    intro program name reference arguments line _
    exact hc _ _ _ program name reference arguments line ih.stores

end Twins

end DocScript.Machine
