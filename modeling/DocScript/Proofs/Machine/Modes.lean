import DocScript.Proofs.Machine.Stores

/-! # Modes

A run that may not wait goes like one that may, up to the first call that refers to a remote
document. There it fails, even if the document is in the library.
-/

namespace DocScript

namespace Location

variable {world : World} {mode : Mode} {origin : Option String} {reference : String} {line : Line}
  {chars : List Char}

/-- Whether a reference in a document of some origin is to a remote document. -/
def IsToRemote (origin : Option String) (reference : String) : Prop :=
  Url.isRemote reference = true ∨ isRemote origin = true

theorem ofReference_of_local (h : ¬ IsToRemote origin reference) :
    ofReference world mode origin reference line =
      Result.ofFault ((base world origin).map fun base => ofFile base reference) := by
  rw [ofReference, if_neg]
  rwa [Bool.or_eq_true]

theorem ofReference_sync (h : IsToRemote origin reference)
    (hu : urlOf origin reference = .ok chars) :
    ofReference world .sync origin reference line =
      .error ((Cause.remoteNeedsSuspension (String.ofList chars)).failure line) := by
  rw [ofReference, if_pos (Bool.or_eq_true .. |>.mpr h), ofUrl, hu]
  rfl

end Location

namespace Machine

variable {world : World} {m : Machine} {program : Program} {reference : String} {line : Line}
  {chars : List Char}

/-- Whether the next step is a call that refers to a remote document. -/
def CallsRemote (machine : Machine) (program : Program) (reference : String) (line : Line) : Prop :=
  ∃ name arguments, machine.Calls program name (some reference) arguments line ∧
    reference ≠ "" ∧ Location.IsToRemote program.origin reference

theorem prepare_of_local (hw : world.suspends = false) {reference : Option String}
    (h : ∀ text, reference = some text → text ≠ "" → ¬ Location.IsToRemote program.origin text)
    (session : Session) (store : Store) (name : String) (arguments : List Expr) (line : Line) :
    prepare world .sync session store program name reference arguments line =
      prepare world .async session store program name reference arguments line := by
  have hr : store.resolve world .sync program name reference line =
      store.resolve world .async program name reference line := by
    unfold Store.resolve
    split
    · rfl
    · rename_i text ht
      obtain ⟨hr, hn⟩ := Option.filter_eq_some_iff.mp ht
      have hl := h text hr (by simpa using hn)
      rw [Location.ofReference_of_local hl, Location.ofReference_of_local hl]
  simp only [prepare, hw, hr, Bool.and_false]

theorem prepare_sync (hw : world.suspends = false) (hn : reference ≠ "")
    (hr : Location.IsToRemote program.origin reference)
    (hu : Location.urlOf program.origin reference = .ok chars) (session : Session)
    (store : Store) (name : String) (arguments : List Expr) (line : Line) :
    prepare world .sync session store program name (some reference) arguments line =
      (.error ((Cause.remoteNeedsSuspension (String.ofList chars)).failure line), store) := by
  have hf : (some reference).filter (· ≠ "") = some reference := by
    simpa using hn
  simp only [prepare, hw, Store.resolve, hf, Location.ofReference_sync hr hu, Bool.and_false]
  rfl

/-- A step that is no call to a remote document is the same in both modes. -/
theorem step_sync_eq_async (hw : world.suspends = false)
    (h : ∀ program reference line, ¬ m.CallsRemote program reference line) :
    step world .sync m = step world .async m := by
  rcases m.calls_or_plain with ⟨program, name, reference, arguments, line, hc⟩ | ⟨after, hp⟩
  · have hl : ∀ text, reference = some text → text ≠ "" →
        ¬ Location.IsToRemote program.origin text := by
      rintro text rfl hn hr
      exact h program text line ⟨name, arguments, hc, hn, hr⟩
    have hp := prepare_of_local hw hl m.session m.store name arguments line
    obtain ⟨caller, later, outer, hs⟩ := hc.exists_step
    have hm : m.withStore m.store = m := rfl
    rw [← hm, hs, hs, hp]
  · rw [hp.step_eq, hp.step_eq]

theorem CallsRemote.step_sync (h : m.CallsRemote program reference line)
    (hw : world.suspends = false)
    (hu : Location.urlOf program.origin reference = .ok chars) :
    step world .sync m =
      m.fail ((Cause.remoteNeedsSuspension (String.ofList chars)).failure line) := by
  obtain ⟨name, arguments, hc, hn, hr⟩ := h
  obtain ⟨caller, later, outer, hs⟩ := hc.exists_step
  have hm : m.withStore m.store = m := rfl
  rw [← hm, hs, prepare_sync hw hn hr hu]
  rfl

/-- A step that may not wait fetches nothing. -/
theorem fetches_step_sync (world : World) (m : Machine) :
    (step world .sync m).fetches = m.fetches := by
  simp only [fetches, Store.fetches_eq]
  rcases step_asks world .sync m with hq | ⟨program, location, hs, ha⟩
  · rw [hq.requests]
  · obtain ⟨text, line, hl⟩ := hs.exists_reference
    rw [ha.requests, List.filterMap_append]
    cases location with
    | file path => exact List.append_nil _
    | remote url => cases (Location.ofReference_remote hl).1

section Runs

variable {n : Nat}

theorem run_sync_eq_async (hw : world.suspends = false)
    (h : ∀ k < n, ∀ program reference line,
      ¬ (run world .async k m).CallsRemote program reference line) :
    run world .sync n m = run world .async n m := by
  induction n with
  | zero => rfl
  | succ n ih =>
    have he := ih fun k hk => h k (Nat.lt_succ_of_lt hk)
    rw [run_succ, run_succ, he]
    exact step_sync_eq_async hw (h n (Nat.lt_succ_self n))

theorem run_of_ended {mode : Mode} {k : Nat} (h : (run world mode n m).status ≠ .running)
    (hk : n ≤ k) : run world mode k m = run world mode n m := by
  induction hk with
  | refl => rfl
  | step hk ih =>
    rw [run_succ, ih]
    exact step_of_ended h

theorem fetches_run_sync (world : World) (n : Nat) (m : Machine) :
    (run world .sync n m).fetches = m.fetches := by
  induction n with
  | zero => rfl
  | succ n ih => rw [run_succ, fetches_step_sync, ih]

end Runs

/-- As long as no call refers to a remote document, runs of both modes are the same. At the first
one that does, a run that may not wait fails with what it has done so far, whatever is in the
library. It never fetches anything. -/
theorem sync_run_follows_async (hw : world.suspends = false) (program : Program) (entry : String)
    (args : List Value) (session : Session) (library : Library) :
    let started := start program entry args session ⟨library, []⟩
    (∀ n, (∀ k < n, ∀ caller reference line,
        ¬ (run world .async k started).CallsRemote caller reference line) →
      run world .sync n started = run world .async n started ∧
      ∀ caller reference line chars,
        (run world .async n started).CallsRemote caller reference line →
        Location.urlOf caller.origin reference = .ok chars →
        ∀ k > n, run world .sync k started = (run world .async n started).fail
          ((Cause.remoteNeedsSuspension (String.ofList chars)).failure line)) ∧
    ∀ n, (run world .sync n started).fetches = [] := by
  intro started
  constructor
  · intro n h
    have he := run_sync_eq_async hw h
    refine ⟨he, fun caller reference line chars hc hu k hk => ?_⟩
    have hs := hc.step_sync hw hu
    rw [← he, ← run_succ, he] at hs
    have hf : (run world .sync (n + 1) started).status ≠ .running := by
      rw [hs]
      nofun
    rw [run_of_ended hf hk, hs]
  · intro n
    have hq := (quiet_start program entry args session ⟨library, []⟩).requests
    rw [fetches_run_sync, fetches, Store.fetches_eq, hq]
    rfl

section Example

/-- A document that prints and then calls a function of a remote one. -/
def importing : Program where
  functions := [⟨"main", [], [.print (.expr (.literal (.bool true) "true")) (some 3),
    .call "f" (some "http://h/a.md#f") [] (some 5)]⟩]
  origin := none

def imported : Program where
  functions := [⟨"f", [], []⟩]
  origin := some "http://h/a.md"

/-- A world in which nothing is found. -/
def barren : World where
  read _ := .error (.failed "missing")
  fetch _ := .error (.failed "missing")
  directory := .ok .root
  suspends := false

/-- The document before its first step, when the other one is in the library. -/
def importStarted : Machine :=
  start importing "main" [] (.start [] none) ⟨⟨[("http://h/a.md", imported)]⟩, []⟩

theorem callsRemote_importing :
    (run barren .async 1 importStarted).CallsRemote importing "http://h/a.md#f" (some 5) :=
  ⟨"f", [], ⟨rfl, rfl⟩, by decide, .inl (by decide +kernel)⟩

theorem urlOf_importing :
    Location.urlOf importing.origin "http://h/a.md#f" = .ok "http://h/a.md".toList := rfl

/-- In a run that may not wait, the call fails although the function is in the library. -/
theorem sync_run_of_importing :
    barren.suspends = false ∧ (run barren .async 1 importStarted).session.printed.length = 1 ∧
    (∀ k > 1, run barren .sync k importStarted = (run barren .async 1 importStarted).fail
      ((Cause.remoteNeedsSuspension "http://h/a.md").failure (some 5))) ∧
    (run barren .async 9 importStarted).failure?.isNone = true := by
  have hw : barren.suspends = false := rfl
  obtain ⟨h, -⟩ := sync_run_follows_async hw importing "main" [] (.start [] none)
    ⟨[("http://h/a.md", imported)]⟩
  have hf : ∀ k < 1, ∀ caller reference line,
      ¬ (run barren .async k importStarted).CallsRemote caller reference line := by
    rintro k hk caller reference line ⟨name, arguments, ⟨-, hn⟩, -⟩
    obtain rfl := Nat.lt_one_iff.mp hk
    cases hn
  have hs := (h 1 hf).2 _ _ _ _ callsRemote_importing urlOf_importing
  rw [String.ofList_toList] at hs
  exact ⟨hw, rfl, hs, by decide +kernel⟩

end Example

end Machine

end DocScript
