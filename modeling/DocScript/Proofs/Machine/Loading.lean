import DocScript.Proofs.Machine.Stores
import DocScript.Script.Report

/-! # Loading

In a session, runs share a library while the documents outside may change between them. A document
that has been loaded is not asked for again, and its entry keeps its program and its place.
-/

namespace DocScript

/-- A request for a document, as the run makes it and the world is. -/
structure Visit where
  world : World
  mode : Mode
  location : Location

namespace Visit

def key (visit : Visit) : String := visit.location.key

/-- What a visit adds to a library. -/
def entry? (visit : Visit) : Option (String × Program) := visit.world.entry? visit.location

/-- Whether a visit that is to a remote document is one of a run that may wait, for a URL without a
fragment and with a path that ends as those of documents do. -/
def IsProper (visit : Visit) : Prop :=
  ∀ url, visit.location = .remote url → visit.mode = .async ∧ '#' ∉ url.toList ∧
    ∃ path, Url.path url.toList = .ok path ∧ Location.namesDocument path = true

theorem fst_of_entry? {visit : Visit} {entry : String × Program} (h : visit.entry? = some entry) :
    entry.1 = visit.key := by
  obtain ⟨program, -, rfl⟩ := Option.map_eq_some_iff.mp h
  rfl

end Visit

namespace Library

variable {library library' library'' : Library} {visits visits' : List Visit} {key : String}

/-- How a library grows by some visits: by what comes of them, in order. They are to documents that
are not there, and no two of them to one that has come. -/
structure Grows (library : Library) (visits : List Visit) (library' : Library) : Prop where
  entries : library'.entries = library.entries ++ visits.filterMap Visit.entry?
  missing : ∀ visit ∈ visits, library.find? visit.key = none
  once : visits.Pairwise fun earlier later => earlier.entry?.isSome → earlier.key ≠ later.key
  proper : ∀ visit ∈ visits, visit.IsProper

theorem find?_eq_none_iff : library.find? key = none ↔ key ∉ library.keys := by
  simp only [Library.find?, List.lookup_eq_none_iff, Library.keys, List.mem_map, not_exists,
    not_and, bne_iff_ne, ne_eq]
  exact forall₂_congr fun entry _ => not_congr eq_comm

theorem Grows.refl (library : Library) : library.Grows [] library where
  entries := by rw [List.filterMap_nil, List.append_nil]
  missing := List.forall_mem_nil _
  once := .nil
  proper := List.forall_mem_nil _

theorem Grows.find? (h : library.Grows visits library') (key : String) :
    library'.find? key =
      (library.find? key).or ((visits.filterMap Visit.entry?).lookup key) := by
  rw [Library.find?, h.entries, List.lookup_append]
  rfl

theorem Grows.find?_of_some (h : library.Grows visits library') {program : Program}
    (hf : library.find? key = some program) : library'.find? key = some program := by
  rw [h.find?, hf, Option.some_or]

theorem Grows.of_find? (h : library.Grows visits library') {program : Program}
    (hf : library'.find? key = some program) :
    library.find? key = some program ∨ ∃ visit ∈ visits, visit.entry? = some (key, program) := by
  rw [h.find?, Option.or_eq_some_iff] at hf
  rcases hf with hf | ⟨-, hf⟩
  · exact .inl hf
  · obtain ⟨before, after, he, -⟩ := List.lookup_eq_some_iff.mp hf
    have hm : (key, program) ∈ visits.filterMap Visit.entry? := by
      rw [he]
      exact List.mem_append_right before List.mem_cons_self
    exact .inr (List.mem_filterMap.mp hm)

theorem Grows.missing_of_missing (h : library.Grows visits library')
    (hf : library'.find? key = none) : library.find? key = none := by
  rw [h.find?, Option.or_eq_none_iff] at hf
  exact hf.1

/-- What has come of a visit is there afterwards. -/
theorem Grows.find?_ne_none (h : library.Grows visits library') {visit : Visit}
    (hv : visit ∈ visits) (he : visit.entry?.isSome = true) : library'.find? visit.key ≠ none := by
  obtain ⟨entry, he⟩ := Option.isSome_iff_exists.mp he
  have hm : entry ∈ library'.entries := by
    rw [h.entries]
    exact List.mem_append_right _ (List.mem_filterMap.mpr ⟨visit, hv, he⟩)
  rw [ne_eq, find?_eq_none_iff, not_not, ← Visit.fst_of_entry? he]
  exact List.mem_map_of_mem hm

theorem Grows.trans (h : library.Grows visits library') (h' : library'.Grows visits' library'') :
    library.Grows (visits ++ visits') library'' where
  entries := by rw [h'.entries, h.entries, List.filterMap_append, List.append_assoc]
  missing visit hv := by
    rcases List.mem_append.mp hv with hv | hv
    · exact h.missing visit hv
    · exact h.missing_of_missing (h'.missing visit hv)
  once := by
    refine List.pairwise_append.mpr ⟨h.once, h'.once, ?_⟩
    intro earlier he later hl hs hk
    -- What has come by the earlier visit is there, so that the later one would not be made.
    have hn := h.find?_ne_none he hs
    rw [hk] at hn
    exact hn (h'.missing later hl)
  proper visit hv := by
    rcases List.mem_append.mp hv with hv | hv
    · exact h.proper visit hv
    · exact h'.proper visit hv

theorem Grows.keys (h : library.Grows visits library') :
    library'.keys = library.keys ++ (visits.filterMap Visit.entry?).map Prod.fst := by
  rw [Library.keys, h.entries, List.map_append]
  rfl

theorem Grows.nodup (h : library.Grows visits library') (hn : library.keys.Nodup) :
    library'.keys.Nodup := by
  rw [h.keys]
  refine List.nodup_append.mpr ⟨hn, ?_, ?_⟩
  · rw [List.Nodup, List.pairwise_map, List.pairwise_filterMap]
    refine h.once.imp ?_
    intro earlier later hk entry he entry' he'
    rw [Visit.fst_of_entry? he, Visit.fst_of_entry? he']
    exact hk (Option.isSome_iff_exists.mpr ⟨entry, he⟩)
  · rintro key hk key' hk' rfl
    obtain ⟨entry, hm, rfl⟩ := List.mem_map.mp hk'
    obtain ⟨visit, hv, he⟩ := List.mem_filterMap.mp hm
    rw [Visit.fst_of_entry? he] at hk
    exact find?_eq_none_iff.mp (h.missing visit hv) hk

end Library

namespace Machine

variable {world : World} {mode : Mode} {m : Machine}

/-- The requests that a machine has made, in a world and a mode. -/
def visits (world : World) (mode : Mode) (machine : Machine) : List Visit :=
  machine.store.requests.map (⟨world, mode, ·⟩)

theorem isProper_of_seeks {program : Program} {location : Location}
    (h : m.Seeks world mode program location) : Visit.IsProper ⟨world, mode, location⟩ := by
  rintro url rfl
  obtain ⟨text, line, hl⟩ := h.exists_reference
  obtain ⟨hm, hf, -, hp⟩ := Location.ofReference_remote hl
  exact ⟨hm, hf, hp⟩

/-- A step visits at most one document, and adds what comes of it. -/
theorem step_grows (world : World) (mode : Mode) (m : Machine) :
    ∃ visits, (step world mode m).visits world mode = m.visits world mode ++ visits ∧
      m.store.library.Grows visits (step world mode m).store.library := by
  rcases step_asks world mode m with hq | ⟨program, location, hs, ha⟩
  · refine ⟨[], ?_, ?_⟩
    · rw [Machine.visits, hq.requests, List.append_nil]
      rfl
    · rw [hq.library]
      exact .refl _
  · refine ⟨[⟨world, mode, location⟩], ?_, ?_, ?_, ?_, ?_⟩
    · rw [Machine.visits, ha.requests, List.map_append]
      rfl
    · rw [ha.entries]
      cases he : world.entry? location <;> simp [Visit.entry?, he]
    · intro visit hv
      cases List.mem_singleton.mp hv
      exact ha.missing
    · exact List.pairwise_singleton ..
    · intro visit hv
      cases List.mem_singleton.mp hv
      exact isProper_of_seeks hs

theorem run_grows {library : Library} (hv : m.visits world mode = [])
    (hl : m.store.library = library) (n : Nat) :
    library.Grows ((run world mode n m).visits world mode) (run world mode n m).store.library := by
  induction n with
  | zero =>
    rw [run, hv, hl]
    exact .refl library
  | succ n ih =>
    obtain ⟨visits, he, hg⟩ := step_grows world mode (run world mode n m)
    rw [run_succ, he]
    exact ih.trans hg

end Machine

/-- What a session runs: a function of a program, or a script. -/
inductive Task where
  | function (program : Program) (entry : String) (args : List Value) (mode : Mode)
  | script (script : Script)

namespace Task

/-- Scripts may wait. -/
def mode : Task → Mode
  | .function _ _ _ mode => mode
  | .script _ => .async

def start (task : Task) (world : World) (session : Session) (library : Library) : Machine :=
  match task with
  | .function program entry args _ => Machine.start program entry args session ⟨library, []⟩
  | .script s => s.start world session library

theorem quiet_start (task : Task) (world : World) (session : Session) (library : Library) :
    (⟨library, []⟩ : Store).Quiet (task.start world session library).store := by
  cases task with
  | function program entry args mode => exact Machine.quiet_start ..
  | script s =>
    have hq := (⟨library, []⟩ : Store).quiet_dropped (Program.parse s.text).dropped
    simp only [start, Script.start]
    split
    · exact hq.trans (Machine.quiet_start ..)
    · exact hq

end Task

/-- A task that has been run for some steps, and how the world was in that time. -/
structure Job where
  task : Task
  world : World
  session : Session
  steps : Nat

namespace Job

/-- The machine that a job leaves. -/
def machine (job : Job) (library : Library) : Machine :=
  Machine.run job.world job.task.mode job.steps (job.task.start job.world job.session library)

/-- The library that a job leaves. -/
def after (library : Library) (job : Job) : Library := (job.machine library).store.library

/-- The requests of a job. -/
def visits (job : Job) (library : Library) : List Visit :=
  (job.machine library).visits job.world job.task.mode

theorem grows (job : Job) (library : Library) :
    library.Grows (job.visits library) (job.after library) := by
  have hq := job.task.quiet_start job.world job.session library
  refine Machine.run_grows ?_ hq.library job.steps
  rw [Machine.visits, hq.requests]
  rfl

end Job

/-- What happens in a session. -/
inductive Turn where
  | run (job : Job)
  | reset

/-- The library after a turn. -/
def Turn.after (library : Library) : Turn → Library
  | .run job => job.after library
  | .reset => .empty

/-- The requests of jobs that share a library. -/
def visitsOf (library : Library) : List Job → List Visit
  | [] => []
  | job :: rest => job.visits library ++ visitsOf (job.after library) rest

theorem grows_of_jobs (jobs : List Job) (library : Library) :
    library.Grows (visitsOf library jobs) (jobs.foldl Job.after library) := by
  induction jobs generalizing library with
  | nil => exact .refl library
  | cons job rest ih => exact (job.grows library).trans (ih (job.after library))

theorem nodup_after (turns : List Turn) {library : Library} (h : library.keys.Nodup) :
    (turns.foldl Turn.after library).keys.Nodup := by
  induction turns generalizing library with
  | nil => exact h
  | cons turn rest ih =>
    refine ih ?_
    cases turn with
    | run job => exact (job.grows library).nodup h
    | reset => exact List.nodup_nil

/-- Of the jobs since some moment of a session, without a reset, none asks for a document that is in
the library, or that has come since. What comes goes to the end of the library, the moment that it
is asked for, and what is there stays as it is. Remote documents are only asked for by proper
visits. -/
theorem documents_loaded_once (turns : List Turn) (jobs : List Job) :
    let library := turns.foldl Turn.after .empty
    let later := jobs.foldl Job.after library
    let visits := visitsOf library jobs
    (∀ visit ∈ visits, visit.key ∉ library.keys) ∧
    (visits.Pairwise fun visit next => visit.entry?.isSome → visit.key ≠ next.key) ∧
    later.entries = library.entries ++ visits.filterMap Visit.entry? ∧
    later.keys.Nodup ∧
    (∀ key program, library.find? key = some program → later.find? key = some program) ∧
    (∀ key program, later.find? key = some program → library.find? key = some program ∨
      ∃ visit ∈ visits, visit.key = key ∧ ∃ text, visit.world.text? visit.location = some text ∧
        ∃ parsed, (Program.parse text).program = .ok parsed ∧
          program = parsed.withOrigin (some visit.location.origin)) ∧
    (∀ visit ∈ visits, visit.IsProper) ∧
    ∀ job : Job,
      let now := (job.machine later).store
      let next := ({ job with steps := job.steps + 1 }.machine later).store
      now.Quiet next ∨ ∃ location, now.Asked job.world location next := by
  intro library later visits
  have hg : library.Grows visits later := grows_of_jobs jobs library
  have hn : library.keys.Nodup := nodup_after turns List.nodup_nil
  refine ⟨?_, hg.once, hg.entries, hg.nodup hn, ?_, ?_, hg.proper, ?_⟩
  · intro visit hv
    exact Library.find?_eq_none_iff.mp (hg.missing visit hv)
  · intro key program hf
    exact hg.find?_of_some hf
  · intro key program hf
    rcases hg.of_find? hf with hf | ⟨visit, hv, he⟩
    · exact .inl hf
    · obtain ⟨found, hp, hk⟩ := Option.map_eq_some_iff.mp he
      cases hk
      exact .inr ⟨visit, hv, rfl, World.exists_text_of_program? hp⟩
  · intro job now next
    have hs : next = (Machine.step job.world job.task.mode (job.machine later)).store :=
      congrArg Machine.store (Machine.run_succ ..)
    rw [hs]
    rcases Machine.step_asks job.world job.task.mode (job.machine later) with
      hq | ⟨-, location, -, ha⟩
    · exact .inl hq
    · exact .inr ⟨location, ha⟩

end DocScript
