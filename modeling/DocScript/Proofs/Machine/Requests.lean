import DocScript.Machine.Run
import DocScript.Proofs.Location.Reference

/-! # Requests

A step asks for at most one document, which is one that is not in the library. If it comes and is
well-formed, it goes to the end of the library at once, and otherwise the library stays as it is.
-/

namespace DocScript

theorem Result.eq_ok_of_toOption {α : Type} {result : Result α} {a : α}
    (h : result.toOption = some a) : result = .ok a := by
  cases result with
  | ok b => exact congrArg Except.ok (Option.some.inj h)
  | error failure => cases h

/-- The location that an event is a request for. -/
def Event.asked? : Event → Option Location
  | .read path => some (.file path)
  | .fetch url => some (.remote url)
  | _ => none

namespace Location

def path? : Location → Option String
  | .file path => some path
  | .remote _ => none

def url? : Location → Option String
  | .file _ => none
  | .remote url => some url

end Location

namespace World

/-- The text at a location, if there is one. The answer of a server is one if it is good. -/
def text? (world : World) : Location → Option String
  | .file path => (world.read path).toOption
  | .remote url =>
    match world.fetch url with
    | .ok response => if response.isGood then some response.text else none
    | .error _ => none

/-- The program that comes of loading a location, if one does. -/
def program? (world : World) (location : Location) : Option Program :=
  (world.text? location).bind fun text =>
    ((Program.parse text).program.toOption).map (·.withOrigin (some location.origin))

/-- What loading a location adds to a library. -/
def entry? (world : World) (location : Location) : Option (String × Program) :=
  (world.program? location).map (location.key, ·)

variable {world : World} {location : Location} {program : Program}

theorem exists_text_of_program? (h : world.program? location = some program) :
    ∃ text, world.text? location = some text ∧
      ∃ parsed, (Program.parse text).program = .ok parsed ∧
        program = parsed.withOrigin (some location.origin) := by
  obtain ⟨text, ht, h⟩ := Option.bind_eq_some_iff.mp h
  obtain ⟨parsed, hp, rfl⟩ := Option.map_eq_some_iff.mp h
  exact ⟨text, ht, parsed, Result.eq_ok_of_toOption hp, rfl⟩

theorem origin_of_program? (h : world.program? location = some program) :
    program.origin = some location.origin := by
  obtain ⟨-, -, parsed, -, rfl⟩ := exists_text_of_program? h
  rfl

end World

namespace Library

variable {library : Library} {key : String} {program : Program}

theorem mem_entries_of_find? (h : library.find? key = some program) :
    (key, program) ∈ library.entries := by
  obtain ⟨before, after, he, -⟩ := List.lookup_eq_some_iff.mp h
  rw [he]
  exact List.mem_append_right before List.mem_cons_self

theorem insert_of_missing (h : library.find? key = none) :
    (library.insert key program).entries = library.entries ++ [(key, program)] := by
  obtain ⟨entries⟩ := library
  simp only [insert]
  induction entries with
  | nil => rfl
  | cons entry rest ih =>
    obtain ⟨taken, other⟩ := entry
    rw [find?, List.lookup_cons] at h
    split at h
    · cases h
    · rename_i hk
      have hne : ¬taken = key := by
        rintro rfl
        simp at hk
      rw [insert.put, if_neg hne, ih h, List.cons_append]

end Library

namespace Store

variable {world : World} {mode : Mode} {store store' : Store} {reference : String}
  {location : Location} {line : Line}

/-- The requests of a run in order. -/
def requests (store : Store) : List Location := store.log.filterMap Event.asked?

theorem reads_eq (store : Store) :
    store.log.filterMap Event.read? = store.requests.filterMap Location.path? := by
  rw [requests, List.filterMap_filterMap]
  congr 1
  funext event
  cases event <;> rfl

theorem fetches_eq (store : Store) :
    store.log.filterMap Event.fetched? = store.requests.filterMap Location.url? := by
  rw [requests, List.filterMap_filterMap]
  congr 1
  funext event
  cases event <;> rfl

theorem requests_note (store : Store) (event : Event) :
    (store.note event).requests = store.requests ++ event.asked?.toList := by
  simp only [requests, log, note, List.reverse_cons, List.filterMap_append]
  cases h : event.asked? <;> simp [h]

@[simp] theorem requests_withLibrary (store : Store) (library : Library) :
    { store with library : Store }.requests = store.requests := rfl

/-- A store that has got the same requests and the same library. -/
structure Quiet (store store' : Store) : Prop where
  requests : store'.requests = store.requests
  library : store'.library = store.library

/-- A store after one more request, for a document that was not there. -/
structure Asked (world : World) (location : Location) (store store' : Store) : Prop where
  missing : store.library.find? location.key = none
  requests : store'.requests = store.requests ++ [location]
  entries : store'.library.entries = store.library.entries ++ (world.entry? location).toList

theorem Quiet.refl (store : Store) : store.Quiet store := ⟨rfl, rfl⟩

theorem Quiet.trans {store₁ store₂ store₃ : Store} (h : store₁.Quiet store₂)
    (h' : store₂.Quiet store₃) : store₁.Quiet store₃ :=
  ⟨h'.requests.trans h.requests, h'.library.trans h.library⟩

theorem Asked.quiet {store₁ store₂ store₃ : Store} (h : store₁.Asked world location store₂)
    (h' : store₂.Quiet store₃) : store₁.Asked world location store₃ :=
  ⟨h.missing, h'.requests.trans h.requests, (congrArg Library.entries h'.library).trans h.entries⟩

theorem quiet_note (store : Store) {event : Event} (h : event.asked? = none) :
    store.Quiet (store.note event) :=
  ⟨by rw [requests_note, h]; exact List.append_nil _, rfl⟩

theorem quiet_noteAll {events : List Event} (h : ∀ event ∈ events, event.asked? = none)
    (store : Store) : store.Quiet (store.noteAll events) := by
  induction events generalizing store with
  | nil => exact .refl store
  | cons event rest ih =>
    have hr := ih (fun other ho => h other (List.mem_cons_of_mem event ho)) (store.note event)
    exact (store.quiet_note (h event List.mem_cons_self)).trans hr

theorem quiet_dropped (store : Store) (headings : List DroppedHeading) :
    store.Quiet (store.noteAll (headings.map .dropped)) := by
  apply quiet_noteAll
  intro event h
  obtain ⟨heading, -, rfl⟩ := List.mem_map.mp h
  rfl

/-- Obtaining a text asks for its location, and gives the text that is there. -/
theorem obtain_spec (world : World) (reference : String) (location : Location) (line : Line)
    (store : Store) :
    (store.obtain world reference location line).2.library = store.library ∧
      (store.obtain world reference location line).2.requests = store.requests ++ [location] ∧
      (store.obtain world reference location line).1.toOption = world.text? location := by
  cases location with
  | file path =>
    have hq := requests_note store (.read path)
    simp only [obtain, readFile, World.text?]
    rcases world.read path with (_ | _) | text
    · exact ⟨rfl, hq, rfl⟩
    · exact ⟨rfl, hq, rfl⟩
    · exact ⟨rfl, (quiet_note _ rfl).requests.trans hq, rfl⟩
  | remote url =>
    have hq := requests_note store (.fetch url)
    simp only [obtain, fetchUrl, World.text?]
    rcases world.fetch url with (_ | _) | response
    · exact ⟨rfl, hq, rfl⟩
    · exact ⟨rfl, hq, rfl⟩
    · dsimp only
      split <;> exact ⟨rfl, hq, rfl⟩

theorem keep_spec (world : World) {text : String} {location : Location} {store : Store}
    (ht : world.text? location = some text) (h : store.library.find? location.key = none) :
    (store.keep location text).2.requests = store.requests ∧
      (store.keep location text).2.library.entries =
        store.library.entries ++ (world.entry? location).toList ∧
      (store.keep location text).1.toOption = world.program? location := by
  have hq := store.quiet_dropped (Program.parse text).dropped
  simp only [keep, World.entry?, World.program?, ht, Option.bind_some]
  cases (Program.parse text).program with
  | error failure => exact ⟨hq.requests, by simp [Except.toOption, hq.library], rfl⟩
  | ok program =>
    dsimp only
    rw [requests_withLibrary]
    rw [← hq.library] at h ⊢
    exact ⟨hq.requests, Library.insert_of_missing h, rfl⟩

theorem load_of_found {program : Program} (h : store.library.find? location.key = some program) :
    store.load world reference location line = (.ok program, store) := by
  rw [load, h]

/-- Loading a document that is not there asks for it, and gives the program that comes of it. -/
theorem load_of_missing (world : World) (reference : String) (line : Line)
    (h : store.library.find? location.key = none) :
    store.Asked world location (store.load world reference location line).2 ∧
      (store.load world reference location line).1.toOption = world.program? location := by
  obtain ⟨hl, hr, ht⟩ := store.obtain_spec world reference location line
  rw [load, h]
  dsimp only
  split
  · rename_i text store' ho
    rw [ho] at hl hr ht
    obtain ⟨hr', he, hp⟩ := keep_spec world ht.symm (hl ▸ h)
    exact ⟨⟨h, hr'.trans hr, he.trans (congrArg (·.entries ++ _) hl)⟩, hp⟩
  · rename_i failure store' ho
    rw [ho] at hl hr ht
    have hp : world.program? location = none := by rw [World.program?, ← ht]; rfl
    refine ⟨⟨h, hr, ?_⟩, hp.symm⟩
    rw [World.entry?, hp]
    simpa using congrArg Library.entries hl

theorem find?_of_entries_append {entries : List (String × Program)} {key : String}
    (h : store'.library.entries = store.library.entries ++ entries) :
    store'.library.find? key = (store.library.find? key).or (entries.lookup key) := by
  rw [Library.find?, h, List.lookup_append]
  rfl

theorem Asked.find?_key (h : store.Asked world location store') :
    store'.library.find? location.key = world.program? location := by
  rw [find?_of_entries_append h.entries, h.missing, World.entry?]
  cases world.program? location with
  | none => rfl
  | some program => exact List.lookup_cons_self

theorem Asked.find?_of_ne (h : store.Asked world location store') {key : String}
    (hk : key ≠ location.key) : store'.library.find? key = store.library.find? key := by
  rw [find?_of_entries_append h.entries, World.entry?]
  cases world.program? location with
  | none => exact Option.or_none
  | some program =>
    have hl : [(location.key, program)].lookup key = none := by
      rw [List.lookup_cons, beq_false_of_ne hk]
      rfl
    exact (congrArg _ hl).trans Option.or_none

/-- What has been loaded is in the library. -/
theorem load_eq_ok {program : Program}
    (h : store.load world reference location line = (.ok program, store')) :
    store'.library.find? location.key = some program := by
  cases hf : store.library.find? location.key with
  | some found =>
    rw [load_of_found hf] at h
    cases h
    exact hf
  | none =>
    obtain ⟨ha, hp⟩ := load_of_missing world reference line hf
    rw [h] at ha hp
    rw [ha.find?_key, ← hp]
    rfl

/-- Whether a call that stands in a program refers to a document at a location. -/
def Locates (world : World) (mode : Mode) (program : Program) (reference : Option String)
    (line : Line) (location : Location) : Prop :=
  ∃ text, reference = some text ∧ text ≠ "" ∧
    Location.ofReference world mode program.origin text line = .ok location

theorem resolve_of_located {text : String} (hn : text ≠ "") {program : Program}
    (hl : Location.ofReference world mode program.origin text line = .ok location) (name : String)
    (store : Store) :
    (store.resolve world mode program name (some text) line).2 =
      (store.load world text location line).2 := by
  have hf : (some text).filter (· ≠ "") = some text := by simpa using hn
  simp only [resolve, hf, hl]
  rcases store.load world text location line with ⟨failure | target, store'⟩
  · rfl
  · dsimp only
    split <;> rfl

section Resolve

variable {program : Program} {name : String} {reference : Option String}

/-- Finding a function asks for a document only if the call refers to one that is not there. -/
theorem resolve_asks (world : World) (mode : Mode) (program : Program) (name : String)
    (reference : Option String) (line : Line) (store : Store) :
    (store.resolve world mode program name reference line).2 = store ∨
      ∃ location, Locates world mode program reference line location ∧
        store.Asked world location (store.resolve world mode program name reference line).2 := by
  simp only [resolve]
  split
  · left
    split <;> rfl
  · rename_i text ht
    obtain ⟨hr, hn⟩ := Option.filter_eq_some_iff.mp ht
    split
    · exact .inl rfl
    · rename_i location hl
      cases hf : store.library.find? location.key with
      | some found =>
        left
        rw [load_of_found hf]
        dsimp only
        split <;> rfl
      | none =>
        right
        refine ⟨location, ⟨text, hr, by simpa using hn, hl⟩, ?_⟩
        have ha := (load_of_missing world text line hf).1
        split
        · rwa [‹store.load _ _ _ _ = _›] at ha
        · rw [‹store.load _ _ _ _ = _›] at ha
          split <;> exact ha

theorem resolve_target {target : Program} {function : Function}
    (h : store.resolve world mode program name reference line =
      (.ok (target, function), store')) :
    target = program ∨ ∃ key, store'.library.find? key = some target := by
  simp only [resolve] at h
  split at h
  · split at h <;> cases h
    exact .inl rfl
  · split at h
    · cases h
    · split at h
      · cases h
      · rename_i hl
        split at h <;> cases h
        exact .inr ⟨_, load_eq_ok hl⟩

end Resolve

end Store

namespace Machine

variable {world : World} {mode : Mode} {session : Session} {store store' : Store}
  {program target : Program} {name : String} {reference : Option String} {arguments : List Expr}
  {line : Line} {function : Function} {args : List Value}

theorem prepare_asks (world : World) (mode : Mode) (session : Session) (store : Store)
    (program : Program) (name : String) (reference : Option String) (arguments : List Expr)
    (line : Line) :
    (prepare world mode session store program name reference arguments line).2 = store ∨
      ∃ location, Store.Locates world mode program reference line location ∧
        store.Asked world location
          (prepare world mode session store program name reference arguments line).2 := by
  have hr := store.resolve_asks world mode program name reference line
  simp only [prepare]
  split
  · exact .inl rfl
  · split
    · rename_i he
      rwa [he] at hr
    · rename_i he
      rw [he] at hr
      split <;> exact hr

theorem prepare_store_async (world : World) (session : Session) (store : Store)
    (program : Program) (name : String) (reference : Option String) (arguments : List Expr)
    (line : Line) :
    (prepare world .async session store program name reference arguments line).2 =
      (store.resolve world .async program name reference line).2 := by
  have hm : (decide (Mode.async = Mode.sync) && world.suspends) = false := rfl
  simp only [prepare, hm]
  rcases store.resolve world .async program name reference line with
    ⟨failure | ⟨target, function⟩, store'⟩
  · rfl
  · dsimp only
    split
    · contradiction
    · split <;> rfl

/-- A call that has found something to run has found its function first, and then evaluated its
arguments. -/
theorem prepare_eq_ok (h : prepare world mode session store program name reference arguments line =
      (.ok (target, function, args), store')) :
    store.resolve world mode program name reference line = (.ok (target, function), store') ∧
      (arguments.mapM fun e => session.eval e line) = .ok args := by
  simp only [prepare] at h
  split at h
  · cases h
  · split at h
    · cases h
    · rename_i hr
      split at h <;> cases h
      exact ⟨hr, ‹_›⟩

theorem prepare_target (h : prepare world mode session store program name reference arguments line =
      (.ok (target, function, args), store')) :
    target = program ∨ ∃ key, store'.library.find? key = some target :=
  Store.resolve_target (prepare_eq_ok h).1

end Machine

end DocScript
