import DocScript.Proofs.Machine.Stores

/-! # Origins

In a library that agrees with a world, each document is what comes of loading its key there. From a
base, runs keep it so, and have only origins that are bases again. A remote document has its own URL
as its origin then, so that all its references are to remote documents and it can have no file read.
-/

namespace DocScript

namespace World

variable {world : World} {location : Location} {program : Program}

/-- Whether servers have documents only at URLs of the schemes by which references are known to be
remote. -/
def ServesOnlyUrls (world : World) : Prop :=
  ∀ url response, world.fetch url = .ok response → response.isGood = true →
    Url.isRemote url = true

theorem ServesOnlyUrls.of_text? (hw : world.ServesOnlyUrls) {url text : String}
    (h : world.text? (.remote url) = some text) : Url.isRemote url = true := by
  simp only [text?] at h
  split at h
  · rename_i response hr
    split at h
    · exact hw url response hr ‹_›
    · cases h
  · cases h

theorem ServesOnlyUrls.of_program? (hw : world.ServesOnlyUrls)
    (h : world.program? location = some program) :
    ∀ url, location = .remote url → Url.isRemote url = true := by
  rintro url rfl
  obtain ⟨text, ht, -⟩ := exists_text_of_program? h
  exact hw.of_text? ht

end World

namespace Library

variable {library : Library} {world : World} {key : String} {program : Program}

/-- Whether each entry is what comes of loading a URL or an absolute path that is its key. -/
def Agrees (library : Library) (world : World) : Prop :=
  ∀ entry ∈ library.entries, ∃ location : Location,
    location.IsAbsolute ∧ world.entry? location = some entry

theorem agrees_empty (world : World) : Library.empty.Agrees world := nofun

theorem Agrees.find? (h : library.Agrees world) (hf : library.find? key = some program) :
    ∃ location : Location, location.IsAbsolute ∧ location.key = key ∧
      world.program? location = some program := by
  obtain ⟨location, ha, hl⟩ := h _ (mem_entries_of_find? hf)
  obtain ⟨found, hp, hk⟩ := Option.map_eq_some_iff.mp hl
  cases hk
  exact ⟨location, ha, rfl, hp⟩

/-- The entry at the key of a location that a reference names comes from that location. -/
theorem Agrees.program?_eq (h : library.Agrees world) (hw : world.ServesOnlyUrls) {mode : Mode}
    {origin : Option String} {reference : String} {line : Line} {location : Location}
    (hl : Location.ofReference world mode origin reference line = .ok location)
    (hf : library.find? location.key = some program) :
    world.program? location = some program := by
  obtain ⟨other, ha, hk, hp⟩ := h.find? hf
  rwa [← Location.eq_of_key_eq hl ha (hw.of_program? hp) hk]

end Library

namespace Store

variable {world : World} {mode : Mode} {store store' : Store} {program target : Program}
  {reference : Option String} {text : String} {line : Line} {location : Location}

theorem Asked.agrees (h : store.Asked world location store') (ha : location.IsAbsolute)
    (hl : store.library.Agrees world) : store'.library.Agrees world := by
  intro entry he
  rw [h.entries] at he
  rcases List.mem_append.mp he with hs | hn
  · exact hl entry hs
  · exact ⟨location, ha, Option.mem_toList.mp hn⟩

/-- Loading a document gives what comes of it in the world, also if it is in the library. -/
theorem program?_of_load (ha : store.library.Agrees world) (hw : world.ServesOnlyUrls)
    (hl : Location.ofReference world mode program.origin text line = .ok location)
    (h : store.load world text location line = (.ok target, store')) :
    world.program? location = some target := by
  cases hf : store.library.find? location.key with
  | some found =>
    rw [load_of_found hf] at h
    cases h
    exact ha.program?_eq hw hl hf
  | none =>
    have hp := (load_of_missing world text line hf).2
    rw [h] at hp
    exact hp.symm

end Store

namespace Machine

variable {world : World} {mode : Mode} {m : Machine} {caller target : Program} {url : String}

/-- A machine whose library agrees with a world, and whose programs have bases as origins. -/
structure Based (world : World) (machine : Machine) : Prop where
  agrees : machine.store.library.Agrees world
  isBase : ∀ program ∈ machine.programs, Location.IsBase program.origin

theorem Based.step (h : m.Based world) (hw : world.ServesOnlyUrls) :
    (step world mode m).Based world := by
  have ha : (Machine.step world mode m).store.library.Agrees world := by
    rcases step_asks world mode m with hq | ⟨program, location, hs, ha⟩
    · rw [hq.library]
      exact h.agrees
    · have hb := h.isBase program hs.mem_programs
      obtain ⟨text, line, hl⟩ := hs.exists_reference
      exact ha.agrees (hb.isAbsolute hl) h.agrees
  constructor
  · exact ha
  · intro program hp
    -- Programs come from the library after the step, which has the one of the call already.
    rcases step_programs world mode m hp with hm | ⟨key, hk⟩
    · exact h.isBase program hm
    · obtain ⟨location, hl, -, hp⟩ := ha.find? hk
      rw [World.origin_of_program? hp]
      exact hl.isBase_origin (hw.of_program? hp)

theorem Based.run (h : m.Based world) (hw : world.ServesOnlyUrls) (n : Nat) :
    (run world mode n m).Based world := by
  apply run_preserves h
  intro k _ hn
  exact hn.step hw

theorem based_start {program : Program} (hb : Location.IsBase program.origin) (entry : String)
    (args : List Value) (session : Session) {store : Store} (ha : store.library.Agrees world) :
    (start program entry args session store).Based world := by
  constructor
  · rw [(quiet_start program entry args session store).library]
    exact ha
  · intro other ho
    have hs := programs_start_subset program entry args session store ho
    rwa [List.mem_singleton.mp hs]

/-- Whether the next step is a call by which a program is obtained from a URL. -/
def Obtains (world : World) (machine : Machine) (url : String) (target : Program) : Prop :=
  ∃ caller name text arguments line store,
    machine.Calls caller name (some text) arguments line ∧ text ≠ "" ∧
    Location.ofReference world .async caller.origin text line = .ok (.remote url) ∧
    machine.store.load world text (.remote url) line = (.ok target, store)

theorem Based.obtained (h : m.Based world) (hw : world.ServesOnlyUrls)
    (ho : m.Obtains world url target) :
    Url.isRemote url = true ∧ target.origin = some url ∧
      (Machine.step world .async m).store.library.find? url = some target := by
  obtain ⟨caller, name, text, arguments, line, store, hc, hn, hl, ht⟩ := ho
  have hp := Store.program?_of_load h.agrees hw hl ht
  refine ⟨hw.of_program? hp url rfl, World.origin_of_program? hp, ?_⟩
  rw [(hc.quiet_step world .async).library, prepare_store_async, Store.resolve_of_located hn hl, ht]
  exact Store.load_eq_ok ht

/-- A step reads at most one file, if it is a call of a program that is not remote. -/
theorem step_reads (world : World) (m : Machine) :
    (step world .async m).reads = m.reads ∨ ∃ caller path,
      m.Seeks world .async caller (.file path) ∧ Location.isRemote caller.origin = false ∧
      (step world .async m).reads = m.reads ++ [path] := by
  simp only [reads, Store.reads_eq]
  rcases step_asks world .async m with hq | ⟨caller, location, hs, ha⟩
  · left
    rw [hq.requests]
  · rw [ha.requests, List.filterMap_append]
    cases location with
    | remote url => exact .inl (List.append_nil _)
    | file path =>
      obtain ⟨text, line, hl⟩ := hs.exists_reference
      exact .inr ⟨caller, path, hs, (Location.ofReference_file hl).2.1, rfl⟩

/-- What is obtained from a URL has it as its origin and its key, and has no file read while it is
on top. Files are read only by calls in programs that do not come from a URL. -/
theorem remote_programs_read_nothing (hw : world.ServesOnlyUrls) {program : Program}
    (hb : Location.IsBase program.origin) (entry : String) (args : List Value)
    (session : Session) (events : List Event) :
    let moment n := run world .async n (start program entry args session ⟨.empty, events⟩)
    (∀ n url target, (moment n).Obtains world url target →
      Url.isRemote url = true ∧ target.origin = some url ∧
      (moment (n + 1)).store.library.find? url = some target ∧
      ∀ k, (moment k).programs.head? = some target →
        (moment (k + 1)).reads = (moment k).reads) ∧
    ∀ n, (moment (n + 1)).reads = (moment n).reads ∨
      ∃ caller path, (moment n).programs.head? = some caller ∧
        (moment n).Seeks world .async caller (.file path) ∧
        Location.isRemote caller.origin = false ∧
        (moment (n + 1)).reads = (moment n).reads ++ [path] := by
  intro moment
  have hs : ∀ n, moment (n + 1) = step world .async (moment n) := fun n => run_succ ..
  have hm : ∀ n, (moment n).Based world :=
    (based_start hb entry args session (Library.agrees_empty world)).run hw
  constructor
  · intro n url target ho
    obtain ⟨hu, ht, hf⟩ := (hm n).obtained hw ho
    rw [hs n]
    refine ⟨hu, ht, hf, fun k hk => ?_⟩
    rw [hs k]
    rcases step_reads world (moment k) with he | ⟨caller, path, hc, hr, -⟩
    · exact he
    · cases hc.head_programs.symm.trans hk
      rw [ht, show Location.isRemote (some url) = true from hu] at hr
      cases hr
  · intro n
    rw [hs n]
    rcases step_reads world (moment n) with he | ⟨caller, path, hc, hr, he⟩
    · exact .inl he
    · exact .inr ⟨caller, path, hc.head_programs, hc, hr, he⟩

section Example

/-- A world in which every file is there, and one remote document, which calls a function of the
file at an absolute path. -/
def baited : World where
  read _ := .ok "# g"
  fetch url :=
    if url = "http://h/a.md" then .ok ⟨200, "# f\n\n[](/etc/secret.md#g)"⟩ else .ok ⟨404, ""⟩
  directory := .ok .root
  suspends := false

def visitor : Program where
  functions := [⟨"main", [], [.call "f" (some "http://h/a.md#f") [] (some 3)]⟩]
  origin := none

theorem servesOnlyUrls_baited : baited.ServesOnlyUrls := by
  intro url response h hg
  simp only [baited] at h
  split at h
  · rename_i hu
    rw [hu]
    decide +kernel
  · cases h
    cases hg

/-- The visitor before its first step. -/
def visiting : Machine := start visitor "main" [] (.start [] none) ⟨.empty, []⟩

theorem obtains_visiting : ∃ target, visiting.Obtains baited "http://h/a.md" target := by
  have hl : Location.ofReference baited .async visitor.origin "http://h/a.md#f" (some 3) =
      .ok (.remote "http://h/a.md") := by
    rw [Location.ofReference, if_pos (by decide +kernel)]
    rfl
  have ho : (visiting.store.load baited "http://h/a.md#f" (.remote "http://h/a.md")
      (some 3)).1.toOption.isSome = true := by decide +kernel
  rcases h : visiting.store.load baited "http://h/a.md#f" (.remote "http://h/a.md") (some 3) with
    ⟨failure | target, store⟩
  · rw [h] at ho
    cases ho
  · exact ⟨target, visitor, "f", _, [], some 3, store, ⟨rfl, rfl⟩, by decide, hl, h⟩

/-- The absolute path in the remote document names another remote document. -/
theorem visitor_reads_nothing :
    baited.ServesOnlyUrls ∧ Location.IsBase visitor.origin ∧
    (run baited .async 4 visiting).fetches = ["http://h/a.md", "http://h/etc/secret.md"] ∧
    ∃ target, visiting.Obtains baited "http://h/a.md" target ∧
      target.origin = some "http://h/a.md" ∧
      ∀ k, (run baited .async k visiting).programs.head? = some target →
        (run baited .async (k + 1) visiting).reads = (run baited .async k visiting).reads := by
  have hw := servesOnlyUrls_baited
  have hb : Location.IsBase visitor.origin := Location.isBase_none
  obtain ⟨target, ho⟩ := obtains_visiting
  obtain ⟨h, -⟩ := remote_programs_read_nothing hw hb "main" [] (.start [] none) []
  obtain ⟨-, ht, -, hr⟩ := h 0 "http://h/a.md" target ho
  exact ⟨hw, hb, by decide +kernel, target, ho, ht, hr⟩

end Example

end Machine

end DocScript
