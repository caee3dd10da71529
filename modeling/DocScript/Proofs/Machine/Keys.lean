import DocScript.Proofs.Location.Normal
import DocScript.Proofs.Machine.Loading
import DocScript.Proofs.Machine.Origins

/-! # Keys

The key of a document in a library is the URL or the path by which it has been loaded. From bases,
and as long as what comes from servers is known to be remote, the paths are absolute and normal, so
that references to one file have one key.
-/

namespace DocScript

/-- Whether a visit to a remote document, if something comes of it, is to a URL that is known to be
remote. -/
def Visit.IsKnown (visit : Visit) : Prop :=
  visit.entry?.isSome = true → ∀ url, visit.location = .remote url → Url.isRemote url = true

/-- Whether the keys in a library are URLs known to be remote and normal paths, and the programs
have bases as origins. -/
def Library.IsKeyed (library : Library) : Prop :=
  ∀ entry ∈ library.entries,
    (Url.isRemote entry.1 = true ∨ Path.IsNormal entry.1.toList) ∧ Location.IsBase entry.2.origin

namespace Machine

variable {world : World} {mode : Mode} {m : Machine} {program : Program} {location : Location}

/-- A machine with such a library, which has asked only for files with normal paths. -/
structure Keyed (machine : Machine) : Prop where
  library : machine.store.library.IsKeyed
  isBase : ∀ program ∈ machine.programs, Location.IsBase program.origin
  files : ∀ path, .file path ∈ machine.store.requests → Path.IsNormal path.toList

theorem Keyed.isNormal (h : m.Keyed) (hs : m.Seeks world mode program location) {path : String}
    (hl : location = .file path) : Path.IsNormal path.toList := by
  subst hl
  obtain ⟨text, line, hr⟩ := hs.exists_reference
  exact World.isNormal_fileOf ((h.isBase program hs.mem_programs).fileOf_eq hr)

/-- What comes of a call has a key and an origin as they are to be. -/
theorem Keyed.of_entry? (h : m.Keyed) (hs : m.Seeks world mode program location)
    (hk : Visit.IsKnown ⟨world, mode, location⟩) {entry : String × Program}
    (he : world.entry? location = some entry) :
    (Url.isRemote entry.1 = true ∨ Path.IsNormal entry.1.toList) ∧
      Location.IsBase entry.2.origin := by
  have hu := hk (Option.isSome_iff_exists.mpr ⟨entry, he⟩)
  obtain ⟨target, ht, rfl⟩ := Option.map_eq_some_iff.mp he
  obtain ⟨text, line, hr⟩ := hs.exists_reference
  have ha := (h.isBase program hs.mem_programs).isAbsolute hr
  constructor
  · cases location with
    | remote url => exact .inl (hu url rfl)
    | file path => exact .inr (h.isNormal hs rfl)
  · rw [World.origin_of_program? ht]
    exact ha.isBase_origin hu

theorem Keyed.step (h : m.Keyed)
    (hk : ∀ visit ∈ (step world mode m).visits world mode, visit.IsKnown) :
    (step world mode m).Keyed := by
  have hl : (Machine.step world mode m).store.library.IsKeyed := by
    rcases step_asks world mode m with hq | ⟨program, location, hs, ha⟩
    · rw [hq.library]
      exact h.library
    · intro entry he
      rw [ha.entries] at he
      rcases List.mem_append.mp he with he | he
      · exact h.library entry he
      · refine h.of_entry? hs (hk _ ?_) (Option.mem_toList.mp he)
        rw [visits, ha.requests, List.map_append]
        exact List.mem_append_right _ List.mem_cons_self
  refine ⟨hl, ?_, ?_⟩
  · intro target ht
    rcases step_programs world mode m ht with hm | ⟨key, hf⟩
    · exact h.isBase target hm
    · exact (hl _ (Library.mem_entries_of_find? hf)).2
  · intro path hp
    rcases step_asks world mode m with hq | ⟨program, location, hs, ha⟩
    · exact h.files path (hq.requests ▸ hp)
    · rw [ha.requests] at hp
      rcases List.mem_append.mp hp with hp | hp
      · exact h.files path hp
      · exact h.isNormal hs (List.mem_singleton.mp hp).symm

theorem Keyed.run (h : m.Keyed) {n : Nat}
    (hk : ∀ visit ∈ (run world mode n m).visits world mode, visit.IsKnown) :
    (run world mode n m).Keyed := by
  induction n with
  | zero => exact h
  | succ n ih =>
    rw [run_succ] at hk ⊢
    refine (ih fun visit hv => hk visit ?_).step hk
    obtain ⟨visits, he, -⟩ := step_grows world mode (Machine.run world mode n m)
    rw [he]
    exact List.mem_append_left visits hv

theorem keyed_start {library : Library} (hl : library.IsKeyed)
    (hb : Location.IsBase program.origin) (entry : String) (args : List Value) (session : Session)
    {store : Store} (hq : (⟨library, []⟩ : Store).Quiet store) :
    (start program entry args session store).Keyed := by
  have hs := hq.trans (quiet_start program entry args session store)
  refine ⟨hs.library ▸ hl, ?_, ?_⟩
  · intro other ho
    rwa [List.mem_singleton.mp (programs_start_subset program entry args session store ho)]
  · intro path hp
    rw [hs.requests] at hp
    cases hp

/-- What a call has as a reference to a file is to the one that it denotes. -/
theorem Keyed.ofReference_eq (h : m.Keyed) {name text : String} {arguments : List Expr}
    {line : Line} (hc : m.Calls program name (some text) arguments line)
    (ht : Url.isRemote text = false) (ho : Location.isRemote program.origin = false) :
    Location.ofReference world mode program.origin text line =
      Result.ofFault ((world.fileOf program.origin text).map .file) :=
  (h.isBase program (List.mem_of_mem_head? hc.head_programs)).ofReference_eq ho ht world mode line

end Machine

/-- The program of a script has the origin of the script, if it has one, and else the directory that
programs run in. -/
theorem Script.exists_base_of_program (s : Script) {world : World} {program : Program}
    (h : s.program world = .ok program) :
    ∃ base, Location.base world s.origin = .ok base ∧ program.origin = some base := by
  obtain ⟨parsed, -, h⟩ := Result.bind_eq_ok.mp h
  obtain ⟨base, hbase, h⟩ := Result.bind_eq_ok.mp h
  cases h
  exact ⟨base, Result.ofFault_eq_ok.mp hbase, rfl⟩

namespace Task

/-- What references in a task resolve against. -/
def origin : Task → Option String
  | .function program _ _ _ => program.origin
  | .script s => s.origin

theorem keyed_start (task : Task) (hb : Location.IsBase task.origin) (world : World)
    (session : Session) {library : Library} (hl : library.IsKeyed) :
    (task.start world session library).Keyed := by
  cases task with
  | function program entry args mode =>
    exact Machine.keyed_start hl hb entry args session (.refl _)
  | script s =>
    have hq := (⟨library, []⟩ : Store).quiet_dropped (Program.parse s.text).dropped
    simp only [start, Script.start]
    split
    · rename_i program hp
      obtain ⟨base, hbase, ho⟩ := s.exists_base_of_program hp
      have hb : Location.IsBase program.origin := ho ▸ hb.of_base hbase
      exact Machine.keyed_start hl hb s.entry s.args session hq
    · refine ⟨hq.library ▸ hl, List.forall_mem_nil _, fun path hp => ?_⟩
      rw [hq.requests] at hp
      cases hp

end Task

namespace Job

/-- Whether a job starts from a base, and all that comes from servers is known to be remote. -/
structure IsBased (library : Library) (job : Job) : Prop where
  isBase : Location.IsBase job.task.origin
  isKnown : ∀ visit ∈ job.visits library, visit.IsKnown

/-- Jobs that may not wait get nothing from servers. -/
theorem isBased_of_sync {job : Job} (hb : Location.IsBase job.task.origin)
    (hm : job.task.mode = .sync) (library : Library) : job.IsBased library := by
  refine ⟨hb, fun visit hv _ url hl => ?_⟩
  obtain ⟨location, -, rfl⟩ := List.mem_map.mp hv
  exact absurd (((job.grows library).proper _ hv url hl).1.symm.trans hm) nofun

theorem IsBased.keyed {library : Library} {job : Job} (h : job.IsBased library)
    (hl : library.IsKeyed) : (job.machine library).Keyed :=
  (job.task.keyed_start h.isBase job.world job.session hl).run h.isKnown

end Job

/-- Whether all jobs of a session are based, from some library on. -/
def AreBased (library : Library) : List Turn → Prop
  | [] => True
  | .run job :: rest => job.IsBased library ∧ AreBased (job.after library) rest
  | .reset :: rest => AreBased .empty rest

theorem areBased_append {turns turns' : List Turn} {library : Library} :
    AreBased library (turns ++ turns') ↔
      AreBased library turns ∧ AreBased (turns.foldl Turn.after library) turns' := by
  induction turns generalizing library with
  | nil => simp [AreBased]
  | cons turn rest ih =>
    cases turn with
    | run job =>
      rw [List.cons_append, AreBased, AreBased, ih, and_assoc]
      rfl
    | reset => exact ih

theorem isKeyed_empty : Library.empty.IsKeyed := nofun

theorem isKeyed_after {turns : List Turn} {library : Library} (h : AreBased library turns)
    (hl : library.IsKeyed) : (turns.foldl Turn.after library).IsKeyed := by
  induction turns generalizing library with
  | nil => exact hl
  | cons turn rest ih =>
    rw [List.foldl_cons]
    cases turn with
    | run job => exact ih h.2 (h.1.keyed hl).library
    | reset => exact ih h isKeyed_empty

theorem isNormal_of_mem_visitsOf {jobs : List Job} {library : Library}
    (h : AreBased library (jobs.map .run)) (hl : library.IsKeyed) :
    ∀ visit ∈ visitsOf library jobs, ∀ path, visit.location = .file path →
      Path.IsNormal path.toList := by
  induction jobs generalizing library with
  | nil => exact List.forall_mem_nil _
  | cons job rest ih =>
    have hk := h.1.keyed hl
    intro visit hv path hp
    rcases List.mem_append.mp hv with hv | hv
    · obtain ⟨location, hr, rfl⟩ := List.mem_map.mp hv
      exact hk.files path (hp ▸ hr)
    · exact ih h.2 hk.library visit hv path hp

/-- The file that a visit has loaded, if it has loaded one. -/
def Visit.loaded? (visit : Visit) : Option String :=
  if visit.entry?.isSome then visit.location.path? else none

theorem Library.Grows.nodup_loaded {library library' : Library} {visits : List Visit}
    (h : library.Grows visits library') : (visits.filterMap Visit.loaded?).Nodup := by
  rw [List.Nodup, List.pairwise_filterMap]
  refine h.once.imp ?_
  intro earlier later hk path hp path' hp'
  have hl {visit : Visit} {path : String} (h : visit.loaded? = some path) :
      visit.entry?.isSome = true ∧ visit.key = path := by
    unfold Visit.loaded? at h
    split at h
    · refine ⟨‹_›, ?_⟩
      unfold Visit.key
      cases hv : visit.location with
      | file found => exact Option.some.inj (by rwa [hv] at h)
      | remote url => rw [hv] at h; cases h
    · cases h
  rw [← (hl hp).2, ← (hl hp').2]
  exact hk (hl hp).1

/-- If the jobs of a session are based, files have absolute normal paths as their keys, and each
reference to a file has the key of the file that it denotes. Since the last reset no file has been
loaded twice then. -/
theorem files_keyed_by_path (turns : List Turn) (jobs : List Job)
    (h : AreBased .empty (turns ++ jobs.map .run)) :
    let library := turns.foldl Turn.after .empty
    let later := jobs.foldl Job.after library
    let visits := visitsOf library jobs
    (∀ key ∈ later.keys, Url.isRemote key = true ∨ Path.IsNormal key.toList) ∧
    (∀ visit ∈ visits, ∀ path, visit.location = .file path → Path.IsNormal path.toList) ∧
    (visits.filterMap Visit.loaded?).Nodup ∧
    ∀ job : Job, job.IsBased later → ∀ caller name text arguments line,
      (job.machine later).Calls caller name (some text) arguments line →
      Url.isRemote text = false → Location.isRemote caller.origin = false →
      Location.ofReference job.world job.task.mode caller.origin text line =
        Result.ofFault ((job.world.fileOf caller.origin text).map .file) := by
  intro library later visits
  obtain ⟨ht, hj⟩ := areBased_append.mp h
  have hl : library.IsKeyed := isKeyed_after ht isKeyed_empty
  have ha : later.IsKeyed := by
    have hk := isKeyed_after hj hl
    rwa [List.foldl_map] at hk
  refine ⟨?_, isNormal_of_mem_visitsOf hj hl, (grows_of_jobs jobs library).nodup_loaded, ?_⟩
  · intro key hk
    obtain ⟨entry, he, rfl⟩ := List.mem_map.mp hk
    exact (ha entry he).1
  · intro job hb caller name text arguments line hc hr ho
    exact (hb.keyed ha).ofReference_eq hc hr ho

section Example

/-- A world with two files, of which one calls a function of the other. -/
def linked : World where
  read path :=
    if path = "/v/a.md" then .ok "# f\n\n[](b.md#g)"
    else if path = "/v/b.md" then .ok "# g"
    else .error (.failed "missing")
  fetch _ := .ok ⟨404, ""⟩
  directory := .ok .root
  suspends := false

/-- A job that calls a function of a document from a base. -/
def calling (base function document : String) : Job where
  task := .function ⟨[⟨"main", [], [.call function (some document) [] (some 3)]⟩], some base⟩
    "main" [] .sync
  world := linked
  session := .start [] none
  steps := 20

/-- From two bases, one file is named in three ways and loaded once. -/
theorem keyed_from_two_bases :
    let jobs := [calling "/v" "f" "a.md", calling "/v/w" "g" "../b.md", calling "/" "g" "v/./b.md"]
    AreBased .empty ([] ++ jobs.map .run) ∧
      (visitsOf .empty jobs).filterMap Visit.loaded? = ["/v/a.md", "/v/b.md"] ∧
      ((visitsOf .empty jobs).filterMap Visit.loaded?).Nodup := by
  intro jobs
  have hbase {base : String} (h : Path.isAbsolute base.toList = true) (function document : String)
      (library : Library) : (calling base function document).IsBased library := by
    have hb : Location.IsBase (calling base function document).task.origin :=
      Location.isBase_of_isAbsolute h
    exact Job.isBased_of_sync hb rfl library
  have hb : AreBased .empty ([] ++ jobs.map .run) :=
    ⟨hbase rfl _ _ _, hbase rfl _ _ _, hbase rfl _ _ _, trivial⟩
  obtain ⟨-, -, hn, -⟩ := files_keyed_by_path [] jobs hb
  rw [List.foldl_nil] at hn
  exact ⟨hb, by decide +kernel, hn⟩

/-- A world with the same two documents at the root, where they are also found from the directory
that the root is. -/
def rooted : World where
  read path :=
    if path = "a.md" then .ok "# f\n\n[](b.md#g)"
    else if path = "b.md" ∨ path = "/b.md" then .ok "# g"
    else .error (.failed "missing")
  fetch _ := .ok ⟨404, ""⟩
  directory := .ok .root
  suspends := false

def strayed : Program where
  functions := [⟨"main", [],
    [.call "f" (some "a.md") [] (some 3), .call "g" (some "b.md") [] (some 5)]⟩]
  origin := some "."

/-- From a relative base, one file is loaded by two keys, of which one is relative. -/
theorem loaded_twice_from_relative_base :
    let ended := Machine.run rooted .sync 20
      (Machine.start strayed "main" [] (.start [] none) ⟨.empty, []⟩)
    rooted.fileOf strayed.origin "b.md" = .ok "/b.md" ∧ ended.failure?.isNone = true ∧
      ended.isRunning = false ∧ ended.reads = ["a.md", "/b.md", "b.md"] ∧
      ended.store.library.keys = ["a.md", "/b.md", "b.md"] ∧ ¬Path.IsNormal "b.md".toList := by
  refine ⟨rfl, by decide +kernel, by decide +kernel, by decide +kernel, by decide +kernel,
    fun h => ?_⟩
  exact absurd h.1 (by decide)

end Example

end DocScript
