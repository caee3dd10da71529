import DocScript.Proofs.Machine.Requests

/-! # Finding functions

A call finds the function of its name, or fails by an error that is about finding functions and has
the line of the call. If the world is reliable, only two things make it fail by a fault: a reference
to a remote document that cannot be split into the parts of a URL, and a reference to a file from
nowhere while the directory that the program runs in is gone.
-/

namespace DocScript

/-- Whether a failure is an error at a line that is about finding functions. -/
def Failure.IsUnresolved (line : Line) (failure : Failure) : Prop :=
  ∃ cause : Cause, cause.kind = .resolution ∧ failure = cause.failure line

namespace Location

variable {world : World} {mode : Mode} {origin : Option String} {reference : String} {line : Line}
  {failure : Failure} {malformed : Url.Malformed} {fault : Fault}

/-- Whether a reference to a file stands nowhere, and there is no directory to resolve it
against. -/
structure IsDisplaced (world : World) (origin : Option String) (reference : String)
    (fault : Fault) : Prop where
  isLocal : (Url.isRemote reference || isRemote origin) = false
  origin : origin.filter (· ≠ "") = none
  directory : world.directory = .error fault

theorem IsDisplaced.ofReference_eq (h : IsDisplaced world origin reference fault) :
    ofReference world mode origin reference line = .error (.fault fault) := by
  simp only [ofReference, h.isLocal, base, h.origin, h.directory]
  rfl

/-- Whether a reference to a remote document cannot be split, when it is completed or when its path
is looked at. Only runs that may wait look at the path. -/
inductive IsUnsplittable (mode : Mode) (origin : Option String) (reference : String)
    (malformed : Url.Malformed) : Prop where
  | whole (h : urlOf origin reference = .error malformed)
  | path {url : List Char} (hm : mode = .async) (hu : urlOf origin reference = .ok url)
      (hp : Url.path url = .error malformed)

theorem ofUrl_error (h : ofUrl mode origin reference line = .error failure) :
    failure.IsUnresolved line ∨ ∃ malformed, IsUnsplittable mode origin reference malformed ∧
      failure = .fault (.badReference malformed.message) := by
  unfold ofUrl at h
  cases hu : urlOf origin reference with
  | error malformed =>
    rw [hu] at h
    cases h
    exact .inr ⟨malformed, .whole hu, rfl⟩
  | ok url =>
    rw [hu] at h
    cases mode with
    | sync =>
      cases h
      exact .inl ⟨_, rfl, rfl⟩
    | async =>
      cases hp : Url.path url with
      | error malformed =>
        simp only [ofMalformed, hp, bind, Except.bind, reduceCtorEq, if_false] at h
        cases h
        exact .inr ⟨malformed, .path rfl hu hp, rfl⟩
      | ok path =>
        simp only [ofMalformed, hp, bind, Except.bind, reduceCtorEq, if_false] at h
        split at h
        · cases h
          exact .inl ⟨_, rfl, rfl⟩
        · cases h

theorem IsUnsplittable.ofUrl_eq (h : IsUnsplittable mode origin reference malformed) :
    ofUrl mode origin reference line = .error (.fault (.badReference malformed.message)) := by
  cases h with
  | whole h =>
    rw [ofUrl, h]
    rfl
  | path hm hu hp =>
    rw [ofUrl, hu]
    simp [ofMalformed, hp, hm, bind, Except.bind]

/-- What a reference names if it does not name a location. -/
theorem ofReference_error (h : ofReference world mode origin reference line = .error failure) :
    failure.IsUnresolved line ∨
      ((Url.isRemote reference || isRemote origin) = true ∧
        ∃ malformed, IsUnsplittable mode origin reference malformed ∧
          failure = .fault (.badReference malformed.message)) ∨
      ∃ fault, IsDisplaced world origin reference fault ∧ failure = .fault fault := by
  unfold ofReference at h
  split at h
  · exact (ofUrl_error h).imp_right fun hu => .inl ⟨‹_›, hu⟩
  · rename_i hl
    refine .inr (.inr ?_)
    unfold base at h
    split at h
    · cases h
    · cases hd : world.directory with
      | ok directory => rw [hd] at h; cases h
      | error fault =>
        rw [hd] at h
        cases h
        exact ⟨fault, ⟨Bool.eq_false_iff.mpr hl, ‹_›, hd⟩, rfl⟩

end Location

/-- Whether files can be read or fail, servers answer or fail, and what comes from them is
well-formed. -/
structure World.IsReliable (world : World) : Prop where
  reads : ∀ path fault, world.read path ≠ .error (.fault fault)
  fetches : ∀ url fault, world.fetch url ≠ .error (.fault fault)
  parses : ∀ location text, world.text? location = some text →
    ∃ program, (Program.parse text).program = .ok program

namespace World

variable {world : World} {location : Location} {failure : Failure}

/-- Whether a failure is a fault that a world makes when a document is asked for. -/
def Faults (world : World) (failure : Failure) : Prop :=
  ∃ fault, failure = .fault fault ∧ ((∃ path, world.read path = .error (.fault fault)) ∨
    ∃ url, world.fetch url = .error (.fault fault))

/-- Whether a world has a text at a location, and reading it as a document fails. -/
def Misreads (world : World) (location : Location) (failure : Failure) : Prop :=
  ∃ text, world.text? location = some text ∧ (Program.parse text).program = .error failure

theorem IsReliable.not_faults (hw : world.IsReliable) : ¬ world.Faults failure := by
  rintro ⟨fault, -, ⟨path, h⟩ | ⟨url, h⟩⟩
  · exact hw.reads path fault h
  · exact hw.fetches url fault h

theorem IsReliable.not_misreads (hw : world.IsReliable) : ¬ world.Misreads location failure := by
  rintro ⟨text, ht, h⟩
  obtain ⟨program, hp⟩ := hw.parses location text ht
  cases hp.symm.trans h

end World

namespace Store

variable {world : World} {mode : Mode} {store : Store} {program : Program} {reference : String}
  {location : Location} {line : Line} {failure : Failure}

theorem obtain_error (h : (store.obtain world reference location line).1 = .error failure) :
    failure.IsUnresolved line ∨ world.Faults failure := by
  cases location with
  | file path =>
    simp only [obtain, readFile] at h
    split at h
    · cases h
    · cases h
      exact .inl ⟨_, rfl, rfl⟩
    · cases h
      exact .inr ⟨_, rfl, .inl ⟨path, ‹_›⟩⟩
  | remote url =>
    simp only [obtain, fetchUrl] at h
    split at h
    · split at h <;> cases h
      exact .inl ⟨_, rfl, rfl⟩
    · cases h
      exact .inl ⟨_, rfl, rfl⟩
    · cases h
      exact .inr ⟨_, rfl, .inr ⟨url, ‹_›⟩⟩

/-- Loading fails for want of a document, by a fault of the world, or by reading a document that is
not in the library. -/
theorem load_error (h : (store.load world reference location line).1 = .error failure) :
    failure.IsUnresolved line ∨ world.Faults failure ∨
      store.library.find? location.key = none ∧ world.Misreads location failure := by
  have ht := (store.obtain_spec world reference location line).2.2
  unfold load at h
  split at h
  · cases h
  · rename_i hf
    split at h
    · rename_i text store' ho
      rw [ho] at ht
      refine .inr (.inr ⟨hf, text, ht.symm, ?_⟩)
      unfold keep at h
      dsimp only at h
      split at h <;> cases h
      assumption
    · rename_i failure' store' ho
      cases h
      exact (obtain_error (congrArg Prod.fst ho)).imp_right .inl

/-- What comes of finding a function of some name for a call that stands in a program. Without a
reference the function is one of that program, and otherwise of the document at the location that
the reference names, which is in the library then. -/
inductive Finds (world : World) (mode : Mode) (program : Program) (name : String)
    (reference : Option String) (line : Line) (library : Library) :
    Result (Program × Function) → Prop where
  | own {function : Function} (hr : reference.filter (· ≠ "") = none)
      (hm : function ∈ program.functions) (hn : function.name = name) :
      Finds world mode program name reference line library (.ok (program, function))
  | other {location : Location} {target : Program} {function : Function}
      (hl : Locates world mode program reference line location)
      (hk : library.find? location.key = some target)
      (hm : function ∈ target.functions) (hn : function.name = name) :
      Finds world mode program name reference line library (.ok (target, function))
  | unresolved {failure : Failure} (h : failure.IsUnresolved line) :
      Finds world mode program name reference line library (.error failure)
  | refused {text : String} {malformed : Url.Malformed} (ht : reference = some text)
      (hr : (Url.isRemote text || Location.isRemote program.origin) = true)
      (hu : Location.IsUnsplittable mode program.origin text malformed) :
      Finds world mode program name reference line library
        (.error (.fault (.badReference malformed.message)))
  | displaced {text : String} {fault : Fault} (ht : reference = some text)
      (hd : Location.IsDisplaced world program.origin text fault) :
      Finds world mode program name reference line library (.error (.fault fault))

theorem mem_of_find? {name : String} {function : Function}
    (h : program.find? name = some function) :
    function ∈ program.functions ∧ function.name = name :=
  ⟨List.mem_of_find?_eq_some h, by simpa using List.find?_some h⟩

theorem finds_resolve (hw : world.IsReliable) (mode : Mode) (program : Program) (name : String)
    (reference : Option String) (line : Line) (store : Store) :
    Finds world mode program name reference line
      (store.resolve world mode program name reference line).2.library
      (store.resolve world mode program name reference line).1 := by
  simp only [resolve]
  split
  · rename_i hr
    split
    · rename_i function hf
      exact .own hr (mem_of_find? hf).1 (mem_of_find? hf).2
    · exact .unresolved ⟨_, rfl, rfl⟩
  · rename_i text ht
    obtain ⟨hr, hn⟩ := Option.filter_eq_some_iff.mp ht
    split
    · rename_i failure hl
      rcases Location.ofReference_error hl with hu | ⟨hm, malformed, hu, rfl⟩ | ⟨fault, hd, rfl⟩
      · exact .unresolved hu
      · exact .refused hr hm hu
      · exact .displaced hr hd
    · rename_i location hl
      split
      · rename_i failure store' he
        rcases load_error (congrArg Prod.fst he) with hu | hf | ⟨-, hm⟩
        · exact .unresolved hu
        · exact absurd hf hw.not_faults
        · exact absurd hm hw.not_misreads
      · rename_i target store' he
        split
        · rename_i function hf
          exact .other ⟨text, hr, by simpa using hn, hl⟩ (load_eq_ok he) (mem_of_find? hf).1
            (mem_of_find? hf).2
        · exact .unresolved ⟨_, rfl, rfl⟩

theorem resolve_of_unsplittable {text : String} {malformed : Url.Malformed} (hn : text ≠ "")
    (hr : (Url.isRemote text || Location.isRemote program.origin) = true)
    (hu : Location.IsUnsplittable mode program.origin text malformed) (name : String) :
    store.resolve world mode program name (some text) line =
      (.error (.fault (.badReference malformed.message)), store) := by
  have hf : (some text).filter (· ≠ "") = some text := by simpa using hn
  simp only [resolve, hf, Location.ofReference, hr, if_true, hu.ofUrl_eq]

theorem resolve_of_displaced {text : String} {fault : Fault} (hn : text ≠ "")
    (hd : Location.IsDisplaced world program.origin text fault) (name : String) :
    store.resolve world mode program name (some text) line = (.error (.fault fault), store) := by
  have hf : (some text).filter (· ≠ "") = some text := by simpa using hn
  simp only [resolve, hf, hd.ofReference_eq]

/-- Finding a function in a reliable world gives the function of that name, or an error that is
about finding functions and has the line of the call, or a fault if the reference cannot be split,
or if it has no directory to be resolved against. It is always a fault then, and nothing has been
loaded. -/
theorem resolve_finds_unless_refused (hw : world.IsReliable) (mode : Mode) (program : Program)
    (name : String) (reference : Option String) (line : Line) (store : Store) :
    let resolved := store.resolve world mode program name reference line
    Finds world mode program name reference line resolved.2.library resolved.1 ∧
      ∀ text, reference = some text → text ≠ "" →
        (∀ malformed, (Url.isRemote text || Location.isRemote program.origin) = true →
          Location.IsUnsplittable mode program.origin text malformed →
          resolved = (.error (.fault (.badReference malformed.message)), store)) ∧
        ∀ fault, Location.IsDisplaced world program.origin text fault →
          resolved = (.error (.fault fault), store) := by
  intro resolved
  refine ⟨finds_resolve hw mode program name reference line store, ?_⟩
  rintro text rfl hn
  exact ⟨fun _ hr hu => resolve_of_unsplittable hn hr hu name,
    fun _ hd => resolve_of_displaced hn hd name⟩

section Example

/-- A world in which every file has the same document, and no remote document is found. -/
def uniform : World where
  read _ := .ok "# g"
  fetch _ := .ok ⟨404, ""⟩
  directory := .ok .root
  suspends := false

theorem isReliable_uniform : uniform.IsReliable where
  reads _ _ := nofun
  fetches _ _ := nofun
  parses location text ht := by
    cases location with
    | file path =>
      cases ht
      have hp : (Program.parse "# g").program.toOption.isSome = true := by decide +kernel
      obtain ⟨program, hp⟩ := Option.isSome_iff_exists.mp hp
      exact ⟨program, Result.eq_ok_of_toOption hp⟩
    | remote url => cases ht

def bare : Program := ⟨[], none⟩

/-- A reference with a bracket that is not closed is refused by a fault without a line. -/
theorem resolve_unclosed_bracket :
    let store : Store := ⟨.empty, []⟩
    uniform.IsReliable ∧
      store.resolve uniform .async bare "f" (some "http://[x/b.md") (some 3) =
        (.error (.fault (.badReference "Invalid IPv6 URL")), store) := by
  intro store
  have hp : Url.path "http://[x/b.md".toList = .error .unbalancedBrackets := rfl
  have hu : Location.IsUnsplittable .async bare.origin "http://[x/b.md" .unbalancedBrackets :=
    .path rfl rfl hp
  have hr : (Url.isRemote "http://[x/b.md" || Location.isRemote bare.origin) = true := by
    decide +kernel
  have h : store.resolve uniform .async bare "f" (some "http://[x/b.md") (some 3) =
      (.error (.fault (.badReference Url.Malformed.unbalancedBrackets.message)), store) :=
    resolve_of_unsplittable (by decide) hr hu "f"
  exact ⟨isReliable_uniform, h⟩

theorem resolve_in_uniform :
    let resolved :=
      (⟨.empty, []⟩ : Store).resolve uniform .sync bare "g" (some "a.md") (some 3)
    uniform.IsReliable ∧ resolved.1.toOption.isSome = true ∧
      Finds uniform .sync bare "g" (some "a.md") (some 3) resolved.2.library resolved.1 :=
  ⟨isReliable_uniform, by decide +kernel,
    (resolve_finds_unless_refused isReliable_uniform ..).1⟩

end Example

end Store

end DocScript
