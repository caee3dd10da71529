import DocScript.Proofs.Location.Reference

/-! # Normal forms of paths

The normal form of a path is its own normal form: its steps are settled, so that taking them once
more leads to the same place. The file that a reference names is the same for all directories and
references of which the paths from the root have one normal form.
-/

namespace DocScript

namespace Path

variable {path : List Char} {rooted : Bool} {step : List Char} {place : List (List Char)}

/-- A place, the last step first, in which no step is without effect. It has steps back only at its
beginning, and none from a root. -/
inductive Settled (rooted : Bool) : List (List Char) → Prop where
  | nil : Settled rooted []
  | cons {step : List Char} {place : List (List Char)} (isStep : IsStep step)
      (moves : step ≠ stay) (leaves : step = back → rooted = false ∧ ∀ s ∈ place, s = back)
      (before : Settled rooted place) : Settled rooted (step :: place)

theorem isStep_back : IsStep back := by
  simp [IsStep, back, separator]

theorem settled_walk (hp : Settled rooted place) (hs : separator ∉ step) :
    Settled rooted (walk rooted place step) := by
  unfold walk
  split
  · exact hp
  · rename_i hn
    split
    · split
      · split
        · exact .nil
        · rename_i hr
          exact .cons isStep_back (by decide) (fun _ => ⟨by simpa using hr, by simp⟩) .nil
      · rename_i last before
        cases hp with
        | cons hi hm hl hb =>
          split
          · rename_i he
            -- The last step is one back already, and so are all before it.
            obtain ⟨hr, ha⟩ := hl he
            exact .cons isStep_back (by decide) (fun _ => ⟨hr, by simpa [he] using ha⟩)
              (.cons hi hm hl hb)
          · exact hb
    · rename_i hb
      exact .cons ⟨fun he => hn (.inl he), hs⟩ (fun he => hn (.inr he)) (absurd · hb) hp

/-- A step that is settled after a place is taken as it is. -/
theorem walk_of_settled (h : Settled rooted (step :: place)) :
    walk rooted place step = step :: place := by
  cases h with
  | cons hi hm hl hb =>
    unfold walk
    rw [if_neg (not_or.mpr ⟨hi.1, hm⟩)]
    split
    · rename_i he
      obtain ⟨hr, ha⟩ := hl he
      subst he
      split
      · simp [hr]
      · rename_i last before
        rw [if_pos (ha last List.mem_cons_self)]
    · rfl

theorem foldl_walk_of_settled (h : Settled rooted place) :
    place.reverse.foldl (walk rooted) [] = place := by
  induction h with
  | nil => rfl
  | @cons step place hi hm hl hb ih =>
    rw [List.reverse_cons, List.foldl_append, ih]
    exact walk_of_settled (.cons hi hm hl hb)

theorem settled_foldl {given : List (List Char)} (hg : ∀ s ∈ given, separator ∉ s)
    (hp : Settled rooted place) : Settled rooted (given.foldl (walk rooted) place) := by
  induction given generalizing place with
  | nil => exact hp
  | cons first others ih =>
    exact ih (fun s hs => hg s (List.mem_cons_of_mem first hs))
      (settled_walk hp (hg first List.mem_cons_self))

theorem settled_steps (path : List Char) : Settled (isAbsolute path) (steps path).reverse := by
  rw [steps, List.reverse_reverse]
  exact settled_foldl (fun _ => separator_notMem_of_mem_splitOn) .nil

/-- A path that is written from settled steps begins with no slash. -/
theorem head?_intercalate_ne {given : List (List Char)} (h : ∀ s ∈ given, IsStep s) :
    ([separator].intercalate given).head? ≠ some separator := by
  cases given with
  | nil => simp
  | cons first others =>
    obtain ⟨hn, hs⟩ := h first List.mem_cons_self
    obtain ⟨c, rest, rfl⟩ := List.exists_cons_of_ne_nil hn
    have hc : c ≠ separator := fun he => hs (he ▸ List.mem_cons_self)
    cases others <;> simpa [List.intercalate] using hc

theorem root_eq (path : List Char) :
    root path = [] ∨ root path = [separator] ∨ root path = [separator, separator] := by
  unfold root
  split <;> simp

theorem root_of_head?_ne {text : List Char} (h : text.head? ≠ some separator) : root text = [] := by
  unfold root
  split <;> simp_all [separator]

theorem root_root_append {text : List Char} (h : text.head? ≠ some separator) :
    root (root path ++ text) = root path := by
  obtain hr | hr | hr := root_eq path <;> rw [hr]
  · exact root_of_head?_ne h
  all_goals
    match text, h with
    | [], _ => rfl
    | c :: rest, h =>
      have hc : c ≠ '/' := fun he => h (congrArg some he)
      simp [root, separator, hc]

theorem isAbsolute_eq (path : List Char) : isAbsolute path = !(root path).isEmpty := by
  match path with
  | [] => rfl
  | c :: rest =>
    by_cases hc : c = separator
    · have ha : isAbsolute (c :: rest) = true := isAbsolute_iff.mpr ⟨rest, hc ▸ rfl⟩
      obtain ⟨tail, hr⟩ := exists_root ha
      rw [ha, hr]
      rfl
    · have hh : (c :: rest).head? ≠ some separator := fun he => hc (Option.some.inj he)
      rw [root_of_head?_ne hh]
      exact decide_eq_false hh

/-- The slashes that a normal form begins with lead nowhere. -/
theorem foldl_splitOn_root_append (path text : List Char) :
    ((root path ++ text).splitOn separator).foldl (walk rooted) place =
      (text.splitOn separator).foldl (walk rooted) place := by
  have hc (rest : List Char) : ((separator :: rest).splitOn separator).foldl (walk rooted) place =
      (rest.splitOn separator).foldl (walk rooted) place := by
    simp [List.splitOn_cons_eq_if_modifyHead, walk]
  obtain hr | hr | hr := root_eq path <;> rw [hr]
  · rfl
  · exact hc text
  · exact (hc (separator :: text)).trans (hc text)

theorem foldl_splitOn_intercalate {given : List (List Char)} (h : ∀ s ∈ given, IsStep s) :
    (([separator].intercalate given).splitOn separator).foldl (walk rooted) [] =
      given.foldl (walk rooted) [] := by
  by_cases hn : given = []
  · subst hn
    simp [walk]
  · rw [List.splitOn_intercalate separator (fun s hs => (h s hs).2) hn]

theorem normalize_of_ne_nil (h : root path ++ [separator].intercalate (steps path) ≠ []) :
    normalize path = root path ++ [separator].intercalate (steps path) := by
  unfold normalize
  split
  · contradiction
  · rfl

/-- The normal form of a path is its own. -/
theorem normalize_normalize (path : List Char) : normalize (normalize path) = normalize path := by
  have hs : ∀ s ∈ steps path, IsStep s := fun _ => isStep_of_mem_steps
  have hh := head?_intercalate_ne hs
  have hr : root (root path ++ [separator].intercalate (steps path)) = root path :=
    root_root_append hh
  have hp : steps (root path ++ [separator].intercalate (steps path)) = steps path := by
    rw [steps, isAbsolute_eq, hr, ← isAbsolute_eq, foldl_splitOn_root_append,
      foldl_splitOn_intercalate hs]
    have hf := foldl_walk_of_settled (settled_steps path)
    rw [List.reverse_reverse] at hf
    rw [hf, List.reverse_reverse]
  by_cases hn : root path ++ [separator].intercalate (steps path) = []
  · have he : normalize path = stay := by rw [normalize, hn]
    rw [he]
    rfl
  · rw [normalize_of_ne_nil hn, normalize_of_ne_nil (by rwa [hr, hp]), hr, hp]

/-- Whether a path is absolute and has its normal form. -/
def IsNormal (path : List Char) : Prop := isAbsolute path = true ∧ normalize path = path

theorem isNormal_normalize (h : isAbsolute path = true) : IsNormal (normalize path) :=
  ⟨isAbsolute_normalize h, normalize_normalize path⟩

end Path

/-- The directory of an origin that is no URL. A relative one is taken from the directory that a
program runs in. -/
def World.directoryOf (world : World) (origin : Option String) : Except Fault String :=
  match origin.filter (· ≠ "") with
  | some origin =>
    if Path.isAbsolute origin.toList then .ok origin
    else world.directory.map fun directory =>
      String.ofList (Path.join directory.path.toList origin.toList)
  | none => world.directory.map Directory.path

/-- The file that a reference from an origin denotes. -/
def World.fileOf (world : World) (origin : Option String) (reference : String) :
    Except Fault String :=
  (world.directoryOf origin).map fun directory =>
    String.ofList (Path.normalize (Path.join directory.toList reference.toList))

namespace World

variable {world : World} {origin : Option String} {reference path : String}

theorem isAbsolute_directoryOf (h : world.directoryOf origin = .ok path) :
    Path.isAbsolute path.toList = true := by
  unfold directoryOf at h
  split at h
  · split at h
    · cases h
      assumption
    · obtain ⟨directory, -, rfl⟩ := Result.map_eq_ok.mp h
      rw [String.toList_ofList]
      exact Path.isAbsolute_join directory.isAbsolute _
  · obtain ⟨directory, -, rfl⟩ := Result.map_eq_ok.mp h
    exact directory.isAbsolute

theorem isNormal_fileOf (h : world.fileOf origin reference = .ok path) :
    Path.IsNormal path.toList := by
  obtain ⟨directory, hd, rfl⟩ := Result.map_eq_ok.mp h
  rw [String.toList_ofList]
  exact Path.isNormal_normalize (Path.isAbsolute_join (isAbsolute_directoryOf hd) _)

end World

namespace Location

variable {world : World} {mode : Mode} {origin : Option String} {reference path : String}
  {line : Line}

/-- A base that is no URL is its own directory. -/
theorem IsBase.base_eq (hb : IsBase origin) (hr : isRemote origin = false) (world : World) :
    base world origin = world.directoryOf origin := by
  have ha := hb.resolve_left (by simp [hr])
  unfold base World.directoryOf
  cases hd : origin.filter (· ≠ "") with
  | none => rfl
  | some directory => exact (if_pos (ha directory hd)).symm

/-- From a base that is no URL, a reference that is none is to the file that it denotes. -/
theorem IsBase.ofReference_eq (hb : IsBase origin) (hr : isRemote origin = false)
    (ht : Url.isRemote reference = false) (world : World) (mode : Mode) (line : Line) :
    ofReference world mode origin reference line =
      Result.ofFault ((world.fileOf origin reference).map .file) := by
  rw [ofReference_of_not_isRemote ht hr, hb.base_eq hr, World.fileOf]
  cases world.directoryOf origin <;> rfl

/-- From a base, a reference to a file is to the one that it denotes. -/
theorem IsBase.fileOf_eq (hb : IsBase origin)
    (h : ofReference world mode origin reference line = .ok (.file path)) :
    world.fileOf origin reference = .ok path := by
  obtain ⟨ht, hr, -⟩ := ofReference_file h
  rw [hb.ofReference_eq hr ht] at h
  obtain ⟨found, hf, he⟩ := Result.map_eq_ok.mp (Result.ofFault_eq_ok.mp h)
  cases he
  exact hf

end Location

end DocScript
