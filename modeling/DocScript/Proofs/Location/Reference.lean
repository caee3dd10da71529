import DocScript.Machine.Library
import DocScript.Proofs.Location.Path
import DocScript.Proofs.Location.Url

/-! # Locations that references name

From a URL, from an absolute path and from nowhere, references name absolute locations, and what is
loaded there has such an origin again. A file and a remote document never have the same key then.
-/

namespace DocScript

theorem Path.isRemote_normalize (path : List Char) :
    Url.isRemote (String.ofList (normalize path)) = false := by
  rw [Bool.eq_false_iff]
  intro h
  obtain ⟨scheme, rest, hs, he⟩ := Url.exists_http_of_isRemote h
  have hn : separator ∉ scheme ++ [':'] := by
    rcases hs with rfl | rfl <;> decide
  rw [String.toList_ofList, List.append_cons] at he
  exact normalize_ne_name_slashes (by simp) hn he

namespace Location

variable {world : World} {mode : Mode} {origin : Option String} {reference path url : String}
  {line : Line} {location : Location}

/-- Whether an origin is a URL, a directory with an absolute path, or none. -/
def IsBase (origin : Option String) : Prop :=
  isRemote origin = true ∨
    ∀ directory ∈ origin.filter (· ≠ ""), Path.isAbsolute directory.toList = true

theorem isBase_none : IsBase none := .inr nofun

theorem isBase_of_isAbsolute (h : Path.isAbsolute path.toList = true) : IsBase (some path) := by
  refine .inr fun directory hd => ?_
  obtain ⟨hd, -⟩ := Option.filter_eq_some_iff.mp hd
  rwa [← Option.some.inj hd]

/-- What references resolve against in a document from a base that is no URL is absolute. -/
theorem IsBase.isAbsolute_base (hb : IsBase origin) (hr : isRemote origin = false)
    (h : base world origin = .ok path) : Path.isAbsolute path.toList = true := by
  have ha := hb.resolve_left (by simp [hr])
  unfold base at h
  split at h
  · rename_i directory hd
    cases h
    exact ha path hd
  · obtain ⟨directory, -, rfl⟩ := Result.map_eq_ok.mp h
    exact directory.isAbsolute

/-- What references resolve against in a document from a base is one again. -/
theorem IsBase.of_base (hb : IsBase origin) (h : base world origin = .ok path) :
    IsBase (some path) := by
  cases hr : isRemote origin with
  | false => exact isBase_of_isAbsolute (hb.isAbsolute_base hr h)
  | true =>
    cases origin with
    | none => cases hr
    | some url =>
      have hne : url ≠ "" := by
        rintro rfl
        exact absurd hr (by decide +kernel)
      rw [base, Option.filter_some, if_pos (decide_eq_true hne)] at h
      cases h
      exact .inl hr

/-- Whether a location is a URL or a file with an absolute path. -/
def IsAbsolute : Location → Prop
  | .file path => Path.isAbsolute path.toList = true
  | .remote _ => True

theorem namesScheme_completed {chars : List Char}
    (hr : Url.isRemote reference = true ∨ isRemote origin = true)
    (h : completed origin reference = .ok chars) : Url.NamesScheme chars := by
  unfold completed at h
  split at h
  · rename_i base
    split at h
    · rename_i hb
      exact Url.namesScheme_join hb h
    · rename_i hb
      cases h
      exact Url.namesScheme_of_isRemote (hr.resolve_right hb)
  · cases h
    exact Url.namesScheme_of_isRemote (hr.resolve_right nofun)

theorem ofMalformed_eq_ok {α : Type} {result : Except Url.Malformed α} {a : α} :
    ofMalformed result = .ok a ↔ result = .ok a := by
  cases result <;> simp [ofMalformed]

/-- A remote document is named in a run that may wait, by a URL with a path that ends as those of
documents do. -/
theorem ofUrl_eq_ok (h : ofUrl mode origin reference line = .ok location) :
    ∃ chars path, location = .remote (String.ofList chars) ∧ mode = .async ∧
      urlOf origin reference = .ok chars ∧ Url.path chars = .ok path ∧
      namesDocument path = true := by
  simp only [ofUrl, Result.bind_eq_ok] at h
  obtain ⟨chars, hc, h⟩ := h
  split at h
  · cases h
  rename_i hm
  obtain ⟨path, hp, h⟩ := Result.bind_eq_ok.mp h
  split at h
  · cases h
  · rename_i hd
    cases h
    refine ⟨chars, path, rfl, ?_, ofMalformed_eq_ok.mp hc, ofMalformed_eq_ok.mp hp,
      by simpa using hd⟩
    cases mode with
    | sync => exact absurd rfl hm
    | async => rfl

theorem ofReference_of_not_isRemote (ht : Url.isRemote reference = false)
    (ho : isRemote origin = false) : ofReference world mode origin reference line =
      Result.ofFault ((base world origin).map fun base => ofFile base reference) := by
  rw [ofReference, ht, ho]
  rfl

theorem ofReference_file (h : ofReference world mode origin reference line = .ok (.file path)) :
    Url.isRemote reference = false ∧ isRemote origin = false ∧
      ∃ directory, base world origin = .ok directory ∧ ofFile directory reference = .file path := by
  unfold ofReference at h
  split at h
  · obtain ⟨chars, path, he, -⟩ := ofUrl_eq_ok h
    cases he
  · rename_i hr
    rw [Bool.or_eq_true, not_or, Bool.not_eq_true, Bool.not_eq_true] at hr
    obtain ⟨directory, hb, hf⟩ := Result.map_eq_ok.mp (Result.ofFault_eq_ok.mp h)
    exact ⟨hr.1, hr.2, directory, hb, hf⟩

theorem ofReference_remote (h : ofReference world mode origin reference line = .ok (.remote url)) :
    mode = .async ∧ '#' ∉ url.toList ∧ Path.isAbsolute url.toList = false ∧
      ∃ path, Url.path url.toList = .ok path ∧ namesDocument path = true := by
  unfold ofReference at h
  split at h
  · rename_i hr
    obtain ⟨chars, path, he, hm, hu, hp, hd⟩ := ofUrl_eq_ok h
    cases he
    rw [Bool.or_eq_true] at hr
    rw [String.toList_ofList]
    simp only [urlOf, bind, Except.bind] at hu
    split at hu
    · cases hu
    rename_i text ht
    have hs := Url.head_withoutFragment_ne_slash (namesScheme_completed hr ht) hu
    exact ⟨hm, Url.hash_notMem_withoutFragment hu, decide_eq_false hs, path, hp, hd⟩
  · obtain ⟨directory, -, hf⟩ := Result.map_eq_ok.mp (Result.ofFault_eq_ok.mp h)
    cases hf

/-- Whether a reference in a remote document has a scheme that is not the one of the document. -/
def NamesOtherScheme (origin : Option String) (reference : String) : Prop :=
  ∃ base, origin = some base ∧ Url.isRemote base = true ∧ Url.NamesScheme reference.toList ∧
    Url.schemeOf reference.toList ≠ Url.schemeOf base.toList

/-- A remote document that a reference names is known to be remote, unless the reference has another
scheme than the document in which it stands. Then it is named as the reference has it. -/
theorem isRemote_of_ofReference
    (h : ofReference world mode origin reference line = .ok (.remote url)) :
    Url.isRemote url = true ∨ NamesOtherScheme origin reference ∧
      Url.withoutFragment reference.toList = .ok url.toList := by
  unfold ofReference at h
  split at h
  · rename_i hr
    obtain ⟨chars, -, he, -, hu, -⟩ := ofUrl_eq_ok h
    cases he
    rw [Bool.or_eq_true] at hr
    rw [String.toList_ofList]
    simp only [urlOf, completed, bind, Except.bind] at hu
    split at hu
    · cases hu
    rename_i text ht
    split at ht
    · rename_i base
      split at ht
      · rename_i hb
        rcases Url.join_cases hb ht with ht | ⟨rfl, hn, hs⟩
        · left
          apply Url.isRemote_withoutFragment ht
          rwa [String.toList_ofList]
        · exact .inr ⟨⟨base, rfl, hb, hn, hs⟩, hu⟩
      · rename_i hb
        cases ht
        exact .inl (Url.isRemote_withoutFragment (hr.resolve_right hb) hu)
    · cases ht
      exact .inl (Url.isRemote_withoutFragment (hr.resolve_right nofun) hu)
  · obtain ⟨directory, -, hf⟩ := Result.map_eq_ok.mp (Result.ofFault_eq_ok.mp h)
    cases hf

/-- From a base, references name absolute locations. -/
theorem IsBase.isAbsolute (hb : IsBase origin)
    (h : ofReference world mode origin reference line = .ok location) : location.IsAbsolute := by
  cases location with
  | remote url => trivial
  | file path =>
    obtain ⟨-, ho, directory, hd, hf⟩ := ofReference_file h
    have ha := hb.isAbsolute_base ho hd
    cases hf
    rw [IsAbsolute, String.toList_ofList]
    exact Path.isAbsolute_normalize (Path.isAbsolute_join ha _)

/-- An absolute location is a base for what is loaded there. -/
theorem IsAbsolute.isBase_origin (h : location.IsAbsolute)
    (hu : ∀ url, location = .remote url → Url.isRemote url = true) :
    IsBase (some location.origin) := by
  cases location with
  | remote url => exact .inl (hu url rfl)
  | file path =>
    apply isBase_of_isAbsolute
    rw [origin, String.toList_ofList]
    exact Path.isAbsolute_parent h

/-- A location that a reference names is the only absolute one of its key. -/
theorem eq_of_key_eq {other : Location}
    (h : ofReference world mode origin reference line = .ok location)
    (ha : other.IsAbsolute) (hu : ∀ url, other = .remote url → Url.isRemote url = true)
    (hk : other.key = location.key) : other = location := by
  match location, other with
  | .file path, .file path' => exact congrArg Location.file hk
  | .remote url, .remote url' => exact congrArg Location.remote hk
  | .remote url, .file path =>
    have hn := (ofReference_remote h).2.2.1
    rw [show path = url from hk] at ha
    rw [IsAbsolute, hn] at ha
    cases ha
  | .file path, .remote url =>
    obtain ⟨-, -, directory, -, hf⟩ := ofReference_file h
    have hr := hu url rfl
    rw [show url = path from hk] at hr
    cases hf
    rw [Path.isRemote_normalize] at hr
    cases hr

end Location

end DocScript
