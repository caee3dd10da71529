import DocScript.Path
import Mathlib.Data.List.TakeWhile

/-! # Paths that references name

From a directory with an absolute path, references name absolute paths, and the directories of these
are absolute too. A normal form has no empty step, so that two slashes stand at its beginning only.
-/

namespace DocScript.Path

variable {path directory : List Char}

theorem isAbsolute_iff : isAbsolute path = true ↔ ∃ rest, path = separator :: rest := by
  cases path <;> simp [isAbsolute]

theorem isAbsolute_append (h : isAbsolute path = true) (rest : List Char) :
    isAbsolute (path ++ rest) = true := by
  obtain ⟨tail, rfl⟩ := isAbsolute_iff.mp h
  exact isAbsolute_iff.mpr ⟨tail ++ rest, rfl⟩

theorem isAbsolute_join (h : isAbsolute directory = true) (reference : List Char) :
    isAbsolute (join directory reference) = true := by
  unfold join
  split
  · assumption
  · split
    · exact isAbsolute_append h _
    · exact isAbsolute_append h _

theorem exists_root (h : isAbsolute path = true) : ∃ rest, root path = separator :: rest := by
  obtain ⟨tail, rfl⟩ := isAbsolute_iff.mp h
  unfold root
  split
  · exact ⟨[], rfl⟩
  · exact ⟨[separator], rfl⟩
  · exact ⟨[], rfl⟩
  · rename_i hn
    exact absurd rfl (hn tail)

theorem isAbsolute_normalize (h : isAbsolute path = true) : isAbsolute (normalize path) = true := by
  obtain ⟨rest, hr⟩ := exists_root h
  rw [normalize, hr]
  rfl

theorem isAbsolute_initial {before : List Char} (h : isAbsolute path = true)
    (hp : before <+: path) (hn : before ≠ []) : isAbsolute before = true := by
  obtain ⟨rest, rfl⟩ := hp
  obtain ⟨c, tail, rfl⟩ := List.exists_cons_of_ne_nil hn
  exact h

theorem initial_dropWhile_reverse (p : Char → Bool) (text : List Char) :
    (text.reverse.dropWhile p).reverse <+: text := by
  rw [← List.reverse_suffix, List.reverse_reverse]
  exact List.dropWhile_suffix p

/-- The directory of an absolute path is absolute. -/
theorem isAbsolute_parent (h : isAbsolute path = true) : isAbsolute (parent path) = true := by
  have hb : (path.reverse.dropWhile (· ≠ separator)).reverse ≠ [] := by
    obtain ⟨tail, rfl⟩ := isAbsolute_iff.mp h
    intro he
    have hs := List.dropWhile_eq_nil_iff.mp (List.reverse_eq_nil_iff.mp he) separator (by simp)
    simp at hs
  have hp := initial_dropWhile_reverse (· ≠ separator) path
  unfold parent
  dsimp only
  split
  · exact isAbsolute_initial h hp hb
  · exact isAbsolute_initial h ((initial_dropWhile_reverse _ _).trans hp) ‹_›

theorem separator_notMem_of_mem_splitOn {step : List Char} (h : step ∈ path.splitOn separator) :
    separator ∉ step := by
  induction path generalizing step with
  | nil =>
    rw [List.splitOn_nil, List.mem_singleton] at h
    simp [h]
  | cons c rest ih =>
    rw [List.splitOn_cons_eq_if_modifyHead] at h
    split at h
    · rcases List.mem_cons.mp h with rfl | h
      · simp
      · exact ih h
    · rename_i hc
      obtain ⟨first, others, he⟩ := List.exists_cons_of_ne_nil (List.splitOn_ne_nil separator rest)
      rw [he, List.modifyHead_cons, List.mem_cons] at h
      rcases h with rfl | h
      · have hf : separator ∉ first := ih (he ▸ List.mem_cons_self)
        simp only [beq_iff_eq] at hc
        simp [hf, Ne.symm hc]
      · exact ih (he ▸ List.mem_cons_of_mem first h)

/-- Whether a step leads to a name or back. -/
def IsStep (step : List Char) : Prop := step ≠ [] ∧ separator ∉ step

theorem isStep_walk {rooted : Bool} {place : List (List Char)} {step : List Char}
    (hp : ∀ s ∈ place, IsStep s) (hs : separator ∉ step) :
    ∀ s ∈ walk rooted place step, IsStep s := by
  have hb : IsStep back := by simp [IsStep, back, separator]
  unfold walk
  split
  · exact hp
  · split
    · split
      · split <;> simp [hb]
      · rename_i last before
        split
        · simpa [hb] using hp
        · exact fun s h => hp s (List.mem_cons_of_mem last h)
    · rename_i hn _
      intro s h
      rcases List.mem_cons.mp h with rfl | h
      · exact ⟨fun he => hn (.inl he), hs⟩
      · exact hp s h

theorem isStep_of_mem_steps {step : List Char} (h : step ∈ steps path) : IsStep step := by
  have hw : ∀ (given place : List (List Char)), (∀ s ∈ given, separator ∉ s) →
      (∀ s ∈ place, IsStep s) →
      ∀ s ∈ given.foldl (walk (isAbsolute path)) place, IsStep s := by
    intro given
    induction given with
    | nil => exact fun place _ hp => hp
    | cons first others ih =>
      intro place hg hp
      exact ih _ (fun s hs => hg s (List.mem_cons_of_mem first hs))
        (isStep_walk hp (hg first List.mem_cons_self))
  rw [steps, List.mem_reverse] at h
  exact hw _ [] (fun _ => separator_notMem_of_mem_splitOn) (by simp) step h

theorem root_cases (path : List Char) : root path = [] ∨ ∃ rest, root path = separator :: rest := by
  unfold root
  split <;> simp [separator]

/-- Behind a name, the normal form of a path has no two slashes in a row. -/
theorem normalize_ne_name_slashes {name rest : List Char} (hn : name ≠ [])
    (hs : separator ∉ name) : normalize path ≠ name ++ separator :: separator :: rest := by
  intro he
  obtain ⟨c, others, rfl⟩ := List.exists_cons_of_ne_nil hn
  obtain hr | ⟨tail, hr⟩ := root_cases path
  · rw [normalize, hr, List.nil_append] at he
    have hi : [separator].intercalate (steps path) =
        (c :: others) ++ separator :: separator :: rest := by
      split at he
      · simp [stay] at he
      · exact he
    have hne : steps path ≠ [] := by
      intro h
      simp [h] at hi
    have h := congrArg (List.splitOn separator) hi
    rw [List.splitOn_intercalate separator (fun s h => (isStep_of_mem_steps h).2) hne,
      List.splitOn_append_cons_self_of_not_mem hs] at h
    have hm : [] ∈ steps path := by
      rw [h, List.splitOn_cons_eq_if_modifyHead]
      simp
    exact (isStep_of_mem_steps hm).1 rfl
  · rw [normalize, hr] at he
    have hc : separator = c := (List.cons.inj he).1
    simp [hc] at hs

end DocScript.Path
