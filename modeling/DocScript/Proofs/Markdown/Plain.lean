import DocScript.Markdown.Document

/-! # Plain text

What stands behind the last line end of a document is its last line. Inline text in which no form
can begin is a single text.
-/

namespace DocScript.Markdown

/-- Whether no form of inline text begins with a character. -/
def isPlain (c : Char) : Bool :=
  !("\n\\*_[!<&".toList.contains c || isBackquote c)

variable {source : Source} {s : Scan} {text : List Char}

theorem spanEnd_bounds (source : Source) (p : Char → Bool) {limit i : Nat} (h : i ≤ limit) :
    i ≤ source.spanEnd p limit i ∧ source.spanEnd p limit i ≤ limit := by
  fun_induction Source.spanEnd source p limit i with
  | case1 i hi c hc hp ih =>
    obtain ⟨hl, hu⟩ := ih hi
    exact ⟨Nat.le_of_succ_le hl, hu⟩
  | case2 => exact ⟨Nat.le_refl _, h⟩
  | case3 => exact ⟨Nat.le_refl _, h⟩
  | case4 => exact ⟨Nat.le_refl _, h⟩

theorem scanForm_plain {c : Char} (hc : source.chars[s.position]? = some c) (hp : isPlain c = true)
    (fuel : Nat) : scanForm (fuel + 1) source false s = scanText source false s := by
  simp only [isPlain, Bool.not_eq_true', Bool.or_eq_false_iff, List.contains_eq_mem,
    decide_eq_false_iff_not] at hp
  obtain ⟨hm, hb⟩ := hp
  simp at hm
  simp [scanForm, hc, hb, hm]

/-- A scan that has passed over some characters and found no form. -/
def passed (text : List Char) (i : Nat) : Scan :=
  { Scan.start text.length with position := i, pending := (text.take i).reverse }

theorem addPending_passed (text : List Char) (definitions : Definitions) {i j : Nat} (h : i ≤ j) :
    ((passed text i).addPending ((⟨text.toArray, definitions⟩ : Source).slice i j)).moveTo j =
      passed text j := by
  have ht : text.take j = text.take i ++ (text.drop i).take (j - i) := by
    rw [← List.take_add, Nat.add_sub_cancel' h]
  simp [passed, Scan.addPending, Scan.moveTo, Source.slice, ht]

/-- One step of a scan of plain text passes over some characters. -/
theorem exists_scanAll_step (definitions : Definitions) (hp : ∀ c ∈ text, isPlain c = true)
    {i : Nat} (hi : i < text.length) :
    ∃ j, i < j ∧ j ≤ text.length ∧ ∀ fuel,
      scanAll (fuel + 2) ⟨text.toArray, definitions⟩ (passed text i) =
        scanAll (fuel + 1) ⟨text.toArray, definitions⟩ (passed text j) := by
  generalize hsource : (⟨text.toArray, definitions⟩ : Source) = source
  have hposition : (passed text i).position < (passed text i).limit := hi
  have hlevel : (passed text i).level < maxNesting := Nat.succ_pos 19
  have hform (fuel : Nat) : scanForm (fuel + 1) source false (passed text i) =
      scanText source false (passed text i) := by
    refine scanForm_plain ?_ (hp text[i] (List.getElem_mem hi)) fuel
    rw [← hsource]
    exact (List.getElem?_toArray ..).trans (List.getElem?_eq_getElem hi)
  obtain ⟨hl, hu⟩ := spanEnd_bounds source (fun c => !mayBeginForm c) (Nat.le_of_lt hi)
  rcases Nat.eq_or_lt_of_le hl with he | he
  · refine ⟨i + 1, Nat.lt_succ_self i, hi, fun fuel => ?_⟩
    have hs : scanText source false (passed text i) = (passed text i).fail := if_pos he.symm
    have ha := addPending_passed text definitions (Nat.le_succ i)
    rw [hsource] at ha
    rw [scanAll, if_pos hposition, if_pos hlevel, hform, hs]
    exact congrArg (scanAll (fuel + 1) source) ha
  · refine ⟨_, he, hu, fun fuel => ?_⟩
    have hs : scanText source false (passed text i) = _ := if_neg (Nat.ne_of_gt he)
    have ha := addPending_passed text definitions hl
    rw [hsource] at ha
    rw [scanAll, if_pos hposition, if_pos hlevel, hform, hs]
    exact congrArg (scanAll (fuel + 1) source) ha

theorem scanAll_plain (definitions : Definitions) (hp : ∀ c ∈ text, isPlain c = true)
    {fuel i : Nat} (hi : i ≤ text.length) (hf : text.length - i < fuel) :
    scanAll fuel ⟨text.toArray, definitions⟩ (passed text i) =
      (passed text text.length).flush := by
  induction fuel generalizing i with
  | zero => exact absurd hf (Nat.not_lt_zero _)
  | succ fuel ih =>
    rcases Nat.eq_or_lt_of_le hi with rfl | hi
    · have hend : ¬(passed text text.length).position < (passed text text.length).limit :=
        Nat.lt_irrefl text.length
      rw [scanAll, if_neg hend]
    · obtain ⟨j, hj, hu, hs⟩ := exists_scanAll_step definitions hp hi
      obtain ⟨fuel, rfl⟩ : ∃ n, fuel = n + 1 := ⟨fuel - 1, by omega⟩
      rw [hs]
      exact ih hu (by omega)

/-- The nodes of a text in which no form can begin are the text. -/
theorem parseInline_plain (definitions : Definitions) (hp : ∀ c ∈ text, isPlain c = true)
    (hn : text ≠ []) :
    parseInline definitions text = [.inlined (.text (String.ofList text)) []] := by
  have hs : Scan.start text.length = passed text 0 := rfl
  have hf : text.length - 0 < inlineFuel text.length := by
    simp only [inlineFuel, maxNesting]
    omega
  unfold parseInline
  simp only [List.size_toArray]
  rw [hs, scanAll_plain definitions hp (Nat.zero_le _) hf]
  obtain ⟨c, rest, rfl⟩ := List.exists_cons_of_ne_nil hn
  have hflush : (passed (c :: rest) (c :: rest).length).flush.pieces = #[.text (c :: rest)] := by
    simp [passed, Scan.flush, Scan.start]
  have hmarks : (passed (c :: rest) (c :: rest).length).flush.marks = #[] := by
    simp [passed, Scan.flush, Scan.start]
  rw [hflush, hmarks]
  simp [resolveMarks, pairMarks, assignRoles, Flat.ofPiece, joinTexts, nestNodes]

/-! ## The last line -/

theorem unifyBreaks_of_notMem (h : '\r' ∉ text) : Text.unifyBreaks text = text := by
  induction text with
  | nil => rfl
  | cons c rest ih =>
    simp only [List.mem_cons, not_or] at h
    rw [Text.unifyBreaks, ih h.2]
    · rintro _ rfl
      exact absurd rfl h.1
    · exact fun he => h.1 he.symm

theorem normalizeText_eq (hr : '\r' ∉ text) (hz : '\x00' ∉ text) : normalizeText text = text := by
  have hc : ∀ c ∈ text, (if c = '\x00' then '\ufffd' else c) = c :=
    fun c hm => if_neg fun he : c = '\x00' => hz (he ▸ hm)
  rw [normalizeText, unifyBreaks_of_notMem hr, List.map_congr_left hc, List.map_id']

theorem linesOf_of_notMem (h : '\n' ∉ text) (number : Nat) (begun : List Char) :
    linesOf number begun text =
      if (begun.reverse ++ text).all isSpace then []
      else [Line.ofChars number false (begun.reverse ++ text)] := by
  induction text generalizing begun with
  | nil => simp [linesOf]
  | cons c rest ih =>
    simp only [List.mem_cons, not_or] at h
    rw [linesOf, if_neg (Ne.symm h.1), ih h.2]
    simp

end DocScript.Markdown
