import DocScript.Proofs.Markdown.Placed

/-! # The two ways of counting lines

A document is divided at newlines, after its line ends have been unified. An excerpt is divided at
more characters, so its lines are those of the document only as far as none of the others occurs.
-/

namespace DocScript.Text

/-- Puts a character before the first line. -/
def putChar (c : Char) : List (List Char) → List (List Char)
  | [] => [[c]]
  | line :: rest => (c :: line) :: rest

/-- The lines of a text if some characters end them. A text that ends in one of these has no empty
last line. -/
def divide (ends : Char → Bool) : List Char → List (List Char)
  | [] => []
  | c :: rest => if ends c then [] :: divide ends rest else putChar c (divide ends rest)

/-- Whether some characters do not occur in a text. -/
def Lacks (ends : Char → Bool) (text : List Char) : Prop := ∀ c ∈ text, ends c = false

/-- The lines of a document. -/
def documentLines (text : String) : List String :=
  (divide (· = '\n') (unifyBreaks text.toList)).map String.ofList

variable {p q : Char → Bool} {c : Char} {begun text : List Char} {parts : List (List Char)}

theorem lacks_nil (p : Char → Bool) : Lacks p [] := nofun

theorem Lacks.reverse (h : Lacks p text) : Lacks p text.reverse :=
  fun c hc => h c (List.mem_reverse.mp hc)

theorem forall_mem_putChar :
    (∀ line ∈ putChar c parts, Lacks p line) ↔ p c = false ∧ ∀ line ∈ parts, Lacks p line := by
  cases parts with
  | nil => simp [putChar, Lacks]
  | cons line rest =>
    rw [putChar, List.forall_mem_cons, List.forall_mem_cons, Lacks, List.forall_mem_cons, and_assoc]
    rfl

theorem take_putChar (c : Char) (parts : List (List Char)) (m : Nat) :
    (putChar c parts).take (m + 1) = putChar c (parts.take (m + 1)) := by
  cases parts with
  | nil => rw [List.take_nil, putChar, List.take_succ_cons, List.take_nil]
  | cons line rest => rfl

theorem divide_of_lacks (h : Lacks p text) (hn : text ≠ []) : divide p text = [text] := by
  induction text with
  | nil => exact absurd rfl hn
  | cons c rest ih =>
    obtain ⟨hc, hr⟩ := List.forall_mem_cons.mp h
    rw [divide, if_neg (Bool.eq_false_iff.mp hc)]
    by_cases he : rest = []
    · rw [he, divide, putChar]
    · rw [ih hr he, putChar]

theorem divide_append_cons (h : Lacks p begun) (hc : p c = true) (rest : List Char) :
    divide p (begun ++ c :: rest) = begun :: divide p rest := by
  induction begun with
  | nil => rw [List.nil_append, divide, if_pos hc]
  | cons b begun ih =>
    obtain ⟨hb, hr⟩ := List.forall_mem_cons.mp h
    rw [List.cons_append, divide, if_neg (Bool.eq_false_iff.mp hb), ih hr, putChar]

theorem lacks_of_mem_divide (p : Char → Bool) (text : List Char) :
    ∀ line ∈ divide p text, Lacks p line := by
  induction text with
  | nil => nofun
  | cons c rest ih =>
    rw [divide]
    split
    · exact List.forall_mem_cons.mpr ⟨nofun, ih⟩
    · exact forall_mem_putChar.mpr ⟨Bool.eq_false_iff.mpr ‹_›, ih⟩

/-! ## More characters that end lines -/

theorem length_putChar (c : Char) (parts : List (List Char)) :
    (putChar c parts).length = max parts.length 1 := by
  cases parts with
  | nil => rfl
  | cons line rest => exact (Nat.max_eq_left (Nat.succ_pos rest.length)).symm

/-- If more characters end lines, there are no fewer lines. -/
theorem length_divide_le (h : ∀ c, q c = true → p c = true) (text : List Char) :
    (divide q text).length ≤ (divide p text).length := by
  induction text with
  | nil => exact Nat.le_refl 0
  | cons c rest ih =>
    by_cases hq : q c = true
    · rw [divide, divide, if_pos hq, if_pos (h c hq)]
      exact Nat.succ_le_succ ih
    · rw [divide, divide, if_neg hq, length_putChar]
      split
      · rw [List.length_cons]
        omega
      · rw [length_putChar]
        omega

/-- If more characters end lines, the first lines stay the same as long as none of these characters
occurs in them, and only then. -/
theorem take_divide_eq_iff (h : ∀ c, q c = true → p c = true) (text : List Char) (m : Nat) :
    (divide p text).take m = (divide q text).take m ↔
      ∀ line ∈ (divide q text).take m, Lacks p line := by
  constructor
  · intro he line hl
    exact lacks_of_mem_divide p text line (List.mem_of_mem_take (he ▸ hl))
  · intro hw
    induction text generalizing m with
    | nil => rfl
    | cons c rest ih =>
      cases m with
      | zero => rfl
      | succ m =>
        by_cases hq : q c = true
        · rw [divide, if_pos hq, List.take_succ_cons] at hw
          rw [divide, divide, if_pos hq, if_pos (h c hq), List.take_succ_cons, List.take_succ_cons,
            ih m (List.forall_mem_cons.mp hw).2]
        · -- The character is in the first line, so it is none of those that end lines.
          rw [divide, if_neg hq, take_putChar] at hw
          obtain ⟨hp, hr⟩ := forall_mem_putChar.mp hw
          rw [divide, divide, if_neg hq, if_neg (Bool.eq_false_iff.mp hp), take_putChar,
            take_putChar, ih (m + 1) hr]

/-! ## Excerpts and documents -/

theorem endsLine_of_newline (c : Char) (h : decide (c = '\n') = true) : endsLine c = true := by
  cases of_decide_eq_true h
  rfl

/-- A line end of one character becomes a newline, and every other character stays. -/
theorem unifyBreaks_cons {rest : List Char} (h : ∀ after, c = '\r' → rest = '\n' :: after → False) :
    unifyBreaks (c :: rest) = (if c = '\r' then '\n' else c) :: unifyBreaks rest := by
  split
  · rename_i hc
    subst hc
    exact unifyBreaks.eq_3 rest fun after he => h after rfl he
  · exact unifyBreaks.eq_4 c rest h ‹_›

/-- The line that has been begun goes on with the text that is left, once its line ends are
unified. -/
theorem linesFrom_eq_divide (h : Lacks endsLine begun) (text : List Char) :
    linesFrom begun text = divide endsLine (begun.reverse ++ unifyBreaks text) := by
  fun_induction linesFrom begun text with
  | case1 => rfl
  | case2 => rw [unifyBreaks, List.append_nil, divide_of_lacks h.reverse (by simp)]
  | case3 begun rest ih =>
    rw [unifyBreaks, divide_append_cons h.reverse rfl, ih nofun]
    rfl
  | case4 begun c rest hn hc ih =>
    have hd : endsLine (if c = '\r' then '\n' else c) = true := by
      split
      · rfl
      · simpa [‹c ≠ '\r'›] using hc
    rw [unifyBreaks_cons hn, divide_append_cons h.reverse hd, ih nofun]
    rfl
  | case5 begun c rest hn hc ih =>
    simp only [Bool.or_eq_true, decide_eq_true_eq, not_or, Bool.not_eq_true] at hc
    rw [unifyBreaks_cons hn, if_neg hc.1, ih (List.forall_mem_cons.mpr ⟨hc.2, h⟩),
      List.reverse_cons, List.append_assoc, List.singleton_append]

theorem lines_eq_map_divide (text : String) :
    lines text = (divide endsLine (unifyBreaks text.toList)).map String.ofList := by
  rw [lines, linesFrom_eq_divide (lacks_nil endsLine), List.reverse_nil, List.nil_append]

/-- An excerpt counts no fewer lines than the document has. -/
theorem length_documentLines_le (text : String) :
    (documentLines text).length ≤ (lines text).length := by
  rw [lines_eq_map_divide, documentLines, List.length_map, List.length_map]
  exact length_divide_le endsLine_of_newline _

/-- The first lines of an excerpt are those of the document if and only if no character in these
ends a line of an excerpt. -/
theorem take_lines_eq_iff (text : String) (m : Nat) :
    (lines text).take m = (documentLines text).take m ↔
      ∀ line ∈ (documentLines text).take m, Lacks endsLine line.toList := by
  rw [lines_eq_map_divide, documentLines, ← List.map_take, ← List.map_take,
    List.map_inj_right fun _ _ => String.ofList_injective, take_divide_eq_iff endsLine_of_newline]
  simp only [List.forall_mem_map, String.toList_ofList]

/-! ## Documents -/

open Markdown (linesOf normalizeText lineCount)

theorem divide_map {f : Char → Char} (h : ∀ c, p (f c) = p c) (text : List Char) :
    divide p (text.map f) = (divide p text).map (List.map f) := by
  have hput (c : Char) (parts : List (List Char)) :
      putChar (f c) (parts.map (List.map f)) = (putChar c parts).map (List.map f) := by
    cases parts <;> rfl
  induction text with
  | nil => rfl
  | cons c rest ih =>
    rw [List.map_cons, divide, divide, h, ih, hput]
    split <;> rfl

/-- The lines that blocks are read from are the first lines of the text, each with its number. -/
theorem linesOf_isPrefix (number : Nat) (h : Lacks (· = '\n') begun) (text : List Char) :
    (linesOf number begun text).map (fun line => (line.chars, line.number)) <+:
      (divide (· = '\n') (begun.reverse ++ text)).zipIdx number := by
  induction text generalizing number begun with
  | nil =>
    rw [linesOf]
    split
    · exact List.nil_prefix
    · have hn : begun.reverse ≠ [] := by
        rintro he
        simp_all
      rw [List.append_nil, divide_of_lacks h.reverse hn]
      exact List.prefix_refl _
  | cons c rest ih =>
    rw [linesOf]
    split
    · rename_i hc
      rw [divide_append_cons h.reverse (decide_eq_true hc), List.zipIdx_cons, List.map_cons]
      exact (List.prefix_cons_inj _).mpr (ih (number + 1) (lacks_nil _))
    · have hb : Lacks (· = '\n') (c :: begun) := List.forall_mem_cons.mpr ⟨decide_eq_false ‹_›, h⟩
      have hi := ih number hb
      rwa [List.reverse_cons, List.append_assoc, List.singleton_append] at hi

theorem divide_normalizeText (text : String) :
    divide (· = '\n') (normalizeText text.toList) =
      (documentLines text).map fun line =>
        line.toList.map fun c => if c = '\x00' then '\ufffd' else c := by
  rw [normalizeText, divide_map, documentLines, List.map_map]
  · simp
  · intro c
    split
    · rename_i hc
      rw [hc]
      rfl
    · rfl

/-- A block that begins on a line of a document begins on a line of its text. -/
theorem lineCount_le (text : String) : lineCount text ≤ (documentLines text).length := by
  have hl := (linesOf_isPrefix 0 (lacks_nil _) (normalizeText text.toList)).length_le
  rwa [List.length_map, List.reverse_nil, List.nil_append, List.length_zipIdx,
    divide_normalizeText, List.length_map] at hl

/-- A line of a document has a number that excerpts have too. -/
theorem le_length_lines {text : String} {n : Nat} (h : n ≤ lineCount text) :
    n ≤ (lines text).length :=
  Nat.le_trans h (Nat.le_trans (lineCount_le text) (length_documentLines_le text))

end DocScript.Text
