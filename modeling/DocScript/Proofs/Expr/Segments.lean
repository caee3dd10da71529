import DocScript.Expr.Template
import Mathlib.Data.List.Chain
import Mathlib.Data.List.Forall2
import Mathlib.Data.List.Infix

/-! # Segments of templates

A template is divided into literal texts and expressions in braces, in one way only: an opening
brace stands for itself exactly if it is never closed. The parts of the template are read from the
segments in turn, and reading fails with the first expression that does not read.
-/

namespace DocScript

/-! ## Balanced braces -/

/-- The opening braces of a text less its closing ones. -/
def braceDepth (text : List Char) : Int := text.count '\x7b' - text.count '\x7d'

section Depth

variable {text text' : List Char} {bound : Int} {c : Char}

@[simp] theorem braceDepth_nil : braceDepth [] = 0 := rfl

@[simp] theorem braceDepth_opening : braceDepth ('\x7b' :: text) = braceDepth text + 1 := by
  simp [braceDepth]
  omega

@[simp] theorem braceDepth_closing : braceDepth ('\x7d' :: text) = braceDepth text - 1 := by
  simp [braceDepth]
  omega

theorem braceDepth_other (ho : c ≠ '\x7b') (hc : c ≠ '\x7d') :
    braceDepth (c :: text) = braceDepth text := by
  simp [braceDepth, ho, hc]

@[simp] theorem braceDepth_append :
    braceDepth (text ++ text') = braceDepth text + braceDepth text' := by
  simp [braceDepth]
  omega

theorem braceDepth_cons (c : Char) (text : List Char) :
    braceDepth (c :: text) = braceDepth [c] + braceDepth text := by
  rw [← List.singleton_append, braceDepth_append]

/-- Whether no prefix of a text has a depth below a bound. -/
def StaysAbove (bound : Int) (text : List Char) : Prop :=
  ∀ before, before <+: text → bound ≤ braceDepth before

theorem StaysAbove.le (h : StaysAbove bound text) : bound ≤ 0 := h [] List.nil_prefix

theorem staysAbove_cons :
    StaysAbove bound (c :: text) ↔ bound ≤ 0 ∧ StaysAbove (bound - braceDepth [c]) text := by
  constructor
  · intro h
    refine ⟨h.le, fun before hb => ?_⟩
    have := h (c :: before) (List.prefix_cons_inj c |>.mpr hb)
    rw [braceDepth_cons] at this
    omega
  · rintro ⟨hle, h⟩ before hb
    rcases List.prefix_cons_iff.mp hb with rfl | ⟨more, rfl, hm⟩
    · exact hle
    · have hrest := h more hm
      rw [braceDepth_cons]
      omega

instance : Decidable (StaysAbove bound text) :=
  decidable_of_iff (∀ before ∈ text.inits, bound ≤ braceDepth before) <| by
    simp only [List.mem_inits, StaysAbove]

end Depth

/-- Whether a text has equally many braces of both kinds, and none of its prefixes has more closing
ones than opening ones. -/
structure IsBalanced (text : List Char) : Prop where
  depth : braceDepth text = 0
  staysAbove : StaysAbove 0 text

instance (text : List Char) : Decidable (IsBalanced text) :=
  decidable_of_iff (braceDepth text = 0 ∧ StaysAbove 0 text)
    ⟨fun h => ⟨h.1, h.2⟩, fun h => ⟨h.depth, h.staysAbove⟩⟩

/-- Whether a text that begins with an opening brace has the one that closes it. -/
def ClosesFirst (text : List Char) : Prop :=
  ∃ before, before ≠ [] ∧ before <+: text ∧ braceDepth before = 0

/-! ## Braces and what they enclose -/

section Braced

variable {depth : Nat} {bound : Int} {text inside left : List Char} {c : Char}

/-- Whether the closing brace behind `inside` is the first one that takes the depth below a
bound. -/
structure ClosesAt (bound : Int) (inside left text : List Char) : Prop where
  eq : text = inside ++ '\x7d' :: left
  depth : braceDepth inside = bound
  staysAbove : StaysAbove bound inside

theorem closesAt_cons (hle : bound ≤ 0) (hc : c = '\x7d' → bound ≠ 0) :
    ClosesAt bound inside left (c :: text) ↔
      ∃ more, inside = c :: more ∧ ClosesAt (bound - braceDepth [c]) more left text := by
  constructor
  · rintro ⟨heq, hd, hs⟩
    cases inside with
    | nil =>
      obtain ⟨rfl, -⟩ := List.cons_eq_cons.mp heq
      exact absurd hd.symm (hc rfl)
    | cons d more =>
      obtain ⟨rfl, rfl⟩ := List.cons_eq_cons.mp heq
      rw [braceDepth_cons] at hd
      exact ⟨more, rfl, rfl, by omega, (staysAbove_cons.mp hs).2⟩
  · rintro ⟨more, rfl, rfl, hd, hs⟩
    exact ⟨rfl, by rw [braceDepth_cons]; omega, staysAbove_cons.mpr ⟨hle, hs⟩⟩

theorem takeBraced_iff :
    takeBraced depth text = some (inside, left) ↔ ClosesAt (-depth) inside left text := by
  induction text generalizing depth inside with
  | nil => exact ⟨nofun, fun h => absurd h.eq (by simp)⟩
  | cons c rest ih =>
    have hmap {d : Nat} (hd : (-d : Int) = -depth - braceDepth [c]) :
        (takeBraced d rest).map (fun found => (c :: found.1, found.2)) = some (inside, left) ↔
          ∃ more, inside = c :: more ∧ ClosesAt (-depth - braceDepth [c]) more left rest := by
      rw [← hd]
      simp only [← ih, Option.map_eq_some_iff, Prod.mk.injEq, Prod.exists]
      constructor
      · rintro ⟨more, _, h, rfl, rfl⟩
        exact ⟨more, rfl, h⟩
      · rintro ⟨more, rfl, h⟩
        exact ⟨more, left, h, rfl, rfl⟩
    rw [takeBraced.eq_def]
    dsimp only
    split
    · subst c
      rw [closesAt_cons (by omega) fun h => absurd h (by decide)]
      exact hmap (by simp; omega)
    · split
      · subst c
        cases depth with
        | zero =>
          dsimp only
          rw [Option.some_inj, Prod.mk.injEq]
          constructor
          · rintro ⟨rfl, rfl⟩
            exact ⟨rfl, rfl, fun before hb => by rw [List.prefix_nil.mp hb]; exact Int.le_refl 0⟩
          · rintro ⟨heq, hd, hs⟩
            cases inside with
            | nil => exact ⟨rfl, (List.cons.inj heq).2⟩
            | cons d more =>
              obtain ⟨rfl, -⟩ := List.cons_eq_cons.mp heq
              exact absurd (staysAbove_cons.mp hs).2.le (by simp)
        | succ outer =>
          rw [closesAt_cons (by omega) (by omega)]
          exact hmap (by rw [braceDepth_closing, braceDepth_nil]; omega)
      · rw [closesAt_cons (by omega) fun h => absurd h ‹_›]
        exact hmap (by rw [braceDepth_other ‹_› ‹_›]; simp)

/-- What is taken behind an opening brace is balanced, and ends where the brace is closed. -/
theorem takeBraced_zero_iff : takeBraced 0 text = some (inside, left) ↔
    text = inside ++ '\x7d' :: left ∧ IsBalanced inside := by
  rw [takeBraced_iff]
  exact ⟨fun h => ⟨h.eq, h.depth, h.staysAbove⟩, fun ⟨he, hb⟩ => ⟨he, hb.depth, hb.staysAbove⟩⟩

theorem staysAbove_of_takeBraced (h : takeBraced depth text = none) : StaysAbove (-depth) text := by
  induction text generalizing depth with
  | nil =>
    intro before hb
    rw [List.prefix_nil.mp hb]
    exact Int.neg_nonpos_of_nonneg (Int.natCast_nonneg depth)
  | cons c rest ih =>
    have hrest {d : Nat} (hd : (-d : Int) = -depth - braceDepth [c])
        (h : (takeBraced d rest).map (fun found => (c :: found.1, found.2)) = none) :
        StaysAbove (-depth) (c :: rest) :=
      staysAbove_cons.mpr ⟨by omega, hd ▸ ih (Option.map_eq_none_iff.mp h)⟩
    rw [takeBraced.eq_def] at h
    dsimp only at h
    split at h
    · subst c
      exact hrest (by simp; omega) h
    · split at h
      · subst c
        cases depth with
        | zero => cases h
        | succ outer => exact hrest (by rw [braceDepth_closing, braceDepth_nil]; omega) h
      · exact hrest (by rw [braceDepth_other ‹_› ‹_›]; simp) h

/-- An opening brace is never closed exactly if the depth behind it does not go below zero. -/
theorem not_closesFirst_iff : ¬ClosesFirst ('\x7b' :: text) ↔ StaysAbove 0 text := by
  constructor
  · intro h
    cases ht : takeBraced 0 text with
    | none => exact staysAbove_of_takeBraced ht
    | some found =>
      obtain ⟨inside, left⟩ := found
      obtain ⟨rfl, hb⟩ := takeBraced_zero_iff.mp ht
      refine absurd ⟨'\x7b' :: (inside ++ ['\x7d']), nofun, ?_, ?_⟩ h
      · exact ⟨left, by simp⟩
      · simp [hb.depth]
  · rintro hs ⟨before, hne, hp, hd⟩
    rcases List.prefix_cons_iff.mp hp with rfl | ⟨more, rfl, hm⟩
    · exact hne rfl
    · have hmore := hs more hm
      rw [braceDepth_opening] at hd
      omega

theorem takeBraced_eq_none_iff : takeBraced 0 text = none ↔ ¬ClosesFirst ('\x7b' :: text) := by
  rw [not_closesFirst_iff]
  refine ⟨staysAbove_of_takeBraced, fun hs => ?_⟩
  rw [Option.eq_none_iff_forall_not_mem]
  rintro ⟨inside, left⟩ ht
  obtain ⟨rfl, hb⟩ := takeBraced_zero_iff.mp ht
  have hlow := hs (inside ++ ['\x7d']) ⟨left, by simp⟩
  rw [braceDepth_append, hb.depth, braceDepth_closing] at hlow
  exact absurd hlow (by decide)

theorem IsBalanced.staysAbove_braced (h : IsBalanced inside) :
    StaysAbove 0 ('\x7b' :: (inside ++ ['\x7d'])) := by
  refine staysAbove_cons.mpr ⟨Int.le_refl 0, fun before hb => ?_⟩
  rw [braceDepth_opening, braceDepth_nil]
  rcases List.prefix_concat_iff.mp hb with rfl | hb
  · simp [h.depth]
  · have hbefore := h.staysAbove before hb
    omega

/-- Every opening brace of a balanced text in braces is closed in it. -/
theorem IsBalanced.closesFirst (h : IsBalanced inside) {before behind : List Char}
    (he : '\x7b' :: (inside ++ ['\x7d']) = before ++ '\x7b' :: behind) (left : List Char) :
    ClosesFirst ('\x7b' :: (behind ++ left)) := by
  by_contra hc
  have hbehind := not_closesFirst_iff.mp hc behind (List.prefix_append behind left)
  have htotal := congrArg braceDepth he
  have hbefore : 0 ≤ braceDepth before := h.staysAbove_braced before ⟨_, he.symm⟩
  simp only [braceDepth_append, braceDepth_opening, braceDepth_closing, h.depth,
    braceDepth_nil] at htotal
  omega

end Braced

/-! ## Divisions -/

namespace Segment

/-- A segment as it stands in the template. -/
def chars : Segment → List Char
  | .text chars => chars
  | .braced inside => '\x7b' :: (inside ++ ['\x7d'])

def isText : Segment → Bool
  | .text _ => true
  | .braced _ => false

/-- The part of a template that a segment is read as. -/
inductive Gives : Segment → TemplatePart → Prop
  | text (chars : List Char) : Gives (.text chars) (.text (String.ofList chars))
  | expr {inside : List Char} {e : Expr} (h : Expr.parse (String.ofList inside) = .ok e) :
      Gives (.braced inside) (.expr e)

end Segment

/-- How a text is divided: into balanced texts in braces, and into literal texts as long as they can
be. An opening brace lies in a literal text exactly if it is never closed. -/
structure IsDivision (segments : List Segment) (text : List Char) : Prop where
  eq : segments.flatMap Segment.chars = text
  balanced {inside : List Char} (h : .braced inside ∈ segments) : IsBalanced inside
  ne_nil {chars : List Char} (h : .text chars ∈ segments) : chars ≠ []
  apart : segments.IsChain fun a b => ¬(a.isText ∧ b.isText)
  opening : ∀ before segment after passed rest, segments = before ++ segment :: after →
    segment.chars = passed ++ '\x7b' :: rest →
    (segment.isText ↔ ¬ClosesFirst ('\x7b' :: (rest ++ after.flatMap Segment.chars)))

/-- Whether no opening brace of a text is closed, in it or in what is left behind it. -/
def Unclosed (text left : List Char) : Prop :=
  ∀ passed rest, text = passed ++ '\x7b' :: rest → ¬ClosesFirst ('\x7b' :: (rest ++ left))

section Division

variable {segments : List Segment} {chars inside left text : List Char} {c : Char}

theorem unclosed_nil (left : List Char) : Unclosed [] left := fun _ _ h => by simp at h

theorem unclosed_cons : Unclosed (c :: text) left ↔
    (c = '\x7b' → ¬ClosesFirst ('\x7b' :: (text ++ left))) ∧ Unclosed text left := by
  constructor
  · intro h
    exact ⟨fun hc => h [] text (by rw [hc]; rfl),
      fun passed rest he => h (c :: passed) rest (by rw [he]; rfl)⟩
  · rintro ⟨hc, h⟩ passed rest he
    cases passed with
    | nil =>
      obtain ⟨rfl, rfl⟩ := List.cons_eq_cons.mp he
      exact hc rfl
    | cons d passed =>
      obtain ⟨rfl, rfl⟩ := List.cons_eq_cons.mp he
      exact h passed rest rfl

theorem unclosed_singleton (h : ¬ClosesFirst ('\x7b' :: left)) : Unclosed ['\x7b'] left :=
  unclosed_cons.mpr ⟨fun _ => h, unclosed_nil left⟩

theorem unclosed_append {text' : List Char} :
    Unclosed (text ++ text') left ↔ Unclosed text (text' ++ left) ∧ Unclosed text' left := by
  induction text with
  | nil => simp [unclosed_nil]
  | cons c text ih => rw [List.cons_append, unclosed_cons, unclosed_cons, ih, List.append_assoc,
      and_assoc]

theorem isDivision_nil : IsDivision [] text ↔ text = [] := by
  constructor
  · exact fun h => h.eq.symm
  · rintro rfl
    exact ⟨rfl, nofun, nofun, .nil, fun _ _ _ _ _ hs => by simp at hs⟩

/-- Whether a segment may stand before what is left of a text. -/
inductive Segment.Stands (left : List Char) : Segment → Prop
  | text {chars : List Char} (hne : chars ≠ []) (hu : Unclosed chars left) :
    Stands left (.text chars)
  | braced {inside : List Char} (hb : IsBalanced inside) : Stands left (.braced inside)

theorem IsDivision.stands {segment : Segment} (h : IsDivision (segment :: segments) text) :
    segment.Stands (segments.flatMap Segment.chars) := by
  cases segment with
  | text chars =>
    refine .text (h.ne_nil List.mem_cons_self) fun _ _ hc => ?_
    exact (h.opening [] _ segments _ _ rfl hc).mp rfl
  | braced inside => exact .braced (h.balanced List.mem_cons_self)

theorem isDivision_cons {segment : Segment} : IsDivision (segment :: segments) text ↔
    ∃ left, text = segment.chars ++ left ∧ segment.Stands left ∧
      (∀ next ∈ segments.head?, ¬(segment.isText ∧ next.isText)) ∧ IsDivision segments left := by
  constructor
  · intro h
    obtain ⟨hnext, hchain⟩ := List.isChain_cons.mp h.apart
    refine ⟨segments.flatMap Segment.chars, h.eq.symm, h.stands, hnext, rfl, ?_, ?_, hchain, ?_⟩
    · exact fun hm => h.balanced (List.mem_cons_of_mem _ hm)
    · exact fun hm => h.ne_nil (List.mem_cons_of_mem _ hm)
    · exact fun before other after passed rest hs hc =>
        h.opening (segment :: before) other after passed rest (by rw [hs]; rfl) hc
  · rintro ⟨left, rfl, hstands, hnext, h⟩
    refine ⟨?_, fun hm => ?_, fun hm => ?_, List.isChain_cons.mpr ⟨hnext, h.apart⟩, ?_⟩
    · rw [List.flatMap_cons, h.eq]
    · rcases List.mem_cons.mp hm with rfl | hm
      · cases hstands with
        | braced hb => exact hb
      · exact h.balanced hm
    · rcases List.mem_cons.mp hm with rfl | hm
      · cases hstands with
        | text hne => exact hne
      · exact h.ne_nil hm
    · intro before after other passed rest hs hc
      cases before with
      | nil =>
        obtain ⟨rfl, rfl⟩ := List.cons_eq_cons.mp hs
        rw [h.eq]
        cases hstands with
        | text hne hu => exact iff_of_true rfl (hu _ _ hc)
        | braced hb => exact iff_of_false nofun (not_not.mpr (hb.closesFirst hc left))
      | cons first before =>
        obtain ⟨-, rfl⟩ := List.cons_eq_cons.mp hs
        exact h.opening _ _ _ _ _ rfl hc

end Division

/-! ## The division that a template is read by -/

section Reading

variable {passed text left : List Char} {division : List Segment}

theorem isDivision_ofPassed (hu : Unclosed passed.reverse left) (h : IsDivision division left)
    (hn : ∀ next ∈ division.head?, next.isText = false) :
    IsDivision (Segment.ofPassed passed ++ division) (passed.reverse ++ left) := by
  unfold Segment.ofPassed
  split
  · rename_i hp
    obtain rfl := List.isEmpty_iff.mp hp
    exact h
  · rename_i hp
    have hne : passed.reverse ≠ [] := by simpa using hp
    refine isDivision_cons.mpr ⟨left, rfl, .text hne hu, fun next hm => ?_, h⟩
    simp [hn next hm]

/-- The segments of a text divide it, behind a passed text in which no brace is closed. -/
theorem isDivision_segments (hu : Unclosed passed.reverse text) :
    IsDivision (segments passed text) (passed.reverse ++ text) := by
  fun_induction segments passed text with
  | case1 passed =>
    have h := isDivision_ofPassed hu (isDivision_nil.mpr rfl) (by simp)
    rwa [List.append_nil] at h
  | case2 passed rest inside left ht hlt ih =>
    obtain ⟨rfl, hb⟩ := takeBraced_zero_iff.mp ht
    refine isDivision_ofPassed hu ?_ (by simp [Segment.isText])
    refine isDivision_cons.mpr ⟨left, ?_, .braced hb, fun next _ => ?_, ih (unclosed_nil left)⟩
    · simp [Segment.chars]
    · simp [Segment.isText]
  | case3 passed rest ht ih =>
    have h := ih ?_
    · simpa using h
    · rw [List.reverse_cons, unclosed_append]
      exact ⟨hu, unclosed_singleton (takeBraced_eq_none_iff.mp ht)⟩
  | case4 passed c rest hc ih =>
    have h := ih ?_
    · simpa using h
    · rw [List.reverse_cons, unclosed_append]
      exact ⟨hu, unclosed_cons.mpr ⟨fun he => absurd he hc, unclosed_nil rest⟩⟩

/-- A brace that is never closed does not keep a later one from being closed. -/
example : segments [] "\x7ba\x7bb\x7d".toList = [.text ['\x7b', 'a'], .braced ['b']] := by cbv

theorem segments_unclosed {chars : List Char} (hu : Unclosed chars left) (passed : List Char) :
    segments passed (chars ++ left) = segments (chars.reverse ++ passed) left := by
  induction chars generalizing passed with
  | nil => rfl
  | cons c chars ih =>
    obtain ⟨hc, hu⟩ := unclosed_cons.mp hu
    have hskip :
        segments passed (c :: (chars ++ left)) = segments (c :: passed) (chars ++ left) := by
      rw [segments]
      split
      · rename_i ho
        split
        · rename_i inside more ht
          rw [takeBraced_eq_none_iff.mpr (hc ho)] at ht
          cases ht
        · rfl
      · rfl
    rw [List.cons_append, hskip, ih hu, List.reverse_cons, List.append_assoc]
    rfl

theorem segments_braced {inside : List Char} (hb : IsBalanced inside) (passed left : List Char) :
    segments passed ('\x7b' :: (inside ++ '\x7d' :: left)) =
      Segment.ofPassed passed ++ .braced inside :: segments [] left := by
  have hsome : takeBraced 0 (inside ++ '\x7d' :: left) = some (inside, left) :=
    takeBraced_zero_iff.mpr ⟨rfl, hb⟩
  rw [segments, if_pos rfl]
  split
  · rename_i ht
    cases hsome.symm.trans ht
    rfl
  · rename_i ht
    cases hsome.symm.trans ht

/-- A text has no other division than its segments. -/
theorem IsDivision.eq_segments (h : IsDivision division text) : division = segments [] text := by
  induction division generalizing text with
  | nil =>
    rw [isDivision_nil.mp h, segments]
    rfl
  | cons segment rest ih =>
    obtain ⟨left, rfl, hstands, hnext, hrest⟩ := isDivision_cons.mp h
    cases hstands with
    | @braced inside hb =>
      have hs := segments_braced hb [] left
      rw [← ih hrest] at hs
      simpa [Segment.chars, Segment.ofPassed] using hs.symm
    | @text chars hne hu =>
      have hp : Segment.ofPassed chars.reverse = [.text chars] := by simp [Segment.ofPassed, hne]
      rw [Segment.chars, segments_unclosed hu, List.append_nil]
      cases rest with
      | nil => rw [isDivision_nil.mp hrest, segments, hp]
      | cons next rest =>
        -- Behind a literal text, a segment in braces ends what has been passed over.
        obtain ⟨more, rfl, hstands, -, -⟩ := isDivision_cons.mp hrest
        cases hstands with
        | text => exact absurd ⟨rfl, rfl⟩ (hnext _ rfl)
        | @braced inside hb =>
          have hs := ih hrest
          have hc : (Segment.braced inside).chars ++ more =
              '\x7b' :: (inside ++ '\x7d' :: more) := by simp [Segment.chars]
          rw [hc, segments_braced hb] at hs ⊢
          rw [hp, hs]
          rfl

end Reading

/-! ## Parts -/

def TemplatePart.isText : TemplatePart → Bool
  | .text _ => true
  | .expr _ => false

section Parts

variable {division : List Segment} {template : Template} {text : List Char}

theorem Segment.Gives.isText_eq {segment : Segment} {part : TemplatePart}
    (h : segment.Gives part) : part.isText = segment.isText := by
  cases h <;> rfl

theorem isText_parts (h : List.Forall₂ Segment.Gives division template) :
    template.map TemplatePart.isText = division.map Segment.isText := by
  induction h with
  | nil => rfl
  | cons hg _ ih => rw [List.map_cons, List.map_cons, hg.isText_eq, ih]

theorem mem_of_literal (h : List.Forall₂ Segment.Gives division template) {literal : String}
    (hm : .text literal ∈ template) : .text literal.toList ∈ division := by
  induction h with
  | nil => cases hm
  | cons hg _ ih =>
    rcases List.mem_cons.mp hm with rfl | hm
    · cases hg
      rw [String.toList_ofList]
      exact List.mem_cons_self
    · exact List.mem_cons_of_mem _ (ih hm)

theorem Segment.parse_eq_ok {segment : Segment} {part : TemplatePart} :
    segment.parse = .ok part ↔ segment.Gives part := by
  constructor
  · intro h
    cases segment with
    | text chars =>
      cases h
      exact .text chars
    | braced inside =>
      obtain ⟨e, he, rfl⟩ := Result.map_eq_ok.mp h
      exact .expr he
  · rintro (chars | he)
    · rfl
    · exact Result.map_eq_ok.mpr ⟨_, he, rfl⟩

theorem Segment.parse_eq_error {segment : Segment} {failure : Failure}
    (h : segment.parse = .error failure) :
    ∃ inside, segment = .braced inside ∧ Expr.parse (String.ofList inside) = .error failure := by
  cases segment with
  | text chars => cases h
  | braced inside =>
    refine ⟨inside, rfl, ?_⟩
    rw [Segment.parse] at h
    cases he : Expr.parse (String.ofList inside) with
    | ok e =>
      rw [he] at h
      cases h
    | error other =>
      rw [he] at h
      cases h
      rfl

theorem Result.mapM_eq_ok_iff {α β : Type} {f : α → Result β} {as : List α} {bs : List β} :
    as.mapM f = .ok bs ↔ List.Forall₂ (fun a b => f a = .ok b) as bs := by
  induction as generalizing bs with
  | nil =>
    constructor
    · rintro ⟨⟩
      exact .nil
    · rintro ⟨⟩
      rfl
  | cons a as ih =>
    rw [List.mapM_cons]
    constructor
    · intro h
      obtain ⟨b, hb, h⟩ := Result.bind_eq_ok.mp h
      obtain ⟨bs, hbs, h⟩ := Result.bind_eq_ok.mp h
      cases h
      exact .cons hb (ih.mp hbs)
    · intro h
      cases h with
      | cons hb hbs =>
        exact Result.bind_eq_ok.mpr ⟨_, hb, Result.bind_eq_ok.mpr ⟨_, ih.mpr hbs, rfl⟩⟩

/-- A list is mapped in order, up to the first failure. -/
theorem Result.mapM_cases {ε α β : Type} (f : α → Except ε β) (as : List α) :
    (∃ bs, as.mapM f = .ok bs) ∨ ∃ before a after failure, as = before ++ a :: after ∧
      (∀ other ∈ before, ∃ b, f other = .ok b) ∧ f a = .error failure ∧
      as.mapM f = .error failure := by
  induction as with
  | nil => exact .inl ⟨[], rfl⟩
  | cons a as ih =>
    rw [List.mapM_cons]
    cases ha : f a with
    | error failure => exact .inr ⟨[], a, as, failure, rfl, nofun, ha, rfl⟩
    | ok b =>
      rcases ih with ⟨bs, hbs⟩ | ⟨before, a', after, failure, rfl, hok, hfails, herror⟩
      · rw [hbs]
        exact .inl ⟨b :: bs, rfl⟩
      · refine .inr ⟨a :: before, a', after, failure, rfl, ?_, hfails, ?_⟩
        · exact List.forall_mem_cons.mpr ⟨⟨b, ha⟩, hok⟩
        · rw [herror]
          rfl

theorem Template.parse_eq_ok_iff {text : String} : Template.parse text = .ok template ↔
    List.Forall₂ Segment.Gives (segments [] text.toList) template := by
  rw [Template.parse, Result.mapM_eq_ok_iff]
  exact ⟨List.Forall₂.imp fun _ _ => Segment.parse_eq_ok.mp,
    List.Forall₂.imp fun _ _ => Segment.parse_eq_ok.mpr⟩

/-- A text has one division. Its template has a part for each segment in order, the text of a
literal segment or the expression inside of braces, without empty literals and without literals next
to each other. If an expression does not read, reading fails with the failure of the first one. -/
theorem template_partitions (text : String) :
    ∃ division, IsDivision division text.toList ∧
      (∀ other, IsDivision other text.toList → other = division) ∧
      ((∃ template, Template.parse text = .ok template ∧
          List.Forall₂ Segment.Gives division template ∧
          (∀ literal, .text literal ∈ template → literal ≠ "") ∧
          template.IsChain fun a b => ¬(a.isText ∧ b.isText)) ∨
        ∃ before inside after failure, division = before ++ .braced inside :: after ∧
          (∀ other, .braced other ∈ before → ∃ e, Expr.parse (String.ofList other) = .ok e) ∧
          Expr.parse (String.ofList inside) = .error failure ∧
          Template.parse text = .error failure) := by
  have hdivision : IsDivision (segments [] text.toList) text.toList :=
    isDivision_segments (unclosed_nil _)
  refine ⟨segments [] text.toList, hdivision, fun other h => h.eq_segments, ?_⟩
  rcases Result.mapM_cases Segment.parse (segments [] text.toList) with
    ⟨template, hparse⟩ | ⟨before, segment, after, failure, hs, hok, hfails, hparse⟩
  · left
    have hgives := Template.parse_eq_ok_iff.mp hparse
    refine ⟨template, hparse, hgives, fun literal hm he => ?_, ?_⟩
    · refine hdivision.ne_nil (mem_of_literal hgives hm) ?_
      rw [he]
      rfl
    · have hapart : ((segments [] text.toList).map Segment.isText).IsChain
          fun (a b : Bool) => ¬(a ∧ b) := (List.isChain_map _).mpr hdivision.apart
      rw [← isText_parts hgives] at hapart
      exact (List.isChain_map _).mp hapart
  · right
    obtain ⟨inside, rfl, he⟩ := Segment.parse_eq_error hfails
    refine ⟨before, inside, after, failure, hs, fun other ho => ?_, he, hparse⟩
    obtain ⟨part, hp⟩ := hok _ ho
    cases Segment.parse_eq_ok.mp hp with
    | expr h => exact ⟨_, h⟩

end Parts

end DocScript
