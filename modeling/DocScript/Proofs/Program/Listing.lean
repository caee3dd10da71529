import DocScript.Program.Compile

/-! # Bodies as lists

A body lists its statements in preorder, each with the level of the block in which it stands. A
draft lists those of its open blocks, and the steps of a draft do to the list what they do to the
body that the draft ends in.
-/

namespace DocScript

/-- Whether a statement neither nests nor ends a block. -/
def Statement.isSimple : Statement → Bool
  | .cond _ _ _ => false
  | .stop _ => false
  | _ => true

mutual

/-- A statement and the statements in it. A conditional is listed without its body. -/
def Statement.preorder (level : Nat) : Statement → List (Statement × Nat)
  | .cond condition body line =>
    (.cond condition [] line, level) :: preorderAll (level + 1) body
  | statement => [(statement, level)]

def preorderAll (level : Nat) : List Statement → List (Statement × Nat)
  | [] => []
  | statement :: rest => statement.preorder level ++ preorderAll level rest

end

mutual

/-- The bodies of the conditionals in a statement, at any level. -/
def Statement.blocks : Statement → List (List Statement)
  | .cond _ body _ => body :: blocksOf body
  | _ => []

def blocksOf : List Statement → List (List Statement)
  | [] => []
  | statement :: rest => statement.blocks ++ blocksOf rest

end

/-- A break is at most the last statement of a block. -/
def BreaksLast (block : List Statement) : Prop := ∀ line, .stop line ∉ block.dropLast

theorem preorderAll_eq_flatMap (level : Nat) (xs : List Statement) :
    preorderAll level xs = xs.flatMap (Statement.preorder level) := by
  induction xs with
  | nil => rfl
  | cons x xs ih => rw [preorderAll, ih, List.flatMap_cons]

theorem blocksOf_eq_flatMap (xs : List Statement) : blocksOf xs = xs.flatMap Statement.blocks := by
  induction xs with
  | nil => rfl
  | cons x xs ih => rw [blocksOf, ih, List.flatMap_cons]

theorem preorderAll_concat (level : Nat) (xs : List Statement) (s : Statement) :
    preorderAll level (xs ++ [s]) = preorderAll level xs ++ s.preorder level := by
  simp only [preorderAll_eq_flatMap, List.flatMap_append, List.flatMap_singleton]

theorem preorder_of_simple {s : Statement} (h : s.isSimple) (level : Nat) :
    s.preorder level = [(s, level)] := by
  cases s <;> first | rfl | cases h

theorem blocks_of_simple {s : Statement} (h : s.isSimple) : s.blocks = [] := by
  cases s <;> first | rfl | cases h

/-! ## The list determines the body -/

/-- A conditional without its body. -/
def Statement.bare : Statement → Statement
  | .cond condition _ line => .cond condition [] line
  | statement => statement

/-- The body of a conditional. -/
def Statement.inner : Statement → List Statement
  | .cond _ body _ => body
  | _ => []

theorem preorder_eq (level : Nat) (s : Statement) :
    s.preorder level = (s.bare, level) :: preorderAll (level + 1) s.inner := by
  cases s <;> rfl

theorem eq_of_bare_of_inner {s t : Statement} (hbare : s.bare = t.bare)
    (hinner : s.inner = t.inner) : s = t := by
  cases s <;> cases t <;> simp_all [Statement.bare, Statement.inner]

theorem sizeOf_inner_le (s : Statement) : sizeOf s.inner ≤ sizeOf s := by
  cases s with
  | cond condition body line =>
    simp only [Statement.inner, Statement.cond.sizeOf_spec]
    omega
  | _ => simp [Statement.inner, Nat.add_assoc]

theorem le_of_mem_preorderAll {level : Nat} {p : Statement × Nat} :
    ∀ {xs : List Statement}, p ∈ preorderAll level xs → level ≤ p.2
  | [], h => by simp [preorderAll] at h
  | s :: rest, h => by
    rw [preorderAll, preorder_eq, List.mem_append, List.mem_cons] at h
    rcases h with (rfl | h) | h
    · exact Nat.le_refl level
    · have := sizeOf_inner_le s
      exact Nat.le_of_succ_le (le_of_mem_preorderAll h)
    · exact le_of_mem_preorderAll h
termination_by xs => sizeOf xs

/-- The first statement of a block stands at the level of the block. -/
theorem preorderAll_head {level : Nat} {xs : List Statement} {p : Statement × Nat}
    {rest : List (Statement × Nat)} (h : preorderAll level xs = p :: rest) : p.2 = level := by
  cases xs with
  | nil => simp [preorderAll] at h
  | cons x xs =>
    rw [preorderAll, preorder_eq] at h
    rw [← (List.cons.inj h).1]

/-- What stands deeper than a block ends where the block goes on. -/
theorem append_cancel {level : Nat} {as bs : List (Statement × Nat)} {xs ys : List Statement}
    (has : ∀ p ∈ as, level < p.2) (hbs : ∀ p ∈ bs, level < p.2)
    (h : as ++ preorderAll level xs = bs ++ preorderAll level ys) :
    as = bs ∧ preorderAll level xs = preorderAll level ys := by
  induction as generalizing bs with
  | nil =>
    cases bs with
    | nil => exact ⟨rfl, h⟩
    | cons b bs =>
      have hb := hbs b List.mem_cons_self
      rw [preorderAll_head h] at hb
      exact absurd hb (Nat.lt_irrefl level)
  | cons a as ih =>
    have ha := has a List.mem_cons_self
    cases bs with
    | nil =>
      rw [preorderAll_head h.symm] at ha
      exact absurd ha (Nat.lt_irrefl level)
    | cons b bs =>
      simp only [List.cons_append, List.cons.injEq] at h
      obtain ⟨rfl, h⟩ := h
      obtain ⟨rfl, hrest⟩ := ih (fun p hp => has p (List.mem_cons_of_mem a hp))
        (fun p hp => hbs p (List.mem_cons_of_mem a hp)) h
      exact ⟨rfl, hrest⟩

theorem preorderAll_injective : ∀ {level : Nat} {xs ys : List Statement},
    preorderAll level xs = preorderAll level ys → xs = ys
  | _, [], [], _ => rfl
  | _, [], _ :: _, h => by simp [preorderAll, preorder_eq] at h
  | _, _ :: _, [], h => by simp [preorderAll, preorder_eq] at h
  | level, x :: xs, y :: ys, h => by
    simp only [preorderAll, preorder_eq, List.cons_append, List.cons.injEq, Prod.mk.injEq,
      and_true] at h
    obtain ⟨hbare, h⟩ := h
    obtain ⟨hinner, hrest⟩ := append_cancel (fun _ hp => le_of_mem_preorderAll hp)
      (fun _ hp => le_of_mem_preorderAll hp) h
    have := sizeOf_inner_le x
    rw [eq_of_bare_of_inner hbare (preorderAll_injective hinner), preorderAll_injective hrest]
termination_by _ xs => sizeOf xs

/-! ## Drafts -/

/-- The list of the blocks around the innermost open one, up to where that one begins. -/
def openListing : List OpenBlock → List (Statement × Nat)
  | [] => []
  | block :: outer =>
    openListing outer ++ preorderAll (outer.length + 1) block.before.reverse ++
      [(.cond block.condition [] block.line, outer.length + 1)]

/-- The blocks that are closed end in their breaks, and those that are open in a conditional have
none. -/
def TidyIn (statements : List Statement) : List OpenBlock → Prop
  | [] => ∀ block ∈ blocksOf statements, BreaksLast block
  | around :: outer =>
    (∀ block ∈ blocksOf statements, BreaksLast block) ∧ (∀ line, .stop line ∉ statements) ∧
      TidyIn around.before outer

theorem TidyIn.closed {statements : List Statement} {opened : List OpenBlock}
    (h : TidyIn statements opened) : ∀ block ∈ blocksOf statements, BreaksLast block := by
  cases opened with
  | nil => exact h
  | cons around outer => exact h.1

theorem TidyIn.cons {statements : List Statement} {opened : List OpenBlock} {s : Statement}
    (h : TidyIn statements opened) (hblocks : ∀ block ∈ s.blocks, BreaksLast block)
    (hs : ∀ line, s ≠ .stop line) : TidyIn (s :: statements) opened := by
  have hclosed : ∀ block ∈ blocksOf (s :: statements), BreaksLast block := by
    rw [blocksOf]
    exact fun block hb => (List.mem_append.mp hb).elim (hblocks block) (h.closed block)
  cases opened with
  | nil => exact hclosed
  | cons around outer =>
    obtain ⟨-, hopen, houter⟩ := h
    refine ⟨hclosed, fun line hmem => ?_, houter⟩
    rcases List.mem_cons.mp hmem with rfl | hmem
    · exact hs line rfl
    · exact hopen line hmem

theorem TidyIn.nest {statements : List Statement} {around : OpenBlock} {outer : List OpenBlock}
    (hclosed : ∀ block ∈ blocksOf statements, BreaksLast block)
    (hbreaks : ∀ line, .stop line ∉ statements.tail) (houter : TidyIn around.before outer) :
    TidyIn (.cond around.condition statements.reverse around.line :: around.before) outer := by
  refine houter.cons (fun block hb => ?_) (by rintro line ⟨⟩)
  rcases List.mem_cons.mp hb with rfl | hb
  · intro line
    rw [List.dropLast_reverse, List.mem_reverse]
    exact hbreaks line
  · refine hclosed block ?_
    rw [blocksOf_eq_flatMap, List.mem_flatMap] at hb ⊢
    simpa only [List.mem_reverse] using hb

namespace Draft

/-- What the draft lists so far. -/
def listing (draft : Draft) : List (Statement × Nat) :=
  openListing draft.opened ++ preorderAll draft.depth draft.statements.reverse

theorem listing_push (draft : Draft) (s : Statement) :
    (draft.push s).listing = draft.listing ++ s.preorder draft.depth := by
  simp only [listing, push, depth, List.reverse_cons, preorderAll_concat, List.append_assoc]

theorem listing_openBlock (draft : Draft) (condition : Expr) (line : Line) :
    (draft.openBlock condition line).listing
      = draft.listing ++ [(.cond condition [] line, draft.depth)] := by
  simp [listing, openBlock, openListing, depth, preorderAll]

theorem listing_close (draft : Draft) : draft.close.listing = draft.listing := by
  obtain ⟨name, parameters, statements, _ | ⟨around, outer⟩⟩ := draft
  · rfl
  · simp [listing, close, openListing, depth, preorderAll_concat, Statement.preorder]

theorem depth_close (draft : Draft) : draft.close.depth = max 1 (draft.depth - 1) := by
  obtain ⟨name, parameters, statements, _ | ⟨around, outer⟩⟩ := draft
  · rfl
  · simp [close, depth]

theorem name_close (draft : Draft) : draft.close.name = draft.name := by
  obtain ⟨name, parameters, statements, _ | ⟨around, outer⟩⟩ := draft <;> rfl

theorem listing_closeTo (draft : Draft) (n : Nat) : (draft.closeTo n).listing = draft.listing := by
  induction n generalizing draft with
  | zero => rfl
  | succ n ih => rw [closeTo, ih, listing_close]

theorem depth_closeTo (draft : Draft) (n : Nat) :
    (draft.closeTo n).depth = max 1 (draft.depth - n) := by
  induction n generalizing draft with
  | zero => simp [closeTo, depth]
  | succ n ih =>
    rw [closeTo, ih, depth_close]
    omega

theorem name_closeTo (draft : Draft) (n : Nat) : (draft.closeTo n).name = draft.name := by
  induction n generalizing draft with
  | zero => rfl
  | succ n ih => rw [closeTo, ih, name_close]

theorem name_finish (draft : Draft) : draft.finish.name = draft.name :=
  draft.name_closeTo draft.opened.length

/-- The body that a draft ends in lists what the draft lists. -/
theorem preorderAll_finish (draft : Draft) : preorderAll 1 draft.finish.body = draft.listing := by
  have hdepth := draft.depth_closeTo draft.opened.length
  have hopened : (draft.closeTo draft.opened.length).opened = [] := by
    rw [← List.length_eq_zero_iff]
    simp only [depth] at hdepth
    omega
  rw [← draft.listing_closeTo draft.opened.length, listing, depth, hopened]
  rfl

/-- Breaks stand where they end blocks. -/
def Tidy (draft : Draft) : Prop := TidyIn draft.statements draft.opened

theorem tidy_ofName (name : String) : (ofName name).Tidy := by
  intro block hb
  cases hb

theorem Tidy.push {draft : Draft} (h : draft.Tidy) {s : Statement} (hs : s.isSimple) :
    (draft.push s).Tidy := by
  refine TidyIn.cons h ?_ ?_
  · simp [blocks_of_simple hs]
  · rintro line rfl
    cases hs

theorem Tidy.openBlock {draft : Draft} (h : draft.Tidy) (condition : Expr) (line : Line) :
    (draft.openBlock condition line).Tidy :=
  ⟨by rintro block ⟨⟩, by rintro line ⟨⟩, h⟩

theorem Tidy.close {draft : Draft} (h : draft.Tidy) : draft.close.Tidy := by
  obtain ⟨name, parameters, statements, _ | ⟨around, outer⟩⟩ := draft
  · exact h
  · obtain ⟨hclosed, hbreaks, houter⟩ := h
    exact TidyIn.nest hclosed (fun line hmem => hbreaks line (List.mem_of_mem_tail hmem)) houter

theorem Tidy.closeTo {draft : Draft} (h : draft.Tidy) (n : Nat) : (draft.closeTo n).Tidy := by
  induction n generalizing draft with
  | zero => exact h
  | succ n ih => exact ih h.close

/-- A break may be put into a block that is closed with it. -/
theorem Tidy.break {draft : Draft} (h : draft.Tidy) (line : Line) :
    (draft.push (.stop line)).close.Tidy := by
  obtain ⟨name, parameters, statements, _ | ⟨around, outer⟩⟩ := draft
  · exact h
  · obtain ⟨hclosed, hbreaks, houter⟩ := h
    exact TidyIn.nest hclosed hbreaks houter

theorem Tidy.finish {draft : Draft} (h : draft.Tidy) :
    ∀ block ∈ blocksOf draft.finish.body, BreaksLast block := by
  intro block hb
  refine (h.closeTo draft.opened.length).closed block ?_
  rw [Draft.finish, blocksOf_eq_flatMap, List.mem_flatMap] at hb
  simpa only [List.mem_reverse, blocksOf_eq_flatMap, List.mem_flatMap] using hb

end Draft

end DocScript
