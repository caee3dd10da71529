import DocScript.Proofs.Program.Listing

/-! # The nesting that headings prescribe

A level says how the blocks of a section nest: a heading lowers it to its own depth less one and may
open a conditional there, and a break goes back by one. The body that is read from a section lists
what the section yields at its levels.
-/

namespace DocScript

open Markdown (Node Content)

/-- What a block yields at a level, and the level that it leaves. -/
def yieldOf (level : Nat) (node : Node) : Result (List (Statement × Nat) × Nat) :=
  match node.content with
  | .heading none => .error (.fault (.badDepth none))
  | .heading (some depth) =>
    if depth < 2 then .error (.fault (.badDepth (some depth)))
    else
      let level := min level (depth.toNat - 1)
      let condition := (node.emphasized?).getD ""
      if level = depth.toNat - 1 ∧ condition ≠ "" then
        (parseAt node.line condition).map fun condition =>
          ([(.cond condition [] node.line, level)], depth.toNat)
      else .ok ([], level)
  | .thematicBreak => .ok ([(.stop node.line, level)], max 1 (level - 1))
  | .paragraph =>
    (readParagraph node).map fun statement => (statement.toList.map fun s => (s, level), level)
  | .list false =>
    (node.children.mapM readItem).map fun declared =>
      ((declared.filterMap id).map fun s => (s, level), level)
  | .quote =>
    .ok (if node.plainText = "" then [] else [(.input node.plainText node.line, level)], level)
  | _ => .ok ([], level)

/-- What the blocks of a section yield in turn, from a level on. -/
def yields (level : Nat) : List Node → Result (List (Statement × Nat))
  | [] => .ok []
  | node :: rest => do
    let (pairs, level) ← yieldOf level node
    return pairs ++ (← yields level rest)

/-- Whether a block does not begin a function. -/
def isInside (node : Node) : Bool := node.content ≠ .heading (some 1)

/-- The blocks between the last heading that begins a function of a name and the next heading that
begins a function. -/
def sectionOf? (name : String) : List Node → Option (List Node)
  | [] => none
  | node :: rest =>
    match sectionOf? name rest with
    | some found => some found
    | none =>
      if node.content = .heading (some 1) ∧ node.plainText = name then
        some (rest.takeWhile isInside)
      else none

/-! ## Statements that blocks make -/

theorem Result.mem_of_mapM {α β : Type} {f : α → Result β} {as : List α} {bs : List β}
    (h : as.mapM f = .ok bs) : ∀ b ∈ bs, ∃ a ∈ as, f a = .ok b := by
  induction as generalizing bs with
  | nil =>
    cases h
    nofun
  | cons a as ih =>
    rw [List.mapM_cons] at h
    obtain ⟨first, hfirst, h⟩ := Result.bind_eq_ok.mp h
    obtain ⟨later, hlater, h⟩ := Result.bind_eq_ok.mp h
    cases h
    intro b hb
    rcases List.mem_cons.mp hb with rfl | hb
    · exact ⟨a, List.mem_cons_self, hfirst⟩
    · obtain ⟨other, ho, he⟩ := ih hlater b hb
      exact ⟨other, List.mem_cons_of_mem a ho, he⟩

/-- What a paragraph or an item makes of what is read in it, with its own line. -/
inductive Statement.IsMadeBy (node : Node) : Statement → Prop where
  | print {text : String} {content : Printed} (h : Printed.read node.line text = .ok content) :
      IsMadeBy node (.print content node.line)
  | call {function text : String} {reference : Option String} {arguments : List Expr}
      (h : (splitArguments text).mapM (parseAt node.line) = .ok arguments) :
      IsMadeBy node (.call function reference arguments node.line)
  | assign {name text : String} {op : Option Compound} {value : Expr}
      (hr : readAssignment? node.plainText = some (name, op, text))
      (h : parseAt node.line text = .ok value) : IsMadeBy node (.assign name op value node.line)
  | declare {name text : String} {value : Expr}
      (hr : readDeclaration? node.plainText = some (name, text))
      (h : parseAt node.line text = .ok value) :
      IsMadeBy node (.declare name (some value) node.line)
  | bare (hv : isVariable node.plainText = true) :
      IsMadeBy node (.declare node.plainText none node.line)

section Made

variable {node : Node} {s : Statement}

theorem isMadeBy_of_readAssigned (h : readAssigned node = .ok (some s)) : s.IsMadeBy node := by
  unfold readAssigned at h
  split at h
  · rename_i hr
    obtain ⟨value, hv, hs⟩ := Result.map_eq_ok.mp h
    cases hs
    exact .assign hr hv
  · cases h

theorem isMadeBy_of_readParagraph (h : readParagraph node = .ok (some s)) : s.IsMadeBy node := by
  simp only [readParagraph] at h
  split at h
  · split at h
    · obtain ⟨content, hc, hs⟩ := Result.map_eq_ok.mp h
      cases hs
      exact .print hc
    · obtain ⟨call, hc, hs⟩ := Result.map_eq_ok.mp h
      cases hs
      obtain ⟨arguments, ha, rfl⟩ := Result.map_eq_ok.mp hc
      exact .call ha
    · exact isMadeBy_of_readAssigned h
  · exact isMadeBy_of_readAssigned h

theorem isMadeBy_of_readItem (h : readItem node = .ok (some s)) : s.IsMadeBy node := by
  simp only [readItem] at h
  split at h
  · rename_i hr
    obtain ⟨value, hv, hs⟩ := Result.map_eq_ok.mp h
    cases hs
    exact .declare hr hv
  · split at h
    · rename_i hv
      cases h
      exact .bare hv
    · cases h

theorem Statement.IsMadeBy.isSimple (h : s.IsMadeBy node) : s.isSimple := by
  cases h <;> rfl

theorem items_isSimple {items : List Node} {declared : List (Option Statement)}
    (h : items.mapM readItem = .ok declared) : ∀ s ∈ declared.filterMap id, s.isSimple := by
  intro s hs
  obtain ⟨found, hm, rfl⟩ := List.mem_filterMap.mp hs
  obtain ⟨item, -, hread⟩ := Result.mem_of_mapM h _ hm
  exact (isMadeBy_of_readItem hread).isSimple

end Made

/-! ## One block -/

/-- A draft goes on as another that lists more. -/
structure Draft.Adds (draft after : Draft) (pairs : List (Statement × Nat)) : Prop where
  name : after.name = draft.name
  listing : after.listing = draft.listing ++ pairs
  tidy : draft.Tidy → after.Tidy

namespace Draft

theorem Adds.refl (draft : Draft) : draft.Adds draft [] :=
  ⟨rfl, (List.append_nil _).symm, id⟩

theorem adds_closeTo (draft : Draft) (n : Nat) : draft.Adds (draft.closeTo n) [] :=
  ⟨draft.name_closeTo n, by rw [listing_closeTo, List.append_nil], fun h => h.closeTo n⟩

theorem adds_push (draft : Draft) {s : Statement} (hs : s.isSimple) :
    draft.Adds (draft.push s) [(s, draft.depth)] :=
  ⟨rfl, by rw [listing_push, preorder_of_simple hs], fun h => h.push hs⟩

theorem Adds.trans {a b c : Draft} {xs ys : List (Statement × Nat)} (h : a.Adds b xs)
    (h' : b.Adds c ys) : a.Adds c (xs ++ ys) :=
  ⟨h'.name.trans h.name, by rw [h'.listing, h.listing, List.append_assoc],
    fun htidy => h'.tidy (h.tidy htidy)⟩

theorem adds_pushAll (draft : Draft) {xs : List Statement} (h : ∀ s ∈ xs, s.isSimple) :
    draft.Adds (xs.foldl push draft) (xs.map fun s => (s, draft.depth)) ∧
      (xs.foldl push draft).depth = draft.depth := by
  induction xs generalizing draft with
  | nil => exact ⟨Adds.refl draft, rfl⟩
  | cons x xs ih =>
    obtain ⟨hlater, hdepth⟩ := ih (draft.push x) fun s hs => h s (List.mem_cons_of_mem x hs)
    exact ⟨(draft.adds_push (h x List.mem_cons_self)).trans hlater, hdepth⟩

theorem adds_break (draft : Draft) (line : Line) :
    draft.Adds (draft.push (.stop line)).close [(.stop line, draft.depth)] :=
  ⟨draft.push (.stop line) |>.name_close, by rw [listing_close, listing_push]; rfl,
    fun h => h.break line⟩

theorem adds_openBlock (draft : Draft) (condition : Expr) (line : Line) :
    draft.Adds (draft.openBlock condition line) [(.cond condition [] line, draft.depth)] :=
  ⟨rfl, draft.listing_openBlock condition line, fun h => h.openBlock condition line⟩

end Draft

/-- The outline has read a block of a function: the block yields what the draft adds. -/
def Outline.Reads (outline : Outline) (draft : Draft) (node : Node) (next : Outline) : Prop :=
  ∃ after pairs, next.functions = outline.functions ∧ next.current = some after ∧
    yieldOf draft.depth node = .ok (pairs, after.depth) ∧ draft.Adds after pairs

namespace Outline

theorem addHeading_reads {outline next : Outline} {draft : Draft} {depth : Int} {node : Node}
    (hnode : node.content = .heading (some depth)) (hdepth : depth ≠ 1)
    (h : outline.addHeading draft depth node = .ok next) : outline.Reads draft node next := by
  simp only [addHeading] at h
  split at h
  · cases h
  · have hdeep : ¬ depth < 2 := by omega
    have hclosed := draft.adds_closeTo (draft.depth + 1 - depth.toNat)
    have hlevel := draft.depth_closeTo (draft.depth + 1 - depth.toNat)
    generalize draft.closeTo (draft.depth + 1 - depth.toNat) = closed at h hclosed hlevel
    have hlevel : min draft.depth (depth.toNat - 1) = closed.depth := by
      have : 1 ≤ draft.depth := Nat.succ_pos _
      omega
    have hplace : closed.depth + 1 = depth.toNat ↔ closed.depth = depth.toNat - 1 := by omega
    simp only [Bool.and_eq_true, decide_eq_true_eq, hplace] at h
    split at h
    · rename_i hopen
      obtain ⟨condition, hcondition, rfl⟩ := Result.map_eq_ok.mp h
      refine ⟨closed.openBlock condition node.line, _, rfl, rfl, ?_,
        hclosed.trans (closed.adds_openBlock condition node.line)⟩
      have hinner : (closed.openBlock condition node.line).depth = depth.toNat := hplace.mpr hopen.1
      simp only [yieldOf, hnode, hdeep, if_false, hlevel, if_pos hopen, hcondition, hinner]
      rfl
    · rename_i hdrop
      cases h
      refine ⟨closed, [], rfl, rfl, ?_, hclosed⟩
      simp only [yieldOf, hnode, hdeep, if_false, hlevel, if_neg hdrop]

theorem addToDraft_reads {outline next : Outline} {draft : Draft} {node : Node}
    (hcurrent : outline.current = some draft) (hnode : node.content ≠ .heading (some 1))
    (h : outline.addToDraft draft node = .ok next) : outline.Reads draft node next := by
  have stays (hyield : yieldOf draft.depth node = .ok ([], draft.depth)) :
      outline.Reads draft node outline :=
    ⟨draft, [], rfl, hcurrent, hyield, Draft.Adds.refl draft⟩
  unfold addToDraft at h
  split at h
  case h_1 => cases h
  case h_2 depth hcontent =>
    refine addHeading_reads hcontent ?_ h
    rintro rfl
    exact hnode hcontent
  case h_3 hcontent =>
    cases h
    split
    · exact ⟨_, [], rfl, rfl, by rw [yieldOf, hcontent]; rfl, rfl, (List.append_nil _).symm, id⟩
    · exact stays (by rw [yieldOf, hcontent])
  case h_4 hcontent =>
    obtain ⟨declared, hdeclared, rfl⟩ := Result.map_eq_ok.mp h
    obtain ⟨hadds, hdepth⟩ := draft.adds_pushAll (items_isSimple hdeclared)
    refine ⟨_, _, rfl, rfl, ?_, hadds⟩
    rw [yieldOf, hcontent, hdepth]
    simp only [hdeclared]
    rfl
  case h_5 hcontent =>
    obtain ⟨read, hread, hnext⟩ := Result.map_eq_ok.mp h
    cases read with
    | none =>
      cases hnext
      exact stays (by rw [yieldOf, hcontent]; simp only [hread]; rfl)
    | some s =>
      cases hnext
      refine ⟨_, _, rfl, rfl, ?_, draft.adds_push (isMadeBy_of_readParagraph hread).isSimple⟩
      rw [yieldOf, hcontent]
      simp only [hread]
      rfl
  case h_6 hcontent =>
    cases h
    refine ⟨_, _, rfl, rfl, ?_, draft.adds_break node.line⟩
    rw [yieldOf, hcontent, Draft.depth_close]
    rfl
  case h_7 hcontent =>
    simp only at h
    split at h
    · rename_i hname
      cases h
      exact stays (by rw [yieldOf, hcontent]; simp only [hname, if_true])
    · rename_i hname
      cases h
      refine ⟨_, _, rfl, rfl, ?_, draft.adds_push rfl⟩
      rw [yieldOf, hcontent]
      simp only [hname, if_false]
      rfl
  case h_8 =>
    cases h
    refine stays ?_
    unfold yieldOf
    split <;> simp_all

end Outline

/-! ## The table -/

theorem names_putFunction (f : Function) (fs : List Function) :
    (putFunction f fs).map Function.name
      = if f.name ∈ fs.map Function.name then fs.map Function.name
        else fs.map Function.name ++ [f.name] := by
  induction fs with
  | nil => rfl
  | cons g gs ih =>
    by_cases hname : g.name = f.name
    · simp [putFunction, hname]
    · have hname' : f.name ≠ g.name := fun h => hname h.symm
      simp only [putFunction, if_neg hname, List.map_cons, ih, List.mem_cons, hname', false_or]
      split <;> rfl

theorem nodup_putFunction {f : Function} {fs : List Function}
    (h : (fs.map Function.name).Nodup) : ((putFunction f fs).map Function.name).Nodup := by
  rw [names_putFunction]
  split
  · exact h
  · rename_i hname
    refine List.nodup_append.mpr ⟨h, by simp, ?_⟩
    rintro name hmem _ hlast rfl
    rw [List.mem_singleton.mp hlast] at hmem
    exact hname hmem

theorem mem_putFunction {f g : Function} {fs : List Function}
    (h : (fs.map Function.name).Nodup) (hg : g ∈ putFunction f fs) :
    g = f ∨ g ∈ fs ∧ g.name ≠ f.name := by
  induction fs with
  | nil => exact .inl (List.mem_singleton.mp hg)
  | cons other rest ih =>
    obtain ⟨hother, hrest⟩ := List.nodup_cons.mp h
    rw [putFunction] at hg
    split at hg
    · rename_i hname
      rcases List.mem_cons.mp hg with rfl | hmem
      · exact .inl rfl
      · refine .inr ⟨List.mem_cons_of_mem other hmem, fun h => hother ?_⟩
        rw [hname, ← h]
        exact List.mem_map_of_mem hmem
    · rename_i hname
      rcases List.mem_cons.mp hg with rfl | hmem
      · exact .inr ⟨List.mem_cons_self, hname⟩
      · exact (ih hrest hmem).imp_right fun h => ⟨List.mem_cons_of_mem other h.1, h.2⟩

theorem Outline.nodup_finish {outline : Outline} (h : (outline.functions.map Function.name).Nodup) :
    (outline.finish.map Function.name).Nodup := by
  unfold Outline.finish
  split
  · exact nodup_putFunction h
  · exact h

/-! ## A document -/

/-- A body lists what a section yields, and its breaks end blocks. -/
structure Function.Follows (f : Function) (nodes : List Node) : Prop where
  yields : yields 1 nodes = .ok (preorderAll 1 f.body)
  breaks : ∀ block ∈ blocksOf f.body, BreaksLast block

/-- Where a function of the table comes from when blocks are still to be read: from a section of
them, from the draft, which goes on up to the next function, or from the table so far. -/
inductive Outline.Source (outline : Outline) (nodes : List Node) (f : Function) : Prop where
  | later {found : List Node} (hfound : sectionOf? f.name nodes = some found)
      (hfollows : f.Follows found)
  | current {draft : Draft} {pairs : List (Statement × Nat)}
      (hlast : sectionOf? f.name nodes = none) (hcurrent : outline.current = some draft)
      (hname : draft.name = f.name)
      (hyields : DocScript.yields draft.depth (nodes.takeWhile isInside) = .ok pairs)
      (hlisting : preorderAll 1 f.body = draft.listing ++ pairs)
      (hbreaks : draft.Tidy → ∀ block ∈ blocksOf f.body, BreaksLast block)
  | before (hlast : sectionOf? f.name nodes = none) (hmem : f ∈ outline.functions)
      (hname : ∀ draft, outline.current = some draft → draft.name ≠ f.name)

namespace Outline

/-- At the end of a section, a finished function comes from the draft or the table. -/
theorem source_of_mem_finish {outline : Outline} {nodes : List Node} {f : Function}
    (hnodup : (outline.functions.map Function.name).Nodup) (hf : f ∈ outline.finish)
    (hlast : sectionOf? f.name nodes = none) (hend : nodes.takeWhile isInside = []) :
    outline.Source nodes f := by
  unfold finish at hf
  split at hf
  · rename_i draft hcurrent
    rcases mem_putFunction hnodup hf with rfl | ⟨hmem, hname⟩
    · refine .current hlast hcurrent draft.name_finish.symm (by rw [hend]; rfl) ?_ Draft.Tidy.finish
      rw [draft.preorderAll_finish, List.append_nil]
    · refine .before hlast hmem fun other hother => ?_
      rw [hcurrent] at hother
      cases hother
      rw [← draft.name_finish]
      exact hname.symm
  · rename_i hcurrent
    refine .before hlast hf fun draft hdraft => ?_
    rw [hcurrent] at hdraft
    cases hdraft

/-- A heading that begins a function ends the one before it. -/
theorem source_of_begin {outline : Outline} {node : Node} {rest : List Node} {f : Function}
    (hnodup : (outline.functions.map Function.name).Nodup)
    (hnode : node.content = .heading (some 1))
    (h : Source { outline with
      functions := outline.finish, current := some (.ofName node.plainText) } rest f) :
    outline.Source (node :: rest) f := by
  have hend : (node :: rest).takeWhile isInside = [] := by simp [isInside, hnode]
  cases h with
  | later hfound hfollows => exact .later (by rw [sectionOf?, hfound]) hfollows
  | current hlast hcurrent hname hyields hlisting hbreaks =>
    cases hcurrent
    have hfound : sectionOf? f.name (node :: rest) = some (rest.takeWhile isInside) := by
      rw [sectionOf?, hlast]
      exact if_pos ⟨hnode, hname⟩
    refine .later hfound ⟨?_, hbreaks (Draft.tidy_ofName _)⟩
    rw [hlisting]
    exact hyields
  | before hlast hmem hname =>
    refine source_of_mem_finish hnodup hmem ?_ hend
    rw [sectionOf?, hlast]
    exact if_neg fun h => hname _ rfl h.2

/-- A block inside a section is a comment before the first function, and else goes on with the
draft. -/
theorem add_inside {outline next : Outline} {node : Node}
    (hnode : node.content ≠ .heading (some 1)) (h : outline.add node = .ok next) :
    outline.current = none ∧ next = outline ∨
      ∃ draft, outline.current = some draft ∧ outline.Reads draft node next := by
  rw [add, if_neg hnode] at h
  split at h
  · rename_i draft hcurrent
    exact .inr ⟨draft, hcurrent, addToDraft_reads hcurrent hnode h⟩
  · rename_i hcurrent
    cases h
    exact .inl ⟨hcurrent, rfl⟩

theorem functions_of_add_inside {outline next : Outline} {node : Node}
    (hnode : node.content ≠ .heading (some 1)) (h : outline.add node = .ok next) :
    next.functions = outline.functions := by
  obtain ⟨-, rfl⟩ | ⟨draft, -, after, pairs, hfunctions, -⟩ := add_inside hnode h
  · rfl
  · exact hfunctions

theorem source_of_inside {outline next : Outline} {node : Node} {rest : List Node} {f : Function}
    (hnode : node.content ≠ .heading (some 1)) (hnext : outline.add node = .ok next)
    (h : next.Source rest f) : outline.Source (node :: rest) f := by
  have hsection : sectionOf? f.name (node :: rest) = sectionOf? f.name rest := by
    rw [sectionOf?]
    split
    · rename_i hfound
      exact hfound.symm
    · rename_i hlast
      rw [hlast, if_neg fun h => hnode h.1]
  have hwhile : (node :: rest).takeWhile isInside = node :: rest.takeWhile isInside := by
    simp [isInside, hnode]
  obtain ⟨hcurrent, rfl⟩ | ⟨draft, hcurrent, after, pairs, hfunctions, hafter, hyield, hadds⟩ :=
    add_inside hnode hnext
  · cases h with
    | later hfound hfollows => exact .later (hsection.trans hfound) hfollows
    | current _ hdraft =>
      rw [hcurrent] at hdraft
      cases hdraft
    | before hlast hmem hname => exact .before (hsection.trans hlast) hmem hname
  · cases h with
    | later hfound hfollows => exact .later (hsection.trans hfound) hfollows
    | @current _ more hlast hdraft hname hyields hlisting hbreaks =>
      rw [hafter] at hdraft
      cases hdraft
      have hyields : DocScript.yields draft.depth ((node :: rest).takeWhile isInside)
          = .ok (pairs ++ more) := by
        rw [hwhile, DocScript.yields, hyield]
        simp only [bind, Except.bind, hyields]
        rfl
      have hlisting : preorderAll 1 f.body = draft.listing ++ (pairs ++ more) := by
        rw [hlisting, hadds.listing, List.append_assoc]
      exact .current (hsection.trans hlast) hcurrent (hadds.name.symm.trans hname) hyields hlisting
        fun h => hbreaks (hadds.tidy h)
    | before hlast hmem hname =>
      refine .before (hsection.trans hlast) (hfunctions ▸ hmem) fun other hother => ?_
      rw [hcurrent] at hother
      cases hother
      rw [← hadds.name]
      exact hname after hafter

theorem source_of_compileNodes {outline : Outline} {nodes : List Node} {program : Program}
    {f : Function} (hnodup : (outline.functions.map Function.name).Nodup)
    (h : (compileNodes outline nodes).program = .ok program) (hf : f ∈ program.functions) :
    outline.Source nodes f := by
  induction nodes generalizing outline with
  | nil =>
    cases h
    exact source_of_mem_finish hnodup hf rfl rfl
  | cons node rest ih =>
    rw [compileNodes] at h
    split at h
    · rename_i next hnext
      by_cases hnode : node.content = .heading (some 1)
      · rw [add, if_pos hnode] at hnext
        cases hnext
        exact source_of_begin hnodup hnode (ih (nodup_finish hnodup) h)
      · refine source_of_inside hnode hnext (ih ?_ h)
        rw [functions_of_add_inside hnode hnext]
        exact hnodup
    · cases h

end Outline

/-- Every function of a document follows the last section of its name: its body nests the
statements of the section as the levels say, and no other body does. -/
theorem compile_follows_sections {document : Node} {program : Program}
    (h : (compile document).program = .ok program) {f : Function} (hf : f ∈ program.functions) :
    ∃ nodes, sectionOf? f.name document.children = some nodes ∧
      yields 1 nodes = .ok (preorderAll 1 f.body) ∧
      (∀ body, yields 1 nodes = .ok (preorderAll 1 body) → body = f.body) ∧
      ∀ block ∈ blocksOf f.body, BreaksLast block := by
  have hnodup : (([] : List Function).map Function.name).Nodup := List.nodup_nil
  cases Outline.source_of_compileNodes hnodup h hf with
  | later hfound hfollows =>
    obtain ⟨hyields, hbreaks⟩ := hfollows
    refine ⟨_, hfound, hyields, fun body hbody => ?_, hbreaks⟩
    rw [hyields] at hbody
    exact (preorderAll_injective (Except.ok.inj hbody)).symm
  | current _ hcurrent => cases hcurrent
  | before _ hmem => cases hmem

/-- A conditional that a break ends, and an input behind it. -/
def breakBlocks : List Node :=
  [.mk (.heading (some 2)) (some 3) [.inlined .emphasis [.inlined (.text "x") []]],
   .mk .thematicBreak (some 5) [],
   .mk .quote (some 7) [.inlined (.text "y") []]]

def breakDocument : Node :=
  .mk .document none (.mk (.heading (some 1)) (some 1) [.inlined (.text "f") []] :: breakBlocks)

def breakBody : List Statement :=
  [.cond (.variableName "x") [.stop (some 5)] (some 3), .input "y" (some 7)]

theorem compile_breakDocument :
    (compile breakDocument).program = .ok ⟨[⟨"f", [], breakBody⟩], none⟩ := by
  have hstart : compile breakDocument = compileNodes ⟨[], some (.ofName "f"), []⟩ breakBlocks :=
    rfl
  have hparse : Expr.parse "x" = .ok (.variableName "x") := by cbv
  have hopen : (Outline.mk [] (some (.ofName "f")) []).add
      (.mk (.heading (some 2)) (some 3) [.inlined .emphasis [.inlined (.text "x") []]])
        = .ok ⟨[], some ⟨"f", [], [], [⟨.variableName "x", some 3, []⟩]⟩, []⟩ := by
    show (parseAt (some 3) "x").map _ = _
    rw [parseAt, hparse]
    rfl
  rw [hstart, breakBlocks, compileNodes, hopen]
  rfl

theorem breakDocument_follows_sections :
    (compile breakDocument).program = .ok ⟨[⟨"f", [], breakBody⟩], none⟩ ∧
      ∃ nodes, sectionOf? "f" breakDocument.children = some nodes ∧
        yields 1 nodes = .ok (preorderAll 1 breakBody) ∧
        (∀ body, yields 1 nodes = .ok (preorderAll 1 body) → body = breakBody) ∧
        ∀ block ∈ blocksOf breakBody, BreaksLast block :=
  ⟨compile_breakDocument, compile_follows_sections compile_breakDocument List.mem_cons_self⟩

end DocScript
