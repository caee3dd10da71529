import DocScript.Proofs.Program.Nesting
import Mathlib.Data.List.TakeWhile

/-! # Sections

A heading that begins a function forgets all that is open before it. So a document that goes on with
such a heading is read as its two parts are: the functions of the second part take the places of
those with the same names in the first, or follow them. Each function is what its own section is
read as.
-/

namespace DocScript

open Markdown (Node)

/-! ## Tables -/

/-- The function of a name in a table. -/
def functionOf? (name : String) (table : List Function) : Option Function :=
  table.find? fun f => f.name = name

/-- A table in which the functions of another one take the places of those with their names, or
follow. -/
def updateTable (table others : List Function) : List Function :=
  table.map (fun f => (functionOf? f.name others).getD f) ++
    others.filter fun f => f.name ∉ table.map Function.name

section Tables

variable {f : Function} {table others : List Function} {name : String}

theorem functionOf?_cons (name : String) (f : Function) (table : List Function) :
    functionOf? name (f :: table) = if f.name = name then some f else functionOf? name table := by
  by_cases h : f.name = name <;> simp [functionOf?, h]

theorem name_of_functionOf? (h : functionOf? name table = some f) : f.name = name := by
  simpa using List.find?_some h

theorem functionOf?_eq_none_iff :
    functionOf? name table = none ↔ name ∉ table.map Function.name := by
  simp [functionOf?]

theorem functionOf?_putFunction (f : Function) (table : List Function) (name : String) :
    functionOf? name (putFunction f table) =
      if f.name = name then some f else functionOf? name table := by
  induction table with
  | nil => exact functionOf?_cons name f []
  | cons other rest ih =>
    rw [putFunction]
    split
    · rename_i ho
      rw [functionOf?_cons, functionOf?_cons, ho]
      split <;> rfl
    · rename_i ho
      rw [functionOf?_cons, functionOf?_cons, ih]
      split
      · rename_i hn
        rw [if_neg fun h => ho (hn.trans h.symm)]
      · rfl

/-- A replaced function keeps its name. -/
theorem name_getD_functionOf? (f : Function) (others : List Function) :
    ((functionOf? f.name others).getD f).name = f.name := by
  cases h : functionOf? f.name others with
  | none => rfl
  | some other => exact name_of_functionOf? h

theorem names_updateTable (table others : List Function) :
    (updateTable table others).map Function.name =
      table.map Function.name ++
        (others.map Function.name).filter fun name => name ∉ table.map Function.name := by
  have hm : (table.map fun f => (functionOf? f.name others).getD f).map Function.name =
      table.map Function.name := by
    rw [List.map_map]
    exact List.map_congr_left fun f _ => name_getD_functionOf? f others
  rw [updateTable, List.map_append, hm, List.filter_map]
  rfl

theorem functionOf?_updateTable (table others : List Function) (name : String) :
    functionOf? name (updateTable table others) =
      (functionOf? name others).or (functionOf? name table) := by
  have hm : functionOf? name (table.map fun f => (functionOf? f.name others).getD f) =
      (functionOf? name table).map fun f => (functionOf? name others).getD f := by
    induction table with
    | nil => rfl
    | cons f rest ih =>
      rw [List.map_cons, functionOf?_cons, functionOf?_cons, name_getD_functionOf?, ih]
      split
      · rename_i hn
        rw [← hn, Option.map_some]
      · rfl
  rw [updateTable, functionOf?, List.find?_append, ← functionOf?, hm]
  cases hf : functionOf? name table with
  | some f => cases functionOf? name others <;> rfl
  | none =>
    have hn : name ∉ table.map Function.name := functionOf?_eq_none_iff.mp hf
    rw [List.find?_filter, Option.map_none, Option.none_or, Option.or_none, functionOf?]
    congr 1
    funext f
    by_cases h : f.name = name
    · simpa [h] using hn
    · simp [h]

/-- The names of a table in their order and the function of each name determine it. -/
theorem eq_of_functionOf? (hn : (table.map Function.name).Nodup)
    (ho : others.map Function.name = table.map Function.name)
    (h : ∀ name, functionOf? name others = functionOf? name table) : others = table := by
  induction table generalizing others with
  | nil => exact List.map_eq_nil_iff.mp ho
  | cons f rest ih =>
    obtain ⟨g, gs, rfl, hname, hnames⟩ := List.map_eq_cons_iff.mp ho
    obtain ⟨hf, hrest⟩ := List.nodup_cons.mp hn
    have hg : g = f := by
      have hfirst := h f.name
      rw [functionOf?_cons, functionOf?_cons, if_pos hname, if_pos rfl] at hfirst
      exact Option.some.inj hfirst
    rw [hg, ih hrest hnames fun name => ?_]
    by_cases hfn : f.name = name
    · have hnot : functionOf? name rest = none := functionOf?_eq_none_iff.mpr (hfn ▸ hf)
      rw [hnot, functionOf?_eq_none_iff, hnames]
      exact hfn ▸ hf
    · simpa only [functionOf?_cons, hname, if_neg hfn] using h name

theorem nodup_updateTable (ht : (table.map Function.name).Nodup)
    (ho : (others.map Function.name).Nodup) :
    ((updateTable table others).map Function.name).Nodup := by
  rw [names_updateTable]
  refine List.nodup_append.mpr ⟨ht, ho.filter _, ?_⟩
  rintro name hname _ hmem rfl
  simpa [hname] using (List.mem_filter.mp hmem).2

/-- A function of an updated table comes from the other one, or it has a name that is not there. -/
theorem mem_updateTable (h : f ∈ updateTable table others) :
    f ∈ others ∨ f ∈ table ∧ f.name ∉ others.map Function.name := by
  rcases List.mem_append.mp h with h | h
  · obtain ⟨kept, hk, rfl⟩ := List.mem_map.mp h
    cases ho : functionOf? kept.name others with
    | none => exact .inr ⟨hk, functionOf?_eq_none_iff.mp ho⟩
    | some other => exact .inl (List.mem_of_find?_eq_some ho)
  · exact .inl (List.mem_filter.mp h).1

theorem updateTable_putFunction (ht : (table.map Function.name).Nodup)
    (ho : (others.map Function.name).Nodup) :
    updateTable table (putFunction f others) = putFunction f (updateTable table others) := by
  refine eq_of_functionOf? (nodup_putFunction (nodup_updateTable ht ho)) ?_ fun name => ?_
  · rw [names_putFunction, names_updateTable, names_updateTable, names_putFunction]
    generalize table.map Function.name = names
    generalize others.map Function.name = more
    by_cases hf : f.name ∈ names <;> by_cases hg : f.name ∈ more <;>
      simp [hf, hg, List.filter_append]
  · rw [functionOf?_updateTable, functionOf?_putFunction, functionOf?_putFunction,
      functionOf?_updateTable]
    split <;> rfl

end Tables

/-! ## Outlines -/

namespace Outline

/-- An outline with functions and dropped headings from before it. -/
def after (table : List Function) (headings : List DroppedHeading) (outline : Outline) : Outline :=
  ⟨updateTable table outline.functions, outline.current, headings ++ outline.dropped⟩

variable {table : List Function} {headings : List DroppedHeading} {outline next : Outline}
  {node : Node} {nodes : List Node}

theorem finish_after (ht : (table.map Function.name).Nodup)
    (ho : (outline.functions.map Function.name).Nodup) :
    (outline.after table headings).finish = updateTable table outline.finish := by
  unfold finish
  cases hc : outline.current with
  | none => simp only [after, hc]
  | some draft => simp only [after, hc, updateTable_putFunction ht ho]

theorem addToDraft_after (draft : Draft) (node : Node) :
    (outline.after table headings).addToDraft draft node =
      (outline.addToDraft draft node).map (after table headings) := by
  obtain ⟨content, line, children⟩ := node
  cases content with
  | heading depth =>
    cases depth with
    | none => rfl
    | some depth =>
      simp only [addToDraft, Node.content, addHeading]
      split
      · rfl
      · split
        · cases parseAt _ _ <;> rfl
        · simp [after, withDraft, Except.map]
  | list ordered =>
    cases ordered with
    | true =>
      simp only [addToDraft, Node.content, Except.map]
      split <;> rfl
    | false =>
      simp only [addToDraft, Node.content, addItems]
      cases List.mapM readItem _ <;> rfl
  | paragraph =>
    simp only [addToDraft, Node.content]
    cases readParagraph _ with
    | error failure => rfl
    | ok statement => cases statement <;> rfl
  | quote =>
    simp only [addToDraft, Node.content, Except.map]
    split <;> rfl
  | _ => rfl

/-- What stands before an outline is not seen by the blocks that are read. -/
theorem add_after (ht : (table.map Function.name).Nodup)
    (ho : (outline.functions.map Function.name).Nodup) :
    (outline.after table headings).add node = (outline.add node).map (after table headings) := by
  unfold add
  split
  · simp only [finish_after ht ho]
    rfl
  · simp only [after]
    split
    · exact addToDraft_after _ node
    · rfl

theorem nodup_add (ho : (outline.functions.map Function.name).Nodup)
    (h : outline.add node = .ok next) : (next.functions.map Function.name).Nodup := by
  by_cases hn : node.content = .heading (some 1)
  · rw [add, if_pos hn] at h
    cases h
    exact nodup_finish ho
  · rw [functions_of_add_inside hn h]
    exact ho

theorem foldlM_after (ht : (table.map Function.name).Nodup)
    (ho : (outline.functions.map Function.name).Nodup) :
    nodes.foldlM add (outline.after table headings) =
      (nodes.foldlM add outline).map (after table headings) := by
  induction nodes generalizing outline with
  | nil => rfl
  | cons node rest ih =>
    rw [List.foldlM_cons, List.foldlM_cons, add_after ht ho]
    cases hn : outline.add node with
    | error failure => rfl
    | ok next => exact ih (nodup_add ho hn)

theorem nodup_foldlM (ho : (outline.functions.map Function.name).Nodup)
    (h : nodes.foldlM add outline = .ok next) : (next.functions.map Function.name).Nodup := by
  induction nodes generalizing outline with
  | nil =>
    cases h
    exact ho
  | cons node rest ih =>
    rw [List.foldlM_cons] at h
    obtain ⟨first, hf, h⟩ := Result.bind_eq_ok.mp h
    exact ih (nodup_add ho hf) h

theorem program_compileNodes (outline : Outline) (nodes : List Node) :
    (compileNodes outline nodes).program =
      (nodes.foldlM add outline).map fun last => ⟨last.finish, none⟩ := by
  induction nodes generalizing outline with
  | nil => rfl
  | cons node rest ih =>
    rw [compileNodes, List.foldlM_cons]
    cases outline.add node with
    | error failure => rfl
    | ok next => exact ih next

/-- A heading that begins a function leaves of an outline only what it has finished. -/
theorem add_heading (hn : node.content = .heading (some 1)) :
    outline.add node =
      .ok (after outline.finish outline.dropped ⟨[], some (.ofName node.plainText), []⟩) := by
  have ht : updateTable outline.finish [] = outline.finish := by simp [updateTable, functionOf?]
  rw [add, if_pos hn, after, ht, List.append_nil]

end Outline

/-! ## Documents -/

theorem compile_program (document : Node) :
    (compile document).program =
      (document.children.foldlM Outline.add ⟨[], none, []⟩).map fun last => ⟨last.finish, none⟩ :=
  Outline.program_compileNodes _ _

/-- A part of a document that begins with a function is read as it would be alone, and its functions
update the table of the part before it. -/
theorem program_append {whole first second heading : Node} {rest : List Node}
    (hw : whole.children = first.children ++ second.children)
    (hs : second.children = heading :: rest) (hh : heading.content = .heading (some 1)) :
    (compile whole).program = do
      let program ← (compile first).program
      let other ← (compile second).program
      return ⟨updateTable program.functions other.functions, none⟩ := by
  have hstart : (([] : List Function).map Function.name).Nodup := List.nodup_nil
  rw [compile_program, compile_program, compile_program, hw, List.foldlM_append, hs]
  cases hf : first.children.foldlM Outline.add ⟨[], none, []⟩ with
  | error failure => rfl
  | ok last =>
    have ht : (last.finish.map Function.name).Nodup :=
      Outline.nodup_finish (Outline.nodup_foldlM hstart hf)
    have hb : (heading :: rest).foldlM Outline.add last =
        (rest.foldlM Outline.add ⟨[], some (.ofName heading.plainText), []⟩).map
          (Outline.after last.finish last.dropped) := by
      rw [List.foldlM_cons, Outline.add_heading hh]
      exact Outline.foldlM_after ht hstart
    have ho : (heading :: rest).foldlM Outline.add ⟨[], none, []⟩ =
        rest.foldlM Outline.add ⟨[], some (.ofName heading.plainText), []⟩ := by
      rw [List.foldlM_cons, Outline.add, if_pos hh]
      rfl
    rw [ho]
    show ((heading :: rest).foldlM Outline.add last).map _ = _
    rw [hb]
    cases hr : rest.foldlM Outline.add ⟨[], some (.ofName heading.plainText), []⟩ with
    | error failure => rfl
    | ok next =>
      have hn := Outline.nodup_foldlM hstart hr
      show Except.ok (Program.mk (next.after last.finish last.dropped).finish none) = _
      rw [Outline.finish_after ht hn]
      rfl

/-! ## Functions and their sections -/

variable {nodes inside : List Node} {heading : Node} {name : String}

theorem sectionOf?_of_inside (h : ∀ node ∈ nodes, isInside node) :
    sectionOf? name nodes = none := by
  induction nodes with
  | nil => rfl
  | cons node rest ih =>
    obtain ⟨hn, hr⟩ := List.forall_mem_cons.mp h
    have hn : node.content ≠ .heading (some 1) := by simpa [isInside] using hn
    rw [sectionOf?, ih hr, if_neg fun h => hn h.1]

/-- The last section counts for its name, and for any other name what is before it. -/
theorem sectionOf?_append (hh : heading.content = .heading (some 1))
    (hi : ∀ node ∈ inside, isInside node) :
    sectionOf? name (nodes ++ heading :: inside) =
      if heading.plainText = name then some inside else sectionOf? name nodes := by
  have hw : inside.takeWhile isInside = inside := List.takeWhile_eq_self_iff.mpr hi
  induction nodes with
  | nil =>
    simp [sectionOf?, sectionOf?_of_inside hi, hw, hh]
  | cons node rest ih =>
    have hend : (rest ++ heading :: inside).takeWhile isInside = rest.takeWhile isInside := by
      rw [List.takeWhile_append]
      split
      · rename_i hl
        rw [(List.takeWhile_prefix isInside).eq_of_length hl]
        simp [isInside, hh]
      · rfl
    rw [List.cons_append, sectionOf?, ih, hend]
    by_cases hname : heading.plainText = name
    · rw [if_pos hname, if_pos hname]
    · rw [if_neg hname, if_neg hname, sectionOf?]

theorem exists_last_section (nodes : List Node) :
    (∀ node ∈ nodes, isInside node) ∨
      ∃ before heading inside, nodes = before ++ heading :: inside ∧
        heading.content = .heading (some 1) ∧ ∀ node ∈ inside, isInside node := by
  induction nodes with
  | nil => exact .inl nofun
  | cons node rest ih =>
    rcases ih with ih | ⟨before, heading, inside, rfl, hh, hi⟩
    · by_cases hn : node.content = .heading (some 1)
      · exact .inr ⟨[], node, rest, rfl, hn, ih⟩
      · exact .inl (List.forall_mem_cons.mpr ⟨by simpa [isInside] using hn, ih⟩)
    · exact .inr ⟨node :: before, heading, inside, rfl, hh, hi⟩

/-- Inside a section, one draft goes on. -/
theorem foldlM_inside {outline last : Outline} {draft : Draft} (hi : ∀ node ∈ nodes, isInside node)
    (hc : outline.current = some draft) (h : nodes.foldlM Outline.add outline = .ok last) :
    last.functions = outline.functions ∧
      ∃ after, last.current = some after ∧ after.name = draft.name := by
  induction nodes generalizing outline draft with
  | nil =>
    cases h
    exact ⟨rfl, draft, hc, rfl⟩
  | cons node rest ih =>
    obtain ⟨hn, hr⟩ := List.forall_mem_cons.mp hi
    have hn : node.content ≠ .heading (some 1) := by simpa [isInside] using hn
    rw [List.foldlM_cons] at h
    obtain ⟨next, hnext, h⟩ := Result.bind_eq_ok.mp h
    obtain ⟨hnone, -⟩ | ⟨before, hb, after, pairs, hf, ha, -, hadds⟩ :=
      Outline.add_inside hn hnext
    · rw [hc] at hnone
      cases hnone
    · rw [hc] at hb
      cases hb
      obtain ⟨hl, other, ho, hname⟩ := ih hr ha h
      exact ⟨hl.trans hf, other, ho, hname.trans hadds.name⟩

/-- A section is read as one function with the name of its heading. -/
theorem program_of_section {document : Node} {program : Program}
    (hh : heading.content = .heading (some 1)) (hi : ∀ node ∈ inside, isInside node)
    (hd : document.children = heading :: inside) (h : (compile document).program = .ok program) :
    ∃ f : Function, f.name = heading.plainText ∧ program = ⟨[f], none⟩ := by
  rw [compile_program, hd, List.foldlM_cons, Outline.add, if_pos hh] at h
  obtain ⟨last, hl, rfl⟩ := Result.map_eq_ok.mp h
  obtain ⟨hf, draft, hc, hname⟩ := foldlM_inside hi rfl hl
  refine ⟨draft.finish, draft.name_finish.trans hname, ?_⟩
  rw [Outline.finish, hc, hf]
  rfl

/-- Of a heading that begins a function, only its text counts. -/
theorem program_congr_heading {document document' heading' : Node}
    (hd : document.children = heading :: inside) (hd' : document'.children = heading' :: inside)
    (hh : heading.content = .heading (some 1)) (hh' : heading'.content = .heading (some 1))
    (ht : heading'.plainText = heading.plainText) :
    (compile document').program = (compile document).program := by
  rw [compile_program, compile_program, hd, hd', List.foldlM_cons, List.foldlM_cons,
    Outline.add, Outline.add, if_pos hh, if_pos hh', ht]

/-- Whether a function is the one that the last section of its name is read as alone, under any
heading of that name. -/
def Function.IsOfSection (f : Function) (blocks : List Node) : Prop :=
  ∃ inside, sectionOf? f.name blocks = some inside ∧
    ∀ document heading : Node, document.children = heading :: inside →
      heading.content = .heading (some 1) → heading.plainText = f.name →
      (compile document).program = .ok ⟨[f], none⟩

theorem isOfSection_of_compile {document : Node} {program : Program}
    (h : (compile document).program = .ok program) {f : Function} (hf : f ∈ program.functions) :
    f.IsOfSection document.children := by
  -- by induction on the sections, the last one first
  generalize hn : document.children.length = n
  induction n using Nat.strongRecOn generalizing document program with
  | ind n ih =>
    rcases exists_last_section document.children with hi | ⟨before, heading, inside, hd, hh, hi⟩
    · have hnodup : (([] : List Function).map Function.name).Nodup := List.nodup_nil
      cases Outline.source_of_compileNodes hnodup h hf with
      | later hfound _ =>
        rw [sectionOf?_of_inside hi] at hfound
        cases hfound
      | current _ hcurrent => cases hcurrent
      | before _ hmem => cases hmem
    · have ha := @program_append document (.mk .document none before)
        (.mk .document none (heading :: inside)) heading inside hd rfl hh
      rw [h] at ha
      obtain ⟨first, hfirst, ha⟩ := Result.bind_eq_ok.mp ha.symm
      obtain ⟨second, hsecond, ha⟩ := Result.bind_eq_ok.mp ha
      cases ha
      obtain ⟨g, hg, rfl⟩ := program_of_section hh hi rfl hsecond
      rcases mem_updateTable hf with hf | ⟨hf, hname⟩
      · obtain rfl := List.mem_singleton.mp hf
        refine ⟨inside, ?_, fun alone other hd' hh' ht => ?_⟩
        · rw [hd, sectionOf?_append hh hi, if_pos hg.symm]
        · rw [← hsecond]
          exact program_congr_heading rfl hd' hh hh' (ht.trans hg)
      · have hlt : before.length < n := by
          rw [← hn, hd, List.length_append, List.length_cons]
          omega
        obtain ⟨own, hown, halone⟩ := ih before.length hlt hfirst hf rfl
        refine ⟨own, ?_, halone⟩
        have hne : heading.plainText ≠ f.name := fun he => hname (by simp [hg, he])
        rw [hd, sectionOf?_append hh hi, if_neg hne]
        exact hown

/-- A document that goes on with a heading that begins a function is read as its parts are: it fails
as the first part does, or else as the second does, and otherwise the table of the first is updated
with that of the second. Each function is what the last section of its name is read as alone. -/
theorem compile_append {whole first second heading : Node} {rest : List Node}
    (hw : whole.children = first.children ++ second.children)
    (hs : second.children = heading :: rest) (hh : heading.content = .heading (some 1)) :
    ((compile whole).program = do
      let program ← (compile first).program
      let other ← (compile second).program
      return ⟨updateTable program.functions other.functions, none⟩) ∧
    ∀ program, (compile whole).program = .ok program →
      ∀ f ∈ program.functions, f.IsOfSection whole.children :=
  ⟨program_append hw hs hh, fun _ h _ hf => isOfSection_of_compile h hf⟩

/-- A document with functions that read an input into a variable each. -/
def asking (functions : List (String × String)) : Node :=
  .mk .document none <| functions.flatMap fun (name, variableName) =>
    [.mk (.heading (some 1)) none [.inlined (.text name) []],
      .mk .quote none [.inlined (.text variableName) []]]

/-- The first function is redefined behind the second one, and keeps its place. -/
theorem compile_append_redefined :
    (asking [("f", "x"), ("g", "y"), ("f", "z")]).children =
      (asking [("f", "x"), ("g", "y")]).children ++ (asking [("f", "z")]).children ∧
    (compile (asking [("f", "x"), ("g", "y"), ("f", "z")])).program =
      .ok ⟨[⟨"f", [], [.input "z" none]⟩, ⟨"g", [], [.input "y" none]⟩], none⟩ ∧
    Function.IsOfSection ⟨"g", [], [.input "y" none]⟩
      (asking [("f", "x"), ("g", "y"), ("f", "z")]).children := by
  have hf : (compile (asking [("f", "x"), ("g", "y")])).program =
      .ok ⟨[⟨"f", [], [.input "x" none]⟩, ⟨"g", [], [.input "y" none]⟩], none⟩ := by rfl
  have hs : (compile (asking [("f", "z")])).program =
      .ok ⟨[⟨"f", [], [.input "z" none]⟩], none⟩ := by rfl
  have hw : (asking [("f", "x"), ("g", "y"), ("f", "z")]).children =
      (asking [("f", "x"), ("g", "y")]).children ++ (asking [("f", "z")]).children := rfl
  obtain ⟨ha, hsections⟩ := compile_append hw rfl rfl
  rw [hf, hs] at ha
  have hu : updateTable [⟨"f", [], [.input "x" none]⟩, ⟨"g", [], [.input "y" none]⟩]
      [⟨"f", [], [.input "z" none]⟩] =
      [⟨"f", [], [.input "z" none]⟩, ⟨"g", [], [.input "y" none]⟩] := by rfl
  have hp : (compile (asking [("f", "x"), ("g", "y"), ("f", "z")])).program =
      .ok ⟨[⟨"f", [], [.input "z" none]⟩, ⟨"g", [], [.input "y" none]⟩], none⟩ := by
    rw [ha, ← hu]
    rfl
  exact ⟨hw, hp, hsections _ hp _ (by simp)⟩

end DocScript
