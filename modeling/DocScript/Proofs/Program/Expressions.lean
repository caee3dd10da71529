import DocScript.Proofs.Program.Nesting

/-! # The statements and expressions of a program

Every statement in the functions of a document comes from one of its blocks. Every expression in
them is one that has been read, apart from bold text without braces, which stands for itself. What
holds of these therefore holds of those in all blocks that are executed.
-/

namespace DocScript

open Markdown (Node Content)

def Printed.expressions : Printed → List Expr
  | .expr e => [e]
  | .template parts => parts.filterMap fun
    | .text _ => none
    | .expr e => some e

/-- The expressions of a statement, for a conditional without those of its body. -/
def Statement.expressions : Statement → List Expr
  | .print content _ => content.expressions
  | .assign _ _ value _ => [value]
  | .declare _ value _ => value.toList
  | .call _ _ arguments _ => arguments
  | .cond condition _ _ => [condition]
  | .stop _ => []
  | .input _ _ => []

/-- Whether an expression comes from a document: it has been read, or it is a text. -/
def Expr.IsWritten (e : Expr) : Prop :=
  (∃ text, Expr.parse text = .ok e) ∨ ∃ text, e = .literal (.string text) none

/-! ## Statements -/

variable {line : Line} {text : String} {node : Node} {s : Statement}

theorem mapError_eq_ok {α : Type} {result : Result α} {f : Failure → Failure} {a : α}
    (h : result.mapError f = .ok a) : result = .ok a := by
  cases result <;> cases h
  rfl

theorem isWritten_of_parseAt {e : Expr} (h : parseAt line text = .ok e) : e.IsWritten :=
  .inl ⟨text, mapError_eq_ok h⟩

theorem isWritten_template {template : Template} (h : Template.parse text = .ok template) :
    ∀ e ∈ (Printed.template template).expressions, e.IsWritten := by
  intro e he
  obtain ⟨part, hm, hp⟩ := List.mem_filterMap.mp he
  obtain ⟨segment, -, hs⟩ := Result.mem_of_mapM h part hm
  cases segment with
  | text chars =>
    cases hs
    cases hp
  | braced inside =>
    obtain ⟨found, hf, rfl⟩ := Result.map_eq_ok.mp hs
    cases hp
    exact .inl ⟨_, hf⟩

theorem isWritten_printed {content : Printed} (h : Printed.read line text = .ok content) :
    ∀ e ∈ content.expressions, e.IsWritten := by
  unfold Printed.read at h
  split at h
  · obtain ⟨e, he, rfl⟩ := Result.map_eq_ok.mp h
    exact List.forall_mem_singleton.mpr (isWritten_of_parseAt he)
  · split at h
    · obtain ⟨template, ht, rfl⟩ := Result.map_eq_ok.mp h
      exact isWritten_template (mapError_eq_ok ht)
    · cases h
      exact List.forall_mem_singleton.mpr (.inr ⟨text, rfl⟩)

theorem Statement.IsMadeBy.isWritten (h : s.IsMadeBy node) : ∀ e ∈ s.expressions, e.IsWritten := by
  cases h with
  | print h => exact isWritten_printed h
  | call h =>
    intro e he
    obtain ⟨argument, -, hp⟩ := Result.mem_of_mapM h e he
    exact isWritten_of_parseAt hp
  | assign _ h | declare _ h => exact List.forall_mem_singleton.mpr (isWritten_of_parseAt h)
  | bare => exact List.forall_mem_nil _

/-! ## Sections and documents -/

/-- What a statement of a document comes from: a paragraph, an item of a bullet list, a heading, a
thematic break or a quote. A conditional is taken without its body. -/
inductive Statement.IsRead : Statement → Prop
  | paragraph {node : Node} {s : Statement} (h : readParagraph node = .ok (some s)) : IsRead s
  | item {node : Node} {s : Statement} (h : readItem node = .ok (some s)) : IsRead s
  | heading {text : String} {condition : Expr} {line : Line}
      (h : parseAt line text = .ok condition) : IsRead (.cond condition [] line)
  | thematicBreak (line : Line) : IsRead (.stop line)
  | quote (name : String) (line : Line) : IsRead (.input name line)

/-- Whether a statement comes from one of some blocks, or from an item of a bullet list among
them. -/
inductive Statement.IsReadFrom (blocks : List Node) : Statement → Prop
  | paragraph {node : Node} {s : Statement} (hm : node ∈ blocks)
      (h : readParagraph node = .ok (some s)) : IsReadFrom blocks s
  | item {list item : Node} {s : Statement} (hm : list ∈ blocks)
      (hc : list.content = .list false) (hi : item ∈ list.children)
      (h : readItem item = .ok (some s)) : IsReadFrom blocks s
  | heading {node : Node} {text : String} {condition : Expr} (hm : node ∈ blocks)
      (h : parseAt node.line text = .ok condition) :
      IsReadFrom blocks (.cond condition [] node.line)
  | thematicBreak {node : Node} (hm : node ∈ blocks) : IsReadFrom blocks (.stop node.line)
  | quote {node : Node} (hm : node ∈ blocks) (name : String) :
      IsReadFrom blocks (.input name node.line)

theorem Statement.IsReadFrom.isRead {blocks : List Node} (h : s.IsReadFrom blocks) : s.IsRead := by
  cases h with
  | paragraph hm h => exact .paragraph h
  | item hm hc hi h => exact .item h
  | heading hm h => exact .heading h
  | thematicBreak hm => exact .thematicBreak _
  | quote hm name => exact .quote name _

theorem isReadFrom_yieldOf {blocks : List Node} (hm : node ∈ blocks) {level level' : Nat}
    {pairs : List (Statement × Nat)} (h : yieldOf level node = .ok (pairs, level')) :
    ∀ p ∈ pairs, p.1.IsReadFrom blocks := by
  unfold yieldOf at h
  split at h
  · cases h
  · split at h
    · cases h
    · dsimp only at h
      split at h
      · obtain ⟨condition, hc, he⟩ := Result.map_eq_ok.mp h
        cases he
        exact List.forall_mem_singleton.mpr (.heading hm hc)
      · cases h
        nofun
  · cases h
    exact List.forall_mem_singleton.mpr (.thematicBreak hm)
  · obtain ⟨found, hf, he⟩ := Result.map_eq_ok.mp h
    cases he
    intro p hp
    obtain ⟨s, hs, rfl⟩ := List.mem_map.mp hp
    cases Option.mem_toList.mp hs
    exact .paragraph hm hf
  · obtain ⟨declared, hd, he⟩ := Result.map_eq_ok.mp h
    cases he
    intro p hp
    obtain ⟨s, hs, rfl⟩ := List.mem_map.mp hp
    obtain ⟨found, hfound, he⟩ := List.mem_filterMap.mp hs
    obtain ⟨item, hi, hread⟩ := Result.mem_of_mapM hd found hfound
    cases he
    exact .item hm ‹_› hi hread
  · cases h
    split
    · nofun
    · exact List.forall_mem_singleton.mpr (.quote hm _)
  · cases h
    nofun

theorem isReadFrom_yields {blocks nodes : List Node} (hs : nodes ⊆ blocks) {level : Nat}
    {pairs : List (Statement × Nat)} (h : yields level nodes = .ok pairs) :
    ∀ p ∈ pairs, p.1.IsReadFrom blocks := by
  induction nodes generalizing level pairs with
  | nil =>
    cases h
    nofun
  | cons node rest ih =>
    obtain ⟨hm, hr⟩ := List.cons_subset.mp hs
    obtain ⟨⟨first, level'⟩, hfirst, h⟩ := Result.bind_eq_ok.mp h
    obtain ⟨later, hlater, h⟩ := Result.bind_eq_ok.mp h
    cases h
    exact List.forall_mem_append.mpr ⟨isReadFrom_yieldOf hm hfirst, ih hr hlater⟩

theorem sectionOf?_subset {name : String} {nodes found : List Node}
    (h : sectionOf? name nodes = some found) : found ⊆ nodes := by
  induction nodes with
  | nil => cases h
  | cons node rest ih =>
    unfold sectionOf? at h
    split at h
    · cases h
      exact List.subset_cons_of_subset node (ih ‹_›)
    · split at h
      · cases h
        exact List.subset_cons_of_subset node (List.takeWhile_subset isInside)
      · cases h

/-- Every statement in the functions of a document, at any level, comes from one of its blocks. -/
theorem isReadFrom_of_compile {document : Node} {program : Program}
    (h : (compile document).program = .ok program) {f : Function} (hf : f ∈ program.functions) :
    ∀ p ∈ preorderAll 1 f.body, p.1.IsReadFrom document.children := by
  have hnodup : (([] : List Function).map Function.name).Nodup := List.nodup_nil
  cases Outline.source_of_compileNodes hnodup h hf with
  | later hfound hfollows => exact isReadFrom_yields (sectionOf?_subset hfound) hfollows.yields
  | current _ hcurrent => cases hcurrent
  | before _ hmem => cases hmem

theorem isRead_of_compile {document : Node} {program : Program}
    (h : (compile document).program = .ok program) {f : Function} (hf : f ∈ program.functions) :
    ∀ p ∈ preorderAll 1 f.body, p.1.IsRead :=
  fun p hp => (isReadFrom_of_compile h hf p hp).isRead

theorem Statement.IsRead.isWritten (h : s.IsRead) : ∀ e ∈ s.expressions, e.IsWritten := by
  cases h with
  | paragraph h => exact (isMadeBy_of_readParagraph h).isWritten
  | item h => exact (isMadeBy_of_readItem h).isWritten
  | heading h => exact List.forall_mem_singleton.mpr (isWritten_of_parseAt h)
  | thematicBreak line => nofun
  | quote name line => nofun

/-- Every expression in the functions of a document comes from the document. -/
theorem isWritten_of_compile {document : Node} {program : Program}
    (h : (compile document).program = .ok program) {f : Function} (hf : f ∈ program.functions) :
    ∀ p ∈ preorderAll 1 f.body, ∀ e ∈ p.1.expressions, e.IsWritten :=
  fun p hp => (isRead_of_compile h hf p hp).isWritten

end DocScript
