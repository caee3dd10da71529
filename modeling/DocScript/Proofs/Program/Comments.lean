import DocScript.Program.Compile
import Mathlib.Data.List.Basic

/-! # Comments

Inline code and markup among the text of a block, and code and markup among the blocks of a
document, change nothing in what the document is read as. There is one exception: beside the strong
text or the link that is the sole content of a paragraph, a comment keeps the paragraph from being
read as a print or a call.
-/

namespace DocScript

namespace Markdown

/-- Comments among text. -/
def Content.isInlineComment : Content → Bool
  | .inlineCode _ => true
  | .html _ => true
  | _ => false

/-- Comments among blocks. -/
def Content.isBlockComment : Content → Bool
  | .html _ => true
  | .code _ => true
  | _ => false

/-- Contents whose children are read as text, so that comments may stand among them. -/
def Content.holdsText : Content → Bool
  | .heading _ => true
  | .paragraph => true
  | .item => true
  | .quote => true
  | .strong => true
  | .emphasis => true
  | .link _ => true
  | _ => false

/-- The comments that may stand among the children of a node. -/
def Content.admits (content comment : Content) : Bool :=
  content.holdsText && comment.isInlineComment

/-- The second list of nodes is the first one with comments put in, at any depth. Which ones may
stand in the list itself is told by a predicate. A comment may have children of any kind. -/
inductive Commented : (Content → Bool) → List Node → List Node → Prop
  | nil {admits : Content → Bool} : Commented admits [] []
  | node {admits : Content → Bool} {content : Content} {line : Option Int}
      {children children' rest rest' : List Node}
      (hc : Commented content.admits children children') (hr : Commented admits rest rest') :
      Commented admits (.mk content line children :: rest) (.mk content line children' :: rest')
  | comment {admits : Content → Bool} {comment : Node} {rest rest' : List Node}
      (ha : admits comment.content) (hr : Commented admits rest rest') :
      Commented admits rest (comment :: rest')

section Texts

variable {admits : Content → Bool} {content : Content} {line : Option Int}
  {children children' nodes nodes' : List Node}

theorem Content.isInlineComment_of_admits {other : Content} (h : content.admits other) :
    other.isInlineComment :=
  (Bool.and_eq_true_iff.mp h).2

theorem Node.collectText_of_isInlineComment {comment : Node}
    (h : comment.content.isInlineComment) : comment.collectText = [] := by
  obtain ⟨content, line, children⟩ := comment
  cases content with
  | inlineCode | html => rfl
  | _ => cases h

/-- The text of a node hangs on its content and on the texts of its children. -/
theorem Node.collectText_congr (h : collectTexts children' = collectTexts children) :
    (Node.mk content line children').collectText = (Node.mk content line children).collectText := by
  cases content <;> simp only [collectText, h]

theorem Commented.collectTexts (h : Commented admits nodes nodes')
    (ha : ∀ content, admits content → content.isInlineComment) :
    Node.collectTexts nodes' = Node.collectTexts nodes := by
  induction h with
  | nil => rfl
  | node _ _ ihc ihr =>
    have hc := ihc fun _ => Content.isInlineComment_of_admits
    rw [Node.collectTexts, Node.collectTexts, Node.collectText_congr hc, ihr ha]
  | comment hcomment _ ih =>
    rw [Node.collectTexts, Node.collectText_of_isInlineComment (ha _ hcomment), ih ha]
    rfl

/-- Comments among the children of a node are no part of its text. -/
theorem Commented.plainText (h : Commented content.admits children children') :
    (Node.mk content line children').plainText = (Node.mk content line children).plainText := by
  have hc := h.collectTexts fun _ => Content.isInlineComment_of_admits
  rw [Node.plainText, Node.plainText, Node.collectText_congr hc]

theorem Commented.emphasized? (h : Commented content.admits children children') :
    (Node.mk content line children').emphasized? = (Node.mk content line children).emphasized? := by
  have hfind {admits : Content → Bool} {nodes nodes' : List Node}
      (h : Commented admits nodes nodes')
      (ha : ∀ content, admits content → content.isInlineComment) :
      (nodes'.find? fun child => child.content = .emphasis).map Node.plainText =
        (nodes.find? fun child => child.content = .emphasis).map Node.plainText := by
    induction h with
    | nil => rfl
    | @node _ content line children children' rest rest' hc _ _ ih =>
      by_cases he : content = .emphasis
      · simp [Node.content, he, (he ▸ hc : Commented Content.emphasis.admits _ _).plainText]
      · simpa [Node.content, he] using ih ha
    | @comment _ comment _ _ hcomment _ ih =>
      have he : comment.content ≠ .emphasis := by
        intro he
        have hc := ha _ hcomment
        rw [he] at hc
        cases hc
      simpa [he] using ih ha
  exact hfind h fun _ => Content.isInlineComment_of_admits

/-- Nodes of some contents are picked from both lists alike. -/
theorem Commented.filter (h : Commented admits nodes nodes') (p : Content → Bool) :
    Commented admits (nodes.filter fun node => p node.content)
      (nodes'.filter fun node => p node.content) := by
  induction h with
  | nil => exact .nil
  | @node _ content _ _ _ _ _ hc _ _ ih =>
    cases hp : p content with
    | false => simpa [Node.content, hp] using ih
    | true => simpa [Node.content, hp] using .node hc ih
  | @comment _ comment _ _ ha _ ih =>
    cases hp : p comment.content with
    | false => simpa [hp] using ih
    | true => simpa [hp] using .comment ha ih

/-- Where no comment may stand, a function of the nodes that does not see the comments in them has
the same values on both lists. -/
theorem Commented.map_eq {α : Type} {f : Node → α}
    (hf : ∀ {content line children children'}, Commented content.admits children children' →
      f (.mk content line children') = f (.mk content line children))
    (h : Commented (fun _ => false) nodes nodes') : nodes'.map f = nodes.map f := by
  generalize ha : (fun _ => false : Content → Bool) = admits at h
  induction h with
  | nil => rfl
  | node hc _ _ ih => rw [List.map_cons, List.map_cons, hf hc, ih ha]
  | comment hcomment =>
    subst ha
    cases hcomment

end Texts

end Markdown

/-! ## Blocks -/

open Markdown (Node Content Commented)

/-- Whether a content is read by itself where it is the sole one of a paragraph. -/
def Markdown.Content.isSpan : Content → Bool
  | .strong => true
  | .link _ => true
  | _ => false

/-- The strong text or the link that is the sole content of a paragraph, blank text aside. -/
def Markdown.Node.span? (node : Node) : Option Node :=
  match node.children.filter fun child => !child.isBlankText with
  | [sole] => if sole.content.isSpan then some sole else none
  | _ => none

/-- Whether a node is a paragraph of one strong text or one link. -/
def Markdown.Node.isSpan (node : Node) : Bool :=
  node.content = .paragraph && node.span?.isSome

section Blocks

variable {content : Content} {line : Option Int} {children children' nodes nodes' : List Node}

/-- What a paragraph is read as from the strong text or the link that is its sole content. -/
def readSpan (line : Line) (span : Node) : Result (Option Statement) :=
  match span.content with
  | .link url => (readCall line url span.plainText).map some
  | _ => (Printed.read line span.plainText).map fun content => some (.print content line)

theorem readParagraph_eq (node : Node) : readParagraph node =
    match node.span? with
    | some span => readSpan node.line span
    | none => readAssigned node := by
  unfold readParagraph Markdown.Node.span?
  generalize node.children.filter (fun child => !child.isBlankText) = found
  rcases found with _ | ⟨⟨content, line, children⟩, _ | ⟨next, rest⟩⟩
  · rfl
  · cases content <;> rfl
  · rfl

theorem readAssigned_commented (h : Commented content.admits children children') :
    readAssigned (.mk content line children') = readAssigned (.mk content line children) := by
  rw [readAssigned, readAssigned, h.plainText]
  rfl

theorem readSpan_commented {at' : Option Int} (h : Commented content.admits children children') :
    readSpan line (.mk content at' children') = readSpan line (.mk content at' children) := by
  rw [readSpan, readSpan, h.plainText]
  rfl

theorem readItem_commented (h : Commented content.admits children children') :
    readItem (.mk content line children') = readItem (.mk content line children) := by
  rw [readItem, readItem, h.plainText]
  rfl

/-- The only node of a list that is no comment was the only one before the comments were put in. -/
theorem Markdown.Commented.of_singleton {admits : Content → Bool} {sole : Node}
    (h : Commented admits nodes [sole]) (hs : ¬admits sole.content) :
    ∃ inner at' inside inside', sole = .mk inner at' inside' ∧ nodes = [.mk inner at' inside] ∧
      Commented inner.admits inside inside' := by
  cases h with
  | node hc hr =>
    cases hr
    exact ⟨_, _, _, _, rfl, rfl, hc⟩
  | comment ha => exact absurd ha hs

theorem Markdown.Content.not_isInlineComment_of_isSpan (h : content.isSpan) :
    ¬content.isInlineComment := by
  cases content with
  | strong | link => exact Bool.false_ne_true
  | _ => cases h

/-- What stands alone among comments stands alone without them. -/
theorem Markdown.Commented.span? {sole : Node}
    (h : Commented Content.isInlineComment children children')
    (hs : (Node.mk content line children').span? = some sole) :
    ∃ inner at' inside inside', sole = .mk inner at' inside' ∧
      (Node.mk content line children).span? = some (.mk inner at' inside) ∧
      Commented inner.admits inside inside' := by
  have hf : Commented Content.isInlineComment (children.filter fun child => !child.isBlankText)
      (children'.filter fun child => !child.isBlankText) :=
    h.filter fun content => !(Node.mk content none []).isBlankText
  unfold Markdown.Node.span? at hs ⊢
  simp only [Node.children] at hs ⊢
  generalize children'.filter _ = found' at hs hf
  generalize children.filter _ = found at hf ⊢
  split at hs
  · split at hs
    case isTrue hspan =>
      cases hs
      obtain ⟨inner, at', inside, inside', rfl, rfl, hc⟩ :=
        hf.of_singleton (Content.not_isInlineComment_of_isSpan hspan)
      exact ⟨inner, at', inside, inside', rfl, if_pos hspan, hc⟩
    case isFalse => cases hs
  · cases hs

theorem Markdown.Commented.isSpan (h : Commented content.admits children children')
    (hs : (Node.mk content line children').isSpan) : (Node.mk content line children).isSpan := by
  rw [Markdown.Node.isSpan, Bool.and_eq_true, decide_eq_true_iff] at hs ⊢
  obtain ⟨rfl, hs⟩ := hs
  obtain ⟨sole, hs⟩ := Option.isSome_iff_exists.1 hs
  obtain ⟨_, _, _, _, _, hs, _⟩ := Commented.span? h hs
  exact ⟨rfl, Option.isSome_iff_exists.2 ⟨_, hs⟩⟩

theorem readParagraph_of_not_isSpan (h : ¬(Node.mk .paragraph line children).isSpan) :
    readParagraph (.mk .paragraph line children) = readAssigned (.mk .paragraph line children) := by
  have hs : (Node.mk .paragraph line children).span? = none := by
    simpa [Markdown.Node.isSpan, Node.content] using h
  rw [readParagraph_eq, hs]

/-- A paragraph with comments in it is read as it was without them, or as an assignment if they
stand beside its strong text or its link. -/
theorem readParagraph_commented (h : Commented Content.isInlineComment children children') :
    readParagraph (.mk .paragraph line children') =
      if (Node.mk .paragraph line children').isSpan then
        readParagraph (.mk .paragraph line children)
      else readAssigned (.mk .paragraph line children) := by
  by_cases hs : (Node.mk .paragraph line children').isSpan
  · rw [if_pos hs]
    obtain ⟨sole, hs⟩ : ∃ sole, (Node.mk .paragraph line children').span? = some sole := by
      simpa [Markdown.Node.isSpan, Node.content, Option.isSome_iff_exists] using hs
    obtain ⟨inner, at', inside, inside', rfl, hspan, hc⟩ := h.span? hs
    rw [readParagraph_eq, readParagraph_eq, hs, hspan]
    exact readSpan_commented hc
  · rw [if_neg hs, readParagraph_of_not_isSpan hs]
    have hc : Commented Content.paragraph.admits children children' := h
    exact readAssigned_commented hc

namespace Outline

variable {outline : Outline} {draft : Draft}

theorem addToDraft_commented (h : Commented content.admits children children')
    (hs : (Node.mk content line children').isSpan = (Node.mk content line children).isSpan) :
    outline.addToDraft draft (.mk content line children') =
      outline.addToDraft draft (.mk content line children) := by
  cases content with
  | heading depth =>
    cases depth with
    | none => rfl
    | some depth =>
      simp only [addToDraft, addHeading, Node.content, h.emphasized?, h.plainText, Node.line]
  | list ordered =>
    cases ordered with
    | true =>
      have hm := h.map_eq fun hc => hc.plainText
      simp only [addToDraft, Node.content, Node.children, hm]
    | false =>
      have hm : children'.mapM readItem = children.mapM readItem := by
        have hmap := h.map_eq (f := readItem) fun hc => readItem_commented hc
        simpa only [List.mapM_map, Function.id_comp] using congrArg (List.mapM id) hmap
      simp only [addToDraft, addItems, Node.content, Node.children, hm]
  | paragraph =>
    have hp : readParagraph (.mk .paragraph line children') =
        readParagraph (.mk .paragraph line children) := by
      rw [readParagraph_commented h, hs]
      by_cases hspan : (Node.mk .paragraph line children).isSpan
      · rw [if_pos hspan]
      · rw [if_neg hspan, readParagraph_of_not_isSpan hspan]
    simp only [addToDraft, Node.content, hp]
  | quote => simp only [addToDraft, Node.content, h.plainText, Node.line]
  | _ => rfl

theorem add_commented (h : Commented content.admits children children')
    (hs : (Node.mk content line children').isSpan = (Node.mk content line children).isSpan) :
    outline.add (.mk content line children') = outline.add (.mk content line children) := by
  simp only [add, Node.content, h.plainText, addToDraft_commented h hs]
  rfl

theorem add_of_isBlockComment {comment : Node} (h : comment.content.isBlockComment) :
    outline.add comment = .ok outline := by
  obtain ⟨content, line, children⟩ := comment
  have hnone (draft : Draft) :
      outline.addToDraft draft (.mk content line children) = .ok outline := by
    cases content with
    | html | code => rfl
    | _ => cases h
  have hne : (Node.mk content line children).content ≠ .heading (some 1) := by
    rintro rfl
    cases h
  rw [add, if_neg hne]
  split
  · exact hnone _
  · rfl

end Outline

theorem Markdown.Node.not_isSpan_of_isBlockComment {comment : Node}
    (h : comment.content.isBlockComment) : ¬comment.isSpan := by
  intro hs
  rw [Markdown.Node.isSpan, Bool.and_eq_true, decide_eq_true_iff] at hs
  rw [hs.1] at h
  cases h

theorem Markdown.Commented.countP_isSpan_le {admits : Content → Bool}
    (h : Commented admits nodes nodes') (ha : ∀ content, admits content → content.isBlockComment) :
    nodes'.countP Node.isSpan ≤ nodes.countP Node.isSpan := by
  induction h with
  | nil => exact Nat.le_refl _
  | @node _ content line children children' _ _ hc _ _ ih =>
    have hspan : (Node.mk content line children').isSpan → (Node.mk content line children).isSpan :=
      hc.isSpan
    rw [List.countP_cons, List.countP_cons]
    grind
  | @comment _ comment _ _ hcomment _ ih =>
    rw [List.countP_cons, if_neg (Node.not_isSpan_of_isBlockComment (ha _ hcomment))]
    exact ih ha

theorem compileNodes_commented {admits : Content → Bool} (h : Commented admits nodes nodes')
    (ha : ∀ content, admits content → content.isBlockComment)
    (hs : nodes'.countP Node.isSpan = nodes.countP Node.isSpan) (outline : Outline) :
    compileNodes outline nodes' = compileNodes outline nodes := by
  induction h generalizing outline with
  | nil => rfl
  | @node _ content line children children' rest rest' hc hr _ ih =>
    have hle := hr.countP_isSpan_le ha
    have hspan : (Node.mk content line children').isSpan → (Node.mk content line children).isSpan :=
      hc.isSpan
    rw [List.countP_cons, List.countP_cons] at hs
    have hsame :
        (Node.mk content line children').isSpan = (Node.mk content line children).isSpan := by
      grind
    have hrest : rest'.countP Node.isSpan = rest.countP Node.isSpan := by grind
    rw [compileNodes, compileNodes, Outline.add_commented hc hsame]
    split
    · exact ih ha hrest _
    · rfl
  | @comment _ comment rest rest' hcomment hr ih =>
    rw [List.countP_cons, if_neg (Node.not_isSpan_of_isBlockComment (ha _ hcomment))] at hs
    rw [compileNodes, Outline.add_of_isBlockComment (ha _ hcomment)]
    exact ih ha hs outline

end Blocks

/-- A document is read alike with comments in it, if they keep none of its paragraphs from being
read as a print or a call. -/
theorem compile_commented {document document' : Node}
    (h : Commented Content.isBlockComment document.children document'.children)
    (hs : document'.children.countP Node.isSpan = document.children.countP Node.isSpan) :
    compile document' = compile document :=
  compileNodes_commented h (fun _ => id) hs _

/-- A function that prints a text and has a block with an assignment, with given comments behind the
inline text and among the blocks. -/
def annotated (inside among : List Node) : Node :=
  .mk .document none <|
    [.mk (.heading (some 1)) (some 1) (.inlined (.text "f") [] :: inside),
      .mk .paragraph (some 3) [.inlined .strong (.inlined (.text "hi") [] :: inside)]] ++ among ++
    [.mk (.heading (some 2)) (some 5) (inside ++ [.inlined .emphasis [.inlined (.text "x") []]]),
      .mk .paragraph (some 7) (.inlined (.text "y = 1") [] :: inside)]

theorem compile_annotated :
    Commented Content.isBlockComment (annotated [] []).children
      (annotated [.inlined (.inlineCode "c") []] [.mk (.html "<p>") (some 4) []]).children ∧
    (annotated [.inlined (.inlineCode "c") []] [.mk (.html "<p>") (some 4) []]).children.countP
      Node.isSpan = (annotated [] []).children.countP Node.isSpan ∧
    compile (annotated [.inlined (.inlineCode "c") []] [.mk (.html "<p>") (some 4) []]) =
      compile (annotated [] []) := by
  have h : Commented Content.isBlockComment (annotated [] []).children
      (annotated [.inlined (.inlineCode "c") []] [.mk (.html "<p>") (some 4) []]).children :=
    have behind : Commented Content.isInlineComment [] [.inlined (.inlineCode "c") []] :=
      .comment rfl .nil
    .node (.node .nil behind) <|
    .node (.node (.node .nil behind) .nil) <|
    .comment rfl <|
    .node (.comment rfl (.node (.node .nil .nil) .nil)) <|
    .node (.node .nil behind) .nil
  have hs :
      (annotated [.inlined (.inlineCode "c") []] [.mk (.html "<p>") (some 4) []]).children.countP
        Node.isSpan = (annotated [] []).children.countP Node.isSpan := by decide
  exact ⟨h, hs, compile_commented h hs⟩

/-- A function that prints a text, with given nodes beside the text. -/
def lonePrint (beside : List Node) : Node :=
  .mk .document none
    [.mk (.heading (some 1)) (some 1) [.inlined (.text "f") []],
      .mk .paragraph (some 3) (.inlined .strong [.inlined (.text "hi") []] :: beside)]

/-- Comments may change what a document is read as: behind the bold text of a paragraph, they keep
it from being printed. -/
theorem print_lost_beside_comment :
    ¬∀ document document' : Node,
      Commented Content.isBlockComment document.children document'.children →
      (compile document').program = (compile document).program := by
  intro h
  have hc := h (lonePrint []) (lonePrint [.inlined (.inlineCode "c") []]) <|
    .node (.node .nil .nil) (.node (.node (.node .nil .nil) (.comment rfl .nil)) .nil)
  have hprint : (compile (lonePrint [])).program =
      .ok ⟨[⟨"f", [], [.print (.expr (.literal (.string "hi") none)) (some 3)]⟩], none⟩ := by
    cbv
  have hlost : (compile (lonePrint [.inlined (.inlineCode "c") []])).program =
      .ok ⟨[⟨"f", [], []⟩], none⟩ := by
    cbv
  rw [hprint, hlost] at hc
  cases hc

end DocScript
