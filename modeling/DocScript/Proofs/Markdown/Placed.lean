import DocScript.Markdown.Document

/-! # The lines of blocks

Every block begins on a line of the document, and so do the items of a list. Headings have a depth
from one to six.
-/

namespace DocScript.Markdown

/-- Whether lines are among the first ones of a document. -/
def AreNumbered (count : Nat) (lines : List Line) : Prop := ∀ line ∈ lines, line.number < count

/-- Whether a block and those in it begin on lines of a document, and headings have a depth that
headings can have. -/
inductive Block.IsPlaced (count : Nat) : Block → Prop where
  | container {content : Content} {line : Nat} {children : List Block} (hl : line < count)
      (hc : ∀ depth, content ≠ .heading depth) (hi : ∀ block ∈ children, block.IsPlaced count) :
      IsPlaced count (.container content line children)
  | paragraph {line : Nat} (text : List Char) (hl : line < count) :
      IsPlaced count (.inline .paragraph line text)
  | heading {depth line : Nat} (text : List Char) (hl : line < count) (hd : 1 ≤ depth)
      (hs : depth ≤ 6) : IsPlaced count (.inline (.heading (some depth)) line text)
  | leaf {content : Content} {line : Nat} (hl : line < count)
      (hc : ∀ depth, content ≠ .heading depth) : IsPlaced count (.leaf content line)

/-- Whether the blocks of a reading are placed, and the lines after them are left as they are. -/
structure Reading.IsPlaced (count : Nat) (reading : Reading) : Prop where
  blocks : ∀ block ∈ reading.blocks, block.IsPlaced count
  rest : AreNumbered count reading.rest

variable {count : Nat} {frame : Frame} {definitions : Definitions} {first : Line}
  {lines rest : List Line}

theorem areNumbered_nil : AreNumbered count [] := nofun

theorem areNumbered_cons :
    AreNumbered count (first :: rest) ↔ first.number < count ∧ AreNumbered count rest :=
  List.forall_mem_cons

theorem AreNumbered.suffix (h : AreNumbered count lines) (hs : rest <:+ lines) :
    AreNumbered count rest := fun line hl => h line (hs.mem hl)

theorem AreNumbered.drop (h : AreNumbered count lines) (n : Nat) :
    AreNumbered count (lines.drop n) := h.suffix (List.drop_suffix n lines)

theorem Reading.isPlaced_nil (h : AreNumbered count rest) :
    (⟨[], rest, definitions⟩ : Reading).IsPlaced count := ⟨nofun, h⟩

theorem Reading.isPlaced_single {block : Block} (hb : block.IsPlaced count)
    (h : AreNumbered count rest) : (⟨[block], rest, definitions⟩ : Reading).IsPlaced count :=
  ⟨List.forall_mem_singleton.mpr hb, h⟩

/-! ## Blocks of one kind -/

theorem fencedLines_suffix (frame : Frame) (mark : Char) (length : Nat) (lines : List Line) :
    (fencedLines frame mark length lines).2 <:+ lines := by
  induction lines with
  | nil => exact List.suffix_refl _
  | cons line rest ih =>
    unfold fencedLines
    split
    · exact List.suffix_refl _
    · split
      · exact List.suffix_cons line rest
      · exact ih.trans (List.suffix_cons line rest)

theorem markupLines_suffix (frame : Frame) (kind : MarkupBlock) (lines : List Line) :
    (markupLines frame kind lines).2 <:+ lines := by
  induction lines with
  | nil => exact List.suffix_refl _
  | cons line rest ih =>
    unfold markupLines
    split
    · exact List.suffix_refl _
    · split
      · split
        · exact List.suffix_refl _
        · exact List.suffix_cons line rest
      · exact ih.trans (List.suffix_cons line rest)

theorem isPlaced_readCode (h : AreNumbered count (first :: rest)) :
    (readCode frame first rest).1.IsPlaced count ∧
      AreNumbered count (readCode frame first rest).2 :=
  ⟨.leaf (areNumbered_cons.mp h).1 nofun, h.drop _⟩

theorem isPlaced_readFence (mark : Char) (length : Nat) (h : AreNumbered count (first :: rest)) :
    (readFence frame mark length first rest).1.IsPlaced count ∧
      AreNumbered count (readFence frame mark length first rest).2 :=
  have ⟨hf, hr⟩ := areNumbered_cons.mp h
  ⟨.leaf hf nofun, hr.suffix (fencedLines_suffix frame mark length rest)⟩

theorem isPlaced_readMarkup (kind : MarkupBlock) (h : AreNumbered count (first :: rest)) :
    (readMarkup frame kind first rest).1.IsPlaced count ∧
      AreNumbered count (readMarkup frame kind first rest).2 := by
  obtain ⟨hf, hr⟩ := areNumbered_cons.mp h
  refine ⟨.leaf hf nofun, ?_⟩
  unfold readMarkup
  dsimp only
  split
  · exact hr
  · exact hr.suffix (markupLines_suffix frame kind rest)

theorem depth_of_underline? {line : Line} {depth : Nat} (h : line.underline? frame = some depth) :
    1 ≤ depth ∧ depth ≤ 6 := by
  unfold Line.underline? at h
  split at h
  · cases h
  · split at h
    · split at h
      · cases h
        split <;> decide
      · cases h
    · cases h

theorem depth_of_paragraphExtent {depth : Nat} (h : (paragraphExtent frame lines).2 = some depth) :
    1 ≤ depth ∧ depth ≤ 6 := by
  induction lines with
  | nil => cases h
  | cons line rest ih =>
    simp only [paragraphExtent] at h
    split at h
    · cases h
    · split at h
      · exact ih h
      · split at h
        · cases h
          exact depth_of_underline? ‹_›
        · split at h
          · exact ih h
          · split at h
            · cases h
            · exact ih h

theorem isPlaced_readParagraph (h : AreNumbered count (first :: rest)) :
    (readParagraph frame first rest).1.IsPlaced count ∧
      AreNumbered count (readParagraph frame first rest).2 := by
  obtain ⟨hf, hr⟩ := areNumbered_cons.mp h
  unfold readParagraph
  dsimp only
  split
  · obtain ⟨hd, hs⟩ := depth_of_paragraphExtent ‹_›
    exact ⟨.heading _ hf hd hs, hr.drop _⟩
  · exact ⟨.paragraph _ hf, hr.drop _⟩

theorem depth_of_heading? {line : Line} {depth : Nat} {text : List Char}
    (h : line.heading? frame = some (depth, text)) : 1 ≤ depth ∧ depth ≤ 6 := by
  simp only [Line.heading?] at h
  split at h
  · rename_i hc
    cases h
    simp only [Bool.and_eq_true, decide_eq_true_eq] at hc
    exact ⟨hc.1.1.2, hc.1.2⟩
  · cases h

theorem areNumbered_quoteLines {lastEmpty : Bool} (h : AreNumbered count lines) :
    AreNumbered count (quoteLines frame lastEmpty lines) := by
  induction lines generalizing lastEmpty with
  | nil => exact areNumbered_nil
  | cons line rest ih =>
    obtain ⟨hl, hr⟩ := areNumbered_cons.mp h
    unfold quoteLines
    split
    · exact areNumbered_nil
    · split
      · exact areNumbered_cons.mpr ⟨hl, ih hr⟩
      · split
        · exact areNumbered_nil
        · exact areNumbered_cons.mpr ⟨hl, ih hr⟩

/-! ## Blocks in blocks -/

/-- Whether all that is read with some fuel is placed. -/
structure Places (count fuel : Nat) : Prop where
  blocks : ∀ frame definitions lines, AreNumbered count lines →
    (readBlocks fuel frame definitions lines).IsPlaced count
  block : ∀ frame definitions first rest, AreNumbered count (first :: rest) →
    (readBlock fuel frame definitions first rest).IsPlaced count
  quote : ∀ frame definitions first rest, AreNumbered count (first :: rest) →
    (readQuote fuel frame definitions first rest).IsPlaced count
  list : ∀ frame definitions mark first rest, AreNumbered count (first :: rest) →
    (readList fuel frame definitions mark first rest).IsPlaced count
  items : ∀ frame definitions mark first rest, AreNumbered count (first :: rest) →
    (readItems fuel frame definitions mark first rest).IsPlaced count

variable {fuel : Nat}

theorem places_zero (count : Nat) : Places count 0 where
  blocks _ _ _ _ := Reading.isPlaced_nil areNumbered_nil
  block _ _ _ _ h := Reading.isPlaced_nil (areNumbered_cons.mp h).2
  quote _ _ _ _ h := Reading.isPlaced_nil (areNumbered_cons.mp h).2
  list _ _ _ _ _ h := Reading.isPlaced_nil (areNumbered_cons.mp h).2
  items _ _ _ _ _ h := Reading.isPlaced_nil (areNumbered_cons.mp h).2

namespace Places

theorem readBlocks (h : Places count fuel) (frame : Frame) (definitions : Definitions)
    (hn : AreNumbered count lines) :
    (readBlocks (fuel + 1) frame definitions lines).IsPlaced count := by
  have hd := hn.suffix (List.dropWhile_suffix Line.isEmpty)
  unfold Markdown.readBlocks
  split
  · exact Reading.isPlaced_nil areNumbered_nil
  · rename_i first rest he
    rw [he] at hd
    split
    · exact Reading.isPlaced_nil hd
    · split
      · exact Reading.isPlaced_nil areNumbered_nil
      · have hb := h.block frame definitions first rest hd
        have ho := h.blocks frame (readBlock fuel frame definitions first rest).definitions _
          hb.rest
        exact ⟨List.forall_mem_append.mpr ⟨hb.blocks, ho.blocks⟩, ho.rest⟩

theorem readBlock (h : Places count fuel) (frame : Frame) (definitions : Definitions)
    (hn : AreNumbered count (first :: rest)) :
    (readBlock (fuel + 1) frame definitions first rest).IsPlaced count := by
  obtain ⟨hf, hr⟩ := areNumbered_cons.mp hn
  have single {read : Block × List Line}
      (hs : read.1.IsPlaced count ∧ AreNumbered count read.2) :
      (⟨[read.1], read.2, definitions⟩ : Reading).IsPlaced count :=
    Reading.isPlaced_single hs.1 hs.2
  unfold Markdown.readBlock
  dsimp only
  split
  · exact single (isPlaced_readCode hn)
  · split
    · exact single (isPlaced_readFence _ _ hn)
    · split
      · exact h.quote frame definitions first rest hn
      · split
        · exact Reading.isPlaced_single (.leaf hf nofun) hr
        · split
          · exact h.list frame definitions _ first rest hn
          · split
            · exact Reading.isPlaced_nil (hn.drop _)
            · split
              · exact single (isPlaced_readMarkup _ hn)
              · split
                · obtain ⟨hd, hs⟩ := depth_of_heading? ‹_›
                  exact Reading.isPlaced_single (.heading _ hf hd hs) hr
                · exact single (isPlaced_readParagraph hn)

theorem readQuote (h : Places count fuel) (frame : Frame) (definitions : Definitions)
    (hn : AreNumbered count (first :: rest)) :
    (readQuote (fuel + 1) frame definitions first rest).IsPlaced count := by
  obtain ⟨hf, hr⟩ := areNumbered_cons.mp hn
  have hi : AreNumbered count
      (first.behindQuote :: quoteLines frame first.behindQuote.isEmpty rest) :=
    areNumbered_cons.mpr ⟨hf, areNumbered_quoteLines hr⟩
  unfold Markdown.readQuote
  dsimp only
  exact Reading.isPlaced_single (.container hf nofun (h.blocks _ _ _ hi).blocks) (hn.drop _)

theorem readList (h : Places count fuel) (frame : Frame) (definitions : Definitions)
    (mark : ItemMark) (hn : AreNumbered count (first :: rest)) :
    (readList (fuel + 1) frame definitions mark first rest).IsPlaced count := by
  have hi := h.items frame definitions mark first rest hn
  exact Reading.isPlaced_single (.container (areNumbered_cons.mp hn).1 nofun hi.blocks) hi.rest

/-- The items behind one of which the inside has been read. -/
theorem isPlaced_others (h : Places count fuel) (frame : Frame) (mark : ItemMark)
    {inner : Reading} (hp : inner.IsPlaced count) :
    (match inner.rest with
      | [] => (⟨[], [], inner.definitions⟩ : Reading)
      | next :: after =>
        match mark.next? frame next with
        | some mark => Markdown.readItems fuel frame inner.definitions mark next after
        | none => ⟨[], next :: after, inner.definitions⟩).IsPlaced count := by
  split
  · exact Reading.isPlaced_nil areNumbered_nil
  · rename_i next after he
    have ha : AreNumbered count (next :: after) := he ▸ hp.rest
    split
    · exact h.items frame inner.definitions _ next after ha
    · exact Reading.isPlaced_nil ha

theorem readItems (h : Places count fuel) (frame : Frame) (definitions : Definitions)
    (mark : ItemMark) (hn : AreNumbered count (first :: rest)) :
    (readItems (fuel + 1) frame definitions mark first rest).IsPlaced count := by
  obtain ⟨hf, hr⟩ := areNumbered_cons.mp hn
  have hl : AreNumbered count ((mark.enter frame first).2.1 :: rest) :=
    areNumbered_cons.mpr ⟨hf, hr⟩
  have hp : (if (mark.enter frame first).2.2 && (rest.head?.map Line.isEmpty).getD true then
      (⟨[], rest.drop 1, definitions⟩ : Reading)
    else Markdown.readBlocks fuel (mark.enter frame first).1 definitions
      ((mark.enter frame first).2.1 :: rest)).IsPlaced count := by
    split
    · exact Reading.isPlaced_nil (hr.drop 1)
    · exact h.blocks _ _ _ hl
  have ho := h.isPlaced_others frame mark hp
  exact ⟨List.forall_mem_cons.mpr ⟨.container hf nofun hp.blocks, ho.blocks⟩, ho.rest⟩

end Places

theorem places (count fuel : Nat) : Places count fuel := by
  induction fuel with
  | zero => exact places_zero count
  | succ fuel ih =>
    constructor
    · exact fun frame definitions _ => ih.readBlocks frame definitions
    · exact fun frame definitions _ _ => ih.readBlock frame definitions
    · exact fun frame definitions _ _ => ih.readQuote frame definitions
    · exact fun frame definitions mark _ _ => ih.readList frame definitions mark
    · exact fun frame definitions mark _ _ => ih.readItems frame definitions mark

/-! ## Documents -/

/-- The number of lines of a document. -/
def lineCount (text : String) : Nat := (linesOf 0 [] (normalizeText text.toList)).length

/-- Whether a number is that of a line, counted from one. -/
def IsLineOf (count : Nat) (line : Option Int) : Prop :=
  ∃ n : Nat, 1 ≤ n ∧ n ≤ count ∧ line = some (n : Int)

/-- Whether a block of a document has a line, as its items have if it is a list, and a depth that
headings have if it is a heading. -/
structure Node.IsPlaced (count : Nat) (node : Node) : Prop where
  line : IsLineOf count node.line
  depth : ∀ depth, node.content = .heading depth → ∃ d : Nat, 1 ≤ d ∧ d ≤ 6 ∧ depth = some (d : Int)
  items : ∀ ordered, node.content = .list ordered →
    ∀ item ∈ node.children, IsLineOf count item.line

theorem isLineOf_succ {n : Nat} (h : n < count) : IsLineOf count (some (n + 1)) :=
  ⟨n + 1, Nat.succ_pos n, h, rfl⟩

theorem line_toNode {block : Block} (h : block.IsPlaced count) (definitions : Definitions) :
    IsLineOf count (block.toNode definitions).line := by
  cases h <;> exact isLineOf_succ ‹_›

theorem toNodes_eq_map (definitions : Definitions) (blocks : List Block) :
    Block.toNodes definitions blocks = blocks.map (Block.toNode definitions) := by
  induction blocks with
  | nil => rfl
  | cons block rest ih => rw [Block.toNodes, ih, List.map_cons]

theorem isPlaced_toNode {block : Block} (h : block.IsPlaced count) (definitions : Definitions) :
    (block.toNode definitions).IsPlaced count := by
  refine ⟨line_toNode h definitions, ?_, ?_⟩
  · intro depth hd
    cases h with
    | container hl hc => exact absurd hd (hc depth)
    | paragraph => cases hd
    | heading text hl h1 h6 => exact ⟨_, h1, h6, (Content.heading.inj hd).symm⟩
    | leaf hl hc => exact absurd hd (hc depth)
  · intro ordered ho item hi
    cases h with
    | container hl hc hp =>
      rw [Block.toNode, toNodes_eq_map] at hi
      obtain ⟨child, hm, rfl⟩ := List.mem_map.mp hi
      exact line_toNode (hp child hm) definitions
    | paragraph => cases ho
    | heading => cases ho
    | leaf => cases hi

theorem areNumbered_linesOf (number : Nat) (begun text : List Char) :
    AreNumbered (number + (linesOf number begun text).length) (linesOf number begun text) := by
  induction text generalizing number begun with
  | nil =>
    unfold linesOf
    split
    · exact areNumbered_nil
    · exact areNumbered_cons.mpr ⟨Nat.lt_succ_self number, areNumbered_nil⟩
  | cons c rest ih =>
    unfold linesOf
    split
    · have hr := ih (number + 1) []
      rw [Nat.add_right_comm] at hr
      exact areNumbered_cons.mpr ⟨Nat.lt_add_of_pos_right (Nat.succ_pos _), hr⟩
    · exact ih number (c :: begun)

theorem isPlaced_of_mem_document (text : String) :
    ∀ node ∈ (parseDocument text).children, node.IsPlaced (lineCount text) := by
  intro node hn
  have hl := areNumbered_linesOf 0 [] (normalizeText text.toList)
  rw [Nat.zero_add] at hl
  rw [parseDocument, Node.children, toNodes_eq_map] at hn
  obtain ⟨block, hb, rfl⟩ := List.mem_map.mp hn
  exact isPlaced_toNode (((places _ _).blocks _ _ _ hl).blocks block hb) _

end DocScript.Markdown
