import DocScript.Markdown.Block
import DocScript.Text.Line

/-! # Documents

The tree of a whole text.
-/

namespace DocScript.Markdown

/-- Line ends are unified, and the null character is replaced. -/
def normalizeText (text : List Char) : List Char :=
  (Text.unifyBreaks text).map fun c => if c = '\x00' then '\ufffd' else c

/-- Enough for every level of nesting to pass over all lines. -/
def blockFuel (lines : Nat) : Nat := 4 * (maxNesting + 2) * (lines + 2)

/-- The document tree of a text. -/
def parseDocument (text : String) : Node :=
  let lines := linesOf 0 [] (normalizeText text.toList)
  let reading := readBlocks (blockFuel lines.length) ⟨0, -1, 0⟩ [] lines
  .mk .document none (Block.toNodes reading.definitions reading.blocks)

end DocScript.Markdown
