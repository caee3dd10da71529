/-! # Document trees

A document is a tree of blocks, and blocks hold inline text. Blocks carry the line on which they
begin. Any node may have children, whatever it is.
-/

namespace DocScript.Markdown

/-- What a node is. -/
inductive Content where
  | document
  | heading (depth : Option Int)
  | paragraph
  | list (ordered : Bool)
  | item
  | quote
  | thematicBreak
  | code (text : String)
  | html (text : String)
  | text (text : String)
  | inlineCode (text : String)
  | emphasis
  | strong
  | link (url : String)
  | image (url : String)
  | unknown
  deriving DecidableEq, Repr

inductive Node where
  | mk (content : Content) (line : Option Int) (children : List Node)

namespace Node

def content : Node → Content
  | .mk content _ _ => content

def line : Node → Option Int
  | .mk _ line _ => line

def children : Node → List Node
  | .mk _ _ children => children

/-- A node of inline text, which has no line. -/
def inlined (content : Content) (children : List Node) : Node := .mk content none children

end Node

instance : Inhabited Node := ⟨.mk .unknown none []⟩

end DocScript.Markdown
