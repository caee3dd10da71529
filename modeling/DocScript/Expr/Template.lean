import DocScript.Expr.Parse

/-! # Reading templates

Text in balanced braces is an expression, and all other text stands for itself. A brace that is
never closed is text.
-/

namespace DocScript

/-- The text up to the brace that closes the one before it, and what follows. `depth` braces are
open inside. -/
def takeBraced (depth : Nat) : List Char → Option (List Char × List Char)
  | [] => none
  | c :: rest =>
    if c = '\x7b' then (takeBraced (depth + 1) rest).map fun (inside, left) => (c :: inside, left)
    else if c = '\x7d' then
      match depth with
      | 0 => some ([], rest)
      | outer + 1 => (takeBraced outer rest).map fun (inside, left) => (c :: inside, left)
    else (takeBraced depth rest).map fun (inside, left) => (c :: inside, left)

theorem takeBraced_length {depth : Nat} {text inside left : List Char}
    (h : takeBraced depth text = some (inside, left)) : left.length < text.length := by
  induction text generalizing depth inside with
  | nil => cases h
  | cons c rest ih =>
    have shorter {d : Nat} {c : Char}
        (h : ((takeBraced d rest).map fun (i, l) => (c :: i, l)) = some (inside, left)) :
        left.length < (c :: rest).length := by
      obtain ⟨⟨i, l⟩, hi, he⟩ := Option.map_eq_some_iff.1 h
      have := ih (hi.trans (by rw [(Prod.mk.inj he).2]))
      simp only [List.length_cons]
      omega
    unfold takeBraced at h
    split at h
    · exact shorter h
    · split at h
      · split at h
        · cases h; simp
        · exact shorter h
      · exact shorter h

/-- A stretch of a template before its expressions are read. -/
inductive Segment where
  | text (chars : List Char)
  | braced (inside : List Char)

/-- The text segment of what has been passed over, last character first, if there is any. -/
def Segment.ofPassed (passed : List Char) : List Segment :=
  if passed.isEmpty then [] else [.text passed.reverse]

def segments (passed : List Char) : List Char → List Segment
  | [] => Segment.ofPassed passed
  | c :: rest =>
    if c = '\x7b' then
      match h : takeBraced 0 rest with
      | some (inside, left) =>
        have := takeBraced_length h
        Segment.ofPassed passed ++ .braced inside :: segments [] left
      | none => segments (c :: passed) rest
    else segments (c :: passed) rest
termination_by text => text.length

def Segment.parse : Segment → Result TemplatePart
  | .text chars => .ok (.text (String.ofList chars))
  | .braced inside => (Expr.parse (String.ofList inside)).map .expr

/-- The parts of a template in order, or the failure of the first expression that does not read. -/
def Template.parse (text : String) : Result Template :=
  (segments [] text.toList).mapM Segment.parse

end DocScript
