import DocScript.Number.Numeral

/-! # Numbers in settings

Settings allow more spellings than documents do: an underscore between two digits, and the words
for infinities and for NaN.
-/

namespace DocScript

/-- Drops the underscores, each of which must stand between two digits. -/
def dropUnderscores (afterDigit : Bool) : List Char → Option (List Char)
  | [] => some []
  | '_' :: c :: rest =>
    if afterDigit && Text.isDigit c then (dropUnderscores true rest).map (c :: ·) else none
  | ['_'] => none
  | c :: rest => (dropUnderscores (Text.isDigit c) rest).map (c :: ·)

/-- The numbers that are written as words, in any case. -/
def wordNumber? (text : List Char) : Option Binary64 :=
  let word := String.ofList (text.map Char.toLower)
  if word = "inf" || word = "infinity" then some (.infinite false)
  else if word = "nan" then some .nan
  else none

/-- The float that a setting spells. -/
def floatOfSetting? (text : String) : Option Binary64 := do
  let (negative, unsigned) := takeSign (Text.trim text.toList)
  let x ← match wordNumber? unsigned with
    | some x => some x
    | none =>
      match Numeral.take? (← dropUnderscores false unsigned) with
      | some (n, []) => some n.toDecimal.toBinary64
      | _ => none
  return if negative then x.neg else x

/-- The integer that a setting spells. -/
def intOfSetting? (text : String) : Except TooManyDigits (Option Int) :=
  let (negative, unsigned) := takeSign (Text.trim text.toList)
  match (dropUnderscores false unsigned).map takeDigits with
  | some (d :: digits, []) =>
    if Numeral.maxDigits < (d :: digits).length then .error ⟨(d :: digits).length⟩
    else .ok (some (signed negative (natOfDigits (d :: digits))))
  | _ => .ok none

end DocScript
