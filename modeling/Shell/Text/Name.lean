import Shell.Text.Numeral

/-!
Variable names and references to array elements.
-/

namespace Shell

namespace Text

/-- A character that may begin a name. -/
def isNameStart (c : Char) : Bool := c.isAlpha || c = '_'

/-- A character that may continue a name. -/
def isNameChar (c : Char) : Bool := c.isAlphanum || c = '_'

/-- An identifier: an ASCII letter or underscore, then letters, digits and underscores. -/
def isIdentifier : List Char → Bool
  | [] => false
  | c :: rest => isNameStart c && rest.all isNameChar

/-- A text accepted as a variable name: an identifier, which one newline may follow. -/
def isName (text : List Char) : Bool := isIdentifier (chopNewline text)

end Text

/-- A reference `array[subscript]`. -/
structure Reference where
  array : String
  subscript : String
deriving DecidableEq, Repr

namespace Reference

open Text

/-- The subscript in a text that follows an opening bracket: everything up to the last character,
which must close the bracket. One newline may follow. -/
def subscript? (text : List Char) : Option (List Char) :=
  let text := chopNewline text
  if text.getLast? = some ']' ∧ text.dropLast ≠ [] then some text.dropLast else none

/-- Read `array[subscript]` with a nonempty subscript. -/
def parse? (text : String) : Option Reference :=
  let base := text.toList.takeWhile isNameChar
  match text.toList.dropWhile isNameChar with
  | '[' :: rest =>
    if isIdentifier base then
      (subscript? rest).map fun subscript => ⟨String.ofList base, String.ofList subscript⟩
    else none
  | _ => none

end Reference

namespace Text

/-- A text that a nameref may point to: a name or a reference to an element. -/
def isTarget (text : String) : Bool :=
  isName text.toList || (Reference.parse? text).isSome

end Text

end Shell
