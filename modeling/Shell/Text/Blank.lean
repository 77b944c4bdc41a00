import Shell.Text.Ranges

/-!
Blank characters and the removal of blanks at both ends.
-/

namespace Shell.Text

/-- Blank characters of every script, the separators of ASCII among them. -/
def blankRanges : Ranges :=
  [(0x9, 0xD), (0x1C, 0x20), (0x85, 0x85), (0xA0, 0xA0), (0x1680, 0x1680), (0x2000, 0x200A),
   (0x2028, 0x2029), (0x202F, 0x202F), (0x205F, 0x205F), (0x3000, 0x3000)]

/-- A blank character. -/
def isBlank (c : Char) : Bool := blankRanges.has c.toNat

/-- Drop the longest run at each end whose characters satisfy the test. -/
def trim (drop : Char → Bool) (text : List Char) : List Char :=
  ((text.dropWhile drop).reverse.dropWhile drop).reverse

/-- Drop the blanks at both ends. -/
def strip (text : List Char) : List Char := trim isBlank text

end Shell.Text
