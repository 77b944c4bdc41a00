import Shell.Text.Blank
import Shell.Text.Case
import Shell.Text.Digit
import Shell.Text.Letter

/-!
Single characters and character sets of regular expressions, with and without regard to case.
-/

namespace Shell.Regex

open Text

/-- A named kind of character. -/
inductive Kind
  | digit
  | blank
  | word
deriving DecidableEq, Repr

/-- The characters of a kind. -/
def Kind.has : Kind → Char → Bool
  | .digit, c => isDecimal c
  | .blank, c => isBlank c
  | .word, c => isAlphanumeric c || c = '_'

/-- A member of a character set: one code point, a closed range of them, or the characters that
are of a kind, or are not. -/
inductive Item
  | code (value : Nat)
  | range (low high : Nat)
  | kind (name : Kind) (inverse : Bool)
deriving DecidableEq, Repr

/-- Code points from here on lie outside the basic plane. -/
def planeSize : Nat := 0x10000

namespace Item

/-- The characters that a member stands for. -/
def has : Item → Char → Bool
  | code value, c => c.toNat == value
  | range low high, c => low ≤ c.toNat && c.toNat ≤ high
  | kind name inverse, c => name.has c != inverse

/-- The characters that a member stands for when case is disregarded. Outside the basic plane a
code point answers only to characters whose small letter it is, and a range also to those whose
small letter has a capital in it. -/
def hasCaseless : Item → Char → Bool
  | code value, c =>
    if value < planeSize then (caseVariants c).contains value else (fold c).toNat == value
  | range low high, c =>
    ((caseVariants c).any fun v => low ≤ v && v ≤ high && v < planeSize) ||
      (planeSize ≤ high && (has (range low high) (fold c) ||
        ((upperChar (fold c)).head?.any (has (range low high)))))
  | kind name inverse, c => name.has c != inverse

end Item

/-- The character has this code point, or a case variant of it if case is disregarded. -/
def isChar (caseless : Bool) (code : Nat) (c : Char) : Bool :=
  if caseless then (caseVariants c).contains code else c.toNat == code

@[simp]
theorem isChar_toNat_iff (c d : Char) : isChar false c.toNat d = true ↔ d = c := by
  simp [isChar, Char.toNat_inj]

/-- A set of characters: its members, or all characters that are no member. -/
structure CharSet where
  negated : Bool
  items : List Item
deriving DecidableEq, Repr

namespace CharSet

/-- Every character. -/
def all : CharSet := ⟨true, []⟩

/-- Some member stands for the character. -/
def found (caseless : Bool) (items : List Item) (c : Char) : Bool :=
  items.any fun item => if caseless then item.hasCaseless c else item.has c

/-- The characters of a set. -/
def accepts (caseless : Bool) (set : CharSet) (c : Char) : Bool :=
  found caseless set.items c != set.negated

@[simp]
theorem all_accepts (caseless : Bool) (c : Char) : all.accepts caseless c = true := by
  simp [all, accepts, found]

end CharSet

end Shell.Regex
