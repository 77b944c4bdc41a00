/-!
Field separators. A separator is a blank (space, tab or newline) or a mark (any other
character): runs of blanks divide fields as one, each mark divides them on its own.
-/

namespace Shell.Field

/-- The separators in force when none are set. -/
def defaultSeparators : String := " \t\n"

/-- A layout character, which separates as a blank. -/
def isLayout (c : Char) : Bool := c = ' ' || c = '\t' || c = '\n'

/-- The character is a separator of the blank kind. -/
def isBlankSeparator (ifs : List Char) (c : Char) : Bool := ifs.contains c && isLayout c

/-- The character is a separator of the mark kind. -/
def isMark (ifs : List Char) (c : Char) : Bool := ifs.contains c && !isLayout c

/-- The separators in force for a setting that may be absent. -/
def separators (setting : Option String) : String := setting.getD defaultSeparators

/-- The separators are set, to nothing. -/
def isDisabled (setting : Option String) : Bool := setting == some ""

/-- All separators in force are blanks; none at all counts. -/
def isBlankOnly (setting : Option String) : Bool := (separators setting).toList.all isLayout

/-- What stands between fields that are joined: the first separator, or a space if none are
set. -/
def joiner (setting : Option String) : String :=
  match setting with
  | none => " "
  | some ifs => String.ofList (ifs.toList.take 1)

/-- Characters with a meaning of their own inside a regular expression's character class. -/
def classSpecials : List Char :=
  ['\\', '^', '$', '.', '*', '+', '?', '(', ')', '[', ']', '\x7b', '\x7d', '|', '-']

/-- A separator as it is written inside a regular expression's character class. -/
def classText (c : Char) : List Char :=
  if classSpecials.contains c then ['\\', c]
  else if c = '\t' then ['\\', 't']
  else if c = '\n' then ['\\', 'n']
  else [c]

theorem contains_iff_blank_or_mark (ifs : List Char) (c : Char) :
    ifs.contains c = true ↔ isBlankSeparator ifs c = true ∨ isMark ifs c = true := by
  cases layout : isLayout c <;> simp [isBlankSeparator, isMark, layout]

theorem isMark_eq_false_of_isBlankSeparator {ifs : List Char} {c : Char}
    (blank : isBlankSeparator ifs c = true) : isMark ifs c = false := by
  simp_all [isBlankSeparator, isMark]

end Shell.Field
