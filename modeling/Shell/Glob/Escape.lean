import Shell.Glob.Group

/-!
Protecting text from being read as a pattern, and telling whether it would be.
-/

namespace Shell.Glob

/-- Characters with a meaning of their own in a pattern. -/
def patternSpecials : List Char := ['*', '?', '[', ']', '\\', '(', ')', '|']

/-- Put a backslash before every character with a meaning of its own. -/
def protect (text : List Char) : List Char :=
  text.flatMap fun c => if patternSpecials.contains c then ['\\', c] else [c]

/-- Drop the backslash before every protected character. -/
def unprotect : List Char → List Char
  | '\\' :: c :: rest => c :: unprotect rest
  | c :: rest => c :: unprotect rest
  | [] => []

/-- The sign of a group stands right before a parenthesis. -/
def announcesGroup : List Char → Bool
  | c :: rest => ((GroupKind.ofSign? c).isSome && rest.head? == some '(') || announcesGroup rest
  | [] => false

/-- The text holds a wildcard, a bracket, or, if extended, the sign of a group. -/
def isPattern (extended : Bool) (text : List Char) : Bool :=
  (text.any fun c => c = '*' || c = '?' || c = '[') || (extended && announcesGroup text)

/-- The same protection, on strings. -/
def protectText (text : String) : String := String.ofList (protect text.toList)

theorem protect_append (a b : List Char) : protect (a ++ b) = protect a ++ protect b := by
  simp [protect]

end Shell.Glob
