import Shell.Glob.Piece

/-!
The regular expression of a pattern, as text.
-/

namespace Shell.Glob

/-- What the two wildcards become. -/
structure Wildcards where
  anyText : List Char
  anyChar : List Char
deriving DecidableEq, Repr

/-- Wildcards that match every character. -/
def Wildcards.free : Wildcards := ⟨".*".toList, ".".toList⟩

/-- Wildcards that match every character but the slash. -/
def Wildcards.withinSegment : Wildcards := ⟨"[^/]*".toList, "[^/]".toList⟩

/-- Characters with a meaning of their own in a regular expression. -/
def regexSpecials : List Char :=
  ['\\', '^', '$', '.', '|', '+', '(', ')', '\x7b', '\x7d', '[', ']', '*', '?']

/-- A character that stands for itself. -/
def literalText (c : Char) : List Char :=
  if regexSpecials.contains c then ['\\', c] else [c]

/-- A group around the text of its alternatives. A refused group takes any text that does not run
to the end as one of the alternatives does. -/
def GroupKind.wrap (kind : GroupKind) (inner : List Char) : List Char :=
  let grouped := "(?:".toList ++ inner ++ [')']
  match kind with
  | one => grouped
  | any => grouped ++ ['*']
  | many => grouped ++ ['+']
  | optional => grouped ++ ['?']
  | none => "(?:(?!".toList ++ grouped ++ "$).*?)".toList

/-- Texts with a bar between each two. -/
def joinBars (texts : List (List Char)) : List Char := ['|'].intercalate texts

/-- The text of a piece, when `inner` gives that of an alternative. -/
def Piece.regexText (wildcards : Wildcards) (inner : List Char → List Char) : Piece → List Char
  | char c | escaped c => literalText c
  | anyText => wildcards.anyText
  | anyChar => wildcards.anyChar
  | bracket content => bracketText content
  | group kind body => kind.wrap (joinBars ((alternatives body).map inner))

/-- The text for a pattern in which groups are nested at most `depth` deep. -/
def bodyText (wildcards : Wildcards) (extended : Bool) : (depth : Nat) → List Char → List Char
  | 0, _ => []
  | depth + 1, pattern =>
    (pieces extended pattern).flatMap
      (Piece.regexText wildcards (bodyText wildcards extended depth))

/-- Bounds the nesting of groups in a pattern. -/
def nesting (pattern : List Char) : Nat := pattern.length + 1

/-- The regular expression of a pattern for whole texts. -/
def regexText (extended : Bool) (pattern : List Char) : List Char :=
  '^' :: bodyText .free extended (nesting pattern) pattern ++ ['$']

/-- The regular expression of a pattern whose wildcards stay within a segment of a path. -/
def segmentRegexText (pattern : List Char) : List Char :=
  '^' :: bodyText .withinSegment false (nesting pattern) pattern ++ ['$']

end Shell.Glob
