import Shell.Glob.Piece
import Shell.Glob.RegexText
import Shell.Regex.Parser

/-!
Lists of patterns for paths that are left out, divided by colons.
-/

namespace Shell.Glob

/-- Divide pieces at the colons that stand for themselves. -/
def divideAtColons : List Piece → List (List Char)
  | [] => [[]]
  | .char ':' :: rest => [] :: divideAtColons rest
  | piece :: rest => prepend piece.source (divideAtColons rest)

/-- The patterns of a list. Colons behind a backslash or inside a bracket divide nothing, and
empty patterns are dropped. -/
def ignorePatterns (list : List Char) : List (List Char) :=
  (divideAtColons (pieces false list)).filter (!·.isEmpty)

/-- What follows the last slash of a path. -/
def lastSegment (path : List Char) : List Char :=
  (path.reverse.takeWhile (· ≠ '/')).reverse

/-- The directory itself or the one above it. -/
def isDotSegment (segment : List Char) : Bool := segment = ['.'] || segment = ['.', '.']

/-- The path is kept: it does not lead to a dot segment and matches none of the expressions. -/
def isKept (ignored : List Regex) (path : List Char) : Bool :=
  !isDotSegment (lastSegment path) && !ignored.any (·.matchesStart false path)

/-- The expressions of several patterns, if all are well formed. -/
def ignoreRegexes? (patterns : List (List Char)) : Option (List Regex) :=
  patterns.mapM fun pattern => Regex.parse? (segmentRegexText pattern)

/-- The paths that a list of ignored patterns leaves, if its patterns are well formed. An empty list
leaves all. -/
def keep? (list : List Char) (paths : List (List Char)) : Option (List (List Char)) :=
  match ignorePatterns list with
  | [] => some paths
  | patterns => (ignoreRegexes? patterns).map fun ignored => paths.filter (isKept ignored)

end Shell.Glob
