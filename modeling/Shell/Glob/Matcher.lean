import Shell.Glob.Escape
import Shell.Glob.Width
import Shell.Regex.Parser
import Shell.Regex.Pool

/-!
Matching whole texts against patterns. A pattern with a refused group outside all other groups is
matched by trying every way to cut the text around that group; any other by its regular expression.
-/

namespace Shell.Glob

/-- A test for whole texts, and whether it was made around a refused group. -/
structure Matcher where
  negates : Bool
  accepts : List Char → Bool

/-- How patterns are read: extended or not, and with regard to case or not. -/
structure Mode where
  extended : Bool
  caseless : Bool
deriving DecidableEq, Repr

/-- The offsets at which a text can be cut in two, from its start to its end. -/
def cutPoints (text : List Char) : List Nat := List.range (text.length + 1)

/-- Texts before, inside and after the first refused group. -/
def negation? : List Piece → Option (List Char × List Char × List Char)
  | [] => none
  | .group .none body :: rest => some ([], body, sourceOf rest)
  | piece :: rest =>
    (negation? rest).map fun (before, body, after) => (piece.source ++ before, body, after)

/-- What is in between matches no alternative, and what comes after it matches, for some cut of the
text. -/
def fitsAfter (after : Matcher) (refused : List (Option Matcher)) (text : List Char) : Bool :=
  (cutPoints text).any fun i =>
    !(refused.any fun alternative => alternative.any (·.accepts (text.take i))) &&
      after.accepts (text.drop i)

/-- Some two cuts of the text fit: what comes before and after the group matches, and what is in
between matches no alternative. -/
def fitsAround (before after : Matcher) (refused : List (Option Matcher)) (text : List Char) :
    Bool :=
  (cutPoints text).any fun i =>
    before.accepts (text.take i) && fitsAfter after refused (text.drop i)

/-- The matcher around a refused group. It accepts nothing if one of its sides is malformed. -/
def Matcher.around (before after : Option Matcher) (refused : List (Option Matcher)) : Matcher where
  negates := true
  accepts :=
    match before, after with
    | some before, some after => fitsAround before after refused
    | _, _ => fun _ => false

/-- The matcher of a pattern by its regular expression, if that is well formed. -/
def Matcher.plain? (mode : Mode) (pattern : List Char) : Option Matcher :=
  (Regex.parse? (regexText mode.extended pattern)).map fun regex =>
    ⟨false, (if mode.caseless then regex.pooled else regex).matchesWhole mode.caseless⟩

/-- The matcher of a pattern in which refused groups are nested at most `depth` deep. -/
def compileWithin? (mode : Mode) : (depth : Nat) → List Char → Option Matcher
  | 0, pattern => Matcher.plain? mode pattern
  | depth + 1, pattern =>
    match if mode.extended then negation? (pieces true pattern) else none with
    | none => Matcher.plain? mode pattern
    | some (before, body, after) =>
      some (Matcher.around (compileWithin? mode depth before) (compileWithin? mode depth after)
        ((alternatives body).map (compileWithin? mode depth)))

/-- The matcher of a pattern, unless its regular expression is malformed. -/
def compile? (mode : Mode) (pattern : List Char) : Option Matcher :=
  compileWithin? mode (nesting pattern) pattern

/-- The whole text matches the pattern. A malformed pattern matches what it spells. -/
def accepts (mode : Mode) (pattern text : List Char) : Bool :=
  match compile? mode pattern with
  | some matcher => matcher.accepts text
  | none => text == unprotect pattern

@[simp]
theorem mem_cutPoints {text : List Char} {i : Nat} : i ∈ cutPoints text ↔ i ≤ text.length := by
  rw [cutPoints, List.mem_range, Nat.lt_succ_iff]

end Shell.Glob
