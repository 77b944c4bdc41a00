import Shell.Glob.RegexText

/-!
The number of characters that a pattern matches, where every match has the same.
-/

namespace Shell.Glob

/-- The common value of several, if all have it. -/
def common? : List (Option Nat) → Option Nat
  | [] => none
  | first :: rest => if rest.all (· == first) then first else none

/-- The width of a piece, when `inner` gives that of an alternative. Of the groups only a choice
of one alternative can have a width. -/
def Piece.width? (inner : List Char → Option Nat) : Piece → Option Nat
  | anyText => none
  | group .one body => common? ((alternatives body).map inner)
  | group _ _ => none
  | _ => some 1

/-- The sum of several numbers, if all are known. -/
def total? : List (Option Nat) → Option Nat
  | [] => some 0
  | first :: rest => first.bind fun n => (total? rest).map (n + ·)

/-- The width of a pattern in which groups are nested at most `depth` deep. -/
def widthWithin? (extended : Bool) : (depth : Nat) → List Char → Option Nat
  | 0, _ => none
  | depth + 1, pattern =>
    total? ((pieces extended pattern).map (Piece.width? (widthWithin? extended depth)))

/-- The width of a pattern. -/
def width? (extended : Bool) (pattern : List Char) : Option Nat :=
  widthWithin? extended (nesting pattern) pattern

end Shell.Glob
