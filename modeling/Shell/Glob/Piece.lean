import Shell.Glob.Bracket
import Shell.Glob.Group

/-!
The pieces of a pattern. Cutting a pattern into pieces loses nothing: their sources, one after the
other, are the pattern.
-/

namespace Shell.Glob

/-- A piece of a pattern. -/
inductive Piece
  /-- A character that stands for itself. -/
  | char (c : Char)
  /-- A character behind a backslash. -/
  | escaped (c : Char)
  /-- The wildcard for any text. -/
  | anyText
  /-- The wildcard for any one character. -/
  | anyChar
  /-- A bracket expression, by its content. -/
  | bracket (content : List Char)
  /-- A group, by its body. -/
  | group (kind : GroupKind) (body : List Char)
deriving DecidableEq, Repr

/-- The text of a piece. -/
def Piece.source : Piece → List Char
  | char c => [c]
  | escaped c => ['\\', c]
  | anyText => ['*']
  | anyChar => ['?']
  | bracket content => '[' :: content ++ [']']
  | group kind body => kind.sign :: '(' :: body ++ [')']

/-- The group at the head of a text, if one closes. -/
def group? (c : Char) (rest : List Char) : Option Piece :=
  match GroupKind.ofSign? c, rest with
  | some kind, '(' :: rest => (groupFrom? 0 rest).map fun (body, _) => .group kind body
  | _, _ => none

/-- The piece at the head of a text, groups aside. An opening bracket that nothing closes and a
backslash at the end stand for themselves. -/
def plainPiece (c : Char) (rest : List Char) : Piece :=
  match c, rest with
  | '\\', next :: _ => .escaped next
  | '*', _ => .anyText
  | '?', _ => .anyChar
  | '[', rest =>
    match bracket? rest with
    | some (content, _) => .bracket content
    | none => .char '['
  | c, _ => .char c

/-- The piece at the head of a text. -/
def headPiece (extended : Bool) (c : Char) (rest : List Char) : Piece :=
  if extended then (group? c rest).getD (plainPiece c rest) else plainPiece c rest

/-- The pieces of a text of which the first `skip` characters are already accounted for. -/
def piecesAfter (extended : Bool) : (skip : Nat) → List Char → List Piece
  | _, [] => []
  | skip + 1, _ :: rest => piecesAfter extended skip rest
  | 0, c :: rest =>
    let piece := headPiece extended c rest
    piece :: piecesAfter extended (piece.source.length - 1) rest

/-- The pieces of a pattern. Groups are pieces in extended patterns only. -/
def pieces (extended : Bool) (pattern : List Char) : List Piece := piecesAfter extended 0 pattern

/-- The text of several pieces. -/
def sourceOf (pieces : List Piece) : List Char := pieces.flatMap Piece.source

theorem piecesAfter_eq_pieces_drop (extended : Bool) (skip : Nat) (text : List Char) :
    piecesAfter extended skip text = pieces extended (text.drop skip) := by
  induction text generalizing skip with
  | nil => cases skip <;> simp [pieces, piecesAfter]
  | cons c rest inductionHypothesis =>
    cases skip with
    | zero => rfl
    | succ skip => simpa [piecesAfter] using inductionHypothesis skip

@[simp]
theorem pieces_nil (extended : Bool) : pieces extended [] = [] := rfl

theorem pieces_cons (extended : Bool) (c : Char) (rest : List Char) :
    pieces extended (c :: rest) =
      headPiece extended c rest ::
        pieces extended (rest.drop ((headPiece extended c rest).source.length - 1)) := by
  rw [pieces, piecesAfter, piecesAfter_eq_pieces_drop]

end Shell.Glob
