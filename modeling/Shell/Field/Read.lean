import Shell.Field.Separator

/-!
Splitting a line that is read. With the words come the offsets that they begin at, a backslash may
take the meaning from the character after it, and the number of words may be limited.
-/

namespace Shell.Field

/-- Words of a line, and the offsets of their first characters. A word is added where it ends, and
its offset where it begins. -/
structure Fields where
  words : List (List Char) := []
  starts : List Nat := []
deriving DecidableEq, Repr

instance : Append Fields where
  append first second := ⟨first.words ++ second.words, first.starts ++ second.starts⟩

@[simp]
theorem Fields.words_append (first second : Fields) :
    (first ++ second).words = first.words ++ second.words := rfl

@[simp]
theorem Fields.starts_append (first second : Fields) :
    (first ++ second).starts = first.starts ++ second.starts := rfl

/-- How a line is read: with which separators, and whether a backslash is an ordinary
character. -/
structure Reading where
  ifs : List Char
  raw : Bool
deriving DecidableEq, Repr

/-- The character takes the meaning from the one after it. -/
def Reading.escapes (how : Reading) (c : Char) : Bool := !how.raw && c = '\\'

/-- Where the pass over a line stands. -/
inductive Position
  /-- Only blanks so far. -/
  | opening
  /-- After a mark before the first field. -/
  | resumed
  /-- After a field and blanks. -/
  | gap
  /-- After a mark that closed a field. -/
  | divided
  /-- Inside a field, its characters kept last first. -/
  | field (chars : List Char)
  /-- Inside such a field, after a backslash. -/
  | escaped (chars : List Char)
deriving DecidableEq, Repr

/-- A character that begins a field. -/
def Reading.begin (how : Reading) (c : Char) : Position :=
  if how.escapes c then .escaped [] else .field [c]

/-- Pass over one character: what is added, and where the pass stands then. `full` says that no
field may be added; nothing is returned where one would be needed. -/
def Reading.step? (how : Reading) (full : Bool) (offset : Nat) (c : Char) :
    Position → Option (Fields × Position)
  | .opening =>
    if isBlankSeparator how.ifs c then some ({}, .opening)
    else if isMark how.ifs c then some (⟨[[]], [offset]⟩, .resumed)
    else if full then none
    else some (⟨[], [offset]⟩, how.begin c)
  | .resumed =>
    if isBlankSeparator how.ifs c then some ({}, .resumed)
    else if full then none
    else if isMark how.ifs c && !how.escapes c then some (⟨[[]], [offset]⟩, .divided)
    else some (⟨[], [offset]⟩, how.begin c)
  | .gap =>
    if isBlankSeparator how.ifs c then some ({}, .gap)
    else if isMark how.ifs c then some ({}, .divided)
    else if full then none
    else some (⟨[], [offset]⟩, how.begin c)
  | .divided =>
    if isBlankSeparator how.ifs c then some ({}, .divided)
    else if full then none
    else if isMark how.ifs c then some (⟨[[]], [offset]⟩, .divided)
    else some (⟨[], [offset]⟩, how.begin c)
  | .field chars =>
    if how.escapes c then some ({}, .escaped chars)
    else if isBlankSeparator how.ifs c then some (⟨[chars.reverse], []⟩, .gap)
    else if isMark how.ifs c then some (⟨[chars.reverse], []⟩, .divided)
    else some ({}, .field (c :: chars))
  | .escaped chars => some ({}, .field (c :: chars))

/-- The word that the end of a line closes. -/
def Position.last : Position → Fields
  | .field chars | .escaped chars => ⟨[chars.reverse], []⟩
  | _ => {}

/-- The fields of the text at an offset, when at most `room` more words may be added. -/
def Reading.fieldsFrom (how : Reading) : Position → Option Nat → Nat → List Char → Fields
  | position, _, _, [] => position.last
  | position, room, offset, c :: rest =>
    match how.step? (room == some 0) offset c position with
    | none => {}
    | some (added, next) =>
      added ++ how.fieldsFrom next (room.map (· - added.words.length)) (offset + 1) rest

/-- The fields of a line, at most `limit` of them. Without separators the line is one field, and
an empty line none. -/
def Reading.fields (how : Reading) (limit : Option Nat) (line : List Char) : Fields :=
  if how.ifs.isEmpty then (if line.isEmpty then {} else ⟨[line], [0]⟩)
  else how.fieldsFrom .opening limit 0 line

/-- An odd number of backslashes stands at the head of the text. -/
def oddBackslashes : List Char → Bool
  | '\\' :: rest => !oddBackslashes rest
  | _ => false

/-- Drop the blanks that head a reversed line, up to one that a backslash protects. -/
def Reading.dropBlanks (how : Reading) : List Char → List Char
  | [] => []
  | c :: rest =>
    if isBlankSeparator how.ifs c && (how.raw || !oddBackslashes rest) then how.dropBlanks rest
    else c :: rest

/-- Drop the mark that heads a reversed line, if it is the only mark and unprotected. -/
def Reading.dropMark (how : Reading) : List Char → List Char
  | [] => []
  | c :: rest =>
    if isMark how.ifs c && (how.raw || !oddBackslashes rest) && !rest.any (isMark how.ifs)
    then rest else c :: rest

/-- What the last field of a line keeps of the line's rest: blanks at the end go, then one mark,
if no other mark stands before it. -/
def Reading.stripEnd (how : Reading) (rest : List Char) : List Char :=
  (how.dropMark (how.dropBlanks rest.reverse)).reverse

end Shell.Field
