import Shell.Field.Separator

/-!
Splitting the result of an expansion into fields. One pass over the text: a mark closes the
field before it, blanks close it too but a mark among them divides only once.
-/

namespace Shell.Field

/-- Where the pass stands. -/
inductive Place
  /-- At the beginning, or after a mark and blanks: another mark here closes an empty field. -/
  | fresh
  /-- After a field and blanks: a mark here belongs to the division already made. -/
  | gap
  /-- Inside a field, whose characters are kept last first. -/
  | field (chars : List Char)
deriving DecidableEq, Repr

/-- The fields of the text that follows `place`. -/
def fieldsFrom (ifs : List Char) : Place → List Char → List (List Char)
  | .field chars, [] => [chars.reverse]
  | _, [] => []
  | .fresh, c :: rest =>
    if isBlankSeparator ifs c then fieldsFrom ifs .fresh rest
    else if isMark ifs c then [] :: fieldsFrom ifs .fresh rest
    else fieldsFrom ifs (.field [c]) rest
  | .gap, c :: rest =>
    if isBlankSeparator ifs c then fieldsFrom ifs .gap rest
    else if isMark ifs c then fieldsFrom ifs .fresh rest
    else fieldsFrom ifs (.field [c]) rest
  | .field chars, c :: rest =>
    if isBlankSeparator ifs c then chars.reverse :: fieldsFrom ifs .gap rest
    else if isMark ifs c then chars.reverse :: fieldsFrom ifs .fresh rest
    else fieldsFrom ifs (.field (c :: chars)) rest

/-- The fields of an expansion's result. Without separators the text is one field, and an empty
text none. -/
def split (ifs value : List Char) : List (List Char) :=
  if ifs.isEmpty then (if value.isEmpty then [] else [value]) else fieldsFrom ifs .fresh value

/-- The text begins with a blank separator. -/
def opensWithBlank (ifs : List Char) : List Char → Bool
  | [] => false
  | c :: _ => isBlankSeparator ifs c

/-- The text after the division that opens it, if a mark belongs to that division. -/
def afterOpening (ifs value : List Char) : List Char :=
  match value.dropWhile (isBlankSeparator ifs) with
  | c :: rest => if isMark ifs c then rest.dropWhile (isBlankSeparator ifs) else c :: rest
  | [] => []

/-- The text is all blanks, or a division ends it that is not the one that opens it. -/
def closesWithDivision (ifs value : List Char) : Bool :=
  (!value.isEmpty && value.all (isBlankSeparator ifs)) ||
    (afterOpening ifs value).getLast?.any ifs.contains

/-- Fields together with what a caller needs to join them to neighbouring text. -/
structure Split where
  words : List (List Char)
  leading : Bool
  trailing : Bool
deriving DecidableEq, Repr

/-- Split the result of an expansion, with hints about its two edges. -/
def splitEdges (ifs value : List Char) : Split where
  words := split ifs value
  leading := opensWithBlank ifs value
  trailing := closesWithDivision ifs value

/-- The fields of an expansion's result, under a separator setting that may be absent. -/
def splitText (setting : Option String) (value : String) : List String :=
  (split (separators setting).toList value.toList).map String.ofList

end Shell.Field
