/-!
Groups of extended patterns: `@(…)`, `*(…)`, `+(…)`, `?(…)` and `!(…)`, with alternatives divided
by bars.
-/

namespace Shell.Glob

/-- What a group asks of the alternatives inside it. -/
inductive GroupKind
  /-- One of them. -/
  | one
  /-- Any number of them in a row. -/
  | any
  /-- One or more of them in a row. -/
  | many
  /-- One of them, or nothing. -/
  | optional
  /-- Whatever is none of them. -/
  | none
deriving DecidableEq, Repr

namespace GroupKind

/-- The character in front of the group. -/
def sign : GroupKind → Char
  | one => '@'
  | any => '*'
  | many => '+'
  | optional => '?'
  | none => '!'

/-- The kind of group that a character announces. -/
def ofSign? (c : Char) : Option GroupKind :=
  [one, any, many, optional, none].find? (·.sign = c)

@[simp]
theorem ofSign?_sign (kind : GroupKind) : ofSign? kind.sign = some kind := by
  cases kind <;> rfl

end GroupKind

/-- Split a text at the parenthesis that closes it, when `depth` more are open inside. A backslash
protects the next character. -/
def groupFrom? : (depth : Nat) → List Char → Option (List Char × List Char)
  | _, [] => none
  | depth, '\\' :: c :: rest =>
    (groupFrom? depth rest).map fun (body, after) => ('\\' :: c :: body, after)
  | depth, '(' :: rest =>
    (groupFrom? (depth + 1) rest).map fun (body, after) => ('(' :: body, after)
  | 0, ')' :: rest => some ([], rest)
  | depth + 1, ')' :: rest =>
    (groupFrom? depth rest).map fun (body, after) => (')' :: body, after)
  | depth, c :: rest => (groupFrom? depth rest).map fun (body, after) => (c :: body, after)

/-- Put text in front of the first of several texts. -/
def prepend (text : List Char) : List (List Char) → List (List Char)
  | [] => [text]
  | first :: rest => (text ++ first) :: rest

/-- Split a text at the bars outside parentheses, when `depth` more are open than closed before
it. -/
def alternativesFrom : (depth : Int) → List Char → List (List Char)
  | _, [] => [[]]
  | depth, '\\' :: c :: rest => prepend ['\\', c] (alternativesFrom depth rest)
  | depth, c :: rest =>
    if c = '(' then prepend [c] (alternativesFrom (depth + 1) rest)
    else if c = ')' then prepend [c] (alternativesFrom (depth - 1) rest)
    else if c = '|' ∧ depth = 0 then [] :: alternativesFrom depth rest
    else prepend [c] (alternativesFrom depth rest)

/-- The alternatives of a group's body. -/
def alternatives (body : List Char) : List (List Char) := alternativesFrom 0 body

theorem prepend_ne_nil (text : List Char) (texts : List (List Char)) : prepend text texts ≠ [] := by
  cases texts <;> simp [prepend]

theorem alternativesFrom_ne_nil (depth : Int) (body : List Char) :
    alternativesFrom depth body ≠ [] := by
  fun_cases alternativesFrom depth body <;> simp_all [prepend_ne_nil]

end Shell.Glob
