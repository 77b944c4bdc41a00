import Shell.Text.CaseTable

/-!
Capital and small letters: full case change of a text, and comparison of characters
without regard to case.
-/

namespace Shell.Text

/-- The code point in the other case, as the first run that holds it says. -/
def CaseRun.shift? (runs : List CaseRun) (code : Nat) : Option Nat :=
  (runs.find? (·.has code)).map fun run => ((code : Int) + run.distance).toNat

/-- The capital form of one character, which may take several. -/
def upperChar (c : Char) : List Char :=
  if c.toNat < 128 then [c.toUpper]
  else match longCapitals.lookup c.toNat with
    | some codes => codes.map Char.ofNat
    | none => [((CaseRun.shift? upperRuns c.toNat).map Char.ofNat).getD c]

/-- The small form of one character. The dotted capital I keeps its dot as a mark of its own. -/
def lowerChar (c : Char) : List Char :=
  if c.toNat < 128 then [c.toLower]
  else if c = '\u0130' then ['i', '\u0307']
  else [((CaseRun.shift? lowerRuns c.toNat).map Char.ofNat).getD c]

/-- A sign that the case of a word looks through. -/
def isCaseIgnorable (c : Char) : Bool :=
  if c.toNat < 128 then ['\x27', '.', ':', '^', '\x60'].contains c
  else caseIgnorableRanges.has c.toNat

/-- A letter with a case. -/
def isCased (c : Char) : Bool :=
  if c.toNat < 128 then c.isAlpha else casedRanges.has c.toNat

/-- Whether the nearest character that counts is a letter with a case. -/
def meetsCased (text : List Char) : Bool :=
  match text.dropWhile isCaseIgnorable with
  | c :: _ => isCased c
  | [] => false

/-- The small form of a text after the characters `before`, nearest first. A capital sigma at
the end of a word becomes the final sigma. -/
def lowerAfter (before : List Char) : List Char → List Char
  | [] => []
  | c :: rest =>
    let small :=
      if c = 'Σ' then [if meetsCased before && !meetsCased rest then 'ς' else 'σ']
      else lowerChar c
    small ++ lowerAfter (c :: before) rest

/-- The small form of a text. -/
def lower (text : List Char) : List Char := lowerAfter [] text

/-- The capital form of a text. -/
def upper (text : List Char) : List Char := text.flatMap upperChar

/-- The small letter that stands for a character when case is disregarded. -/
def fold (c : Char) : Char := (lowerChar c).headD c

/-- Code points of the capital letters that `fold` sends to a small letter. -/
def capitalsOf (small : Nat) : List Nat :=
  let ascii := if 97 ≤ small ∧ small ≤ 122 then [small - 32] else []
  let dotted := if small = 0x69 then [0x130] else []
  let shifted := lowerRuns.filterMap fun run =>
    let code := ((small : Int) - run.distance).toNat
    if run.has code ∧ ((code : Int) + run.distance).toNat = small then some code else none
  ascii ++ dotted ++ shifted

/-- Code points of all characters that equal `c` when case is disregarded: those with the same
small letter, or with small letters that share a capital. -/
def caseVariants (c : Char) : List Nat :=
  let small := (fold c).toNat
  let smalls := (sharedCapitals.find? (·.contains small)).getD [small]
  smalls.flatMap fun code => code :: capitalsOf code

@[simp]
theorem lower_nil : lower [] = [] := rfl

@[simp]
theorem upper_nil : upper [] = [] := rfl

@[simp]
theorem upper_append (a b : List Char) : upper (a ++ b) = upper a ++ upper b := by
  simp [upper]

end Shell.Text
