/-!
Splitting a text at a character.
-/

namespace Shell.Text

/-- Split a text at the first occurrence of a character. -/
def splitAt? (mark : Char) : List Char → Option (List Char × List Char)
  | [] => none
  | c :: rest =>
    if c = mark then some ([], rest)
    else (splitAt? mark rest).map fun (before, after) => (c :: before, after)

/-- Split a text at every occurrence of a character. -/
def splitAll (mark : Char) : List Char → List (List Char)
  | [] => [[]]
  | c :: rest =>
    if c = mark then [] :: splitAll mark rest
    else match splitAll mark rest with
      | [] => [[c]]
      | part :: others => (c :: part) :: others

theorem splitAt?_eq_some {mark : Char} {text before after : List Char}
    (divided : splitAt? mark text = some (before, after)) : text = before ++ mark :: after := by
  induction text generalizing before with
  | nil => simp [splitAt?] at divided
  | cons c rest inductionHypothesis =>
    by_cases same : c = mark
    · simp [splitAt?, same] at divided
      simp [← divided.1, ← divided.2, same]
    · simp only [splitAt?, same, if_false, Option.map_eq_some_iff, Prod.mk.injEq,
        Prod.exists] at divided
      obtain ⟨head, tail, found, rfl, rfl⟩ := divided
      simp [inductionHypothesis found]

end Shell.Text
