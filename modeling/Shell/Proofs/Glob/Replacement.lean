import Shell.Proofs.Glob.Removal

/-!
# Replacing matches in a text

A single replacement takes the leftmost of the longest matches. When all matches are
replaced, they divide the text: each begins where the ones before leave off, and is
the longest there, and every other character is copied, because nothing matches where
it stands. The empty text counts as a match once only, before all others. There is one
such division of every text.
-/

namespace Shell.Glob

section Search

variable {accepts : List Char → Bool} {allowEmpty : Bool} {text : List Char} {length : Nat}

theorem longestMatch?_eq_some (found : longestMatch? accepts allowEmpty text = some length) :
    length ≤ text.length ∧ accepts (text.take length) = true ∧
      (length = 0 → allowEmpty = true) ∧
      ∀ other ≤ text.length, accepts (text.take other) = true → other ≤ length := by
  have passed : (allowEmpty || length != 0) && accepts (text.take length) := by
    simpa using List.find?_some found
  rw [Bool.and_eq_true] at passed
  refine ⟨?_, passed.2, fun zero => by simpa [zero] using passed.1, fun other fits accepted => ?_⟩
  · simpa using List.mem_of_find?_eq_some found
  · by_cases zero : other = 0
    · rw [zero]
      exact Nat.zero_le length
    · have first := before_of_find? (ordered_reverse_cutPoints text) Nat.le_refl found
      exact first other (by simpa using fits) (by simp [accepted, zero])

theorem longestMatch?_eq_none (missing : longestMatch? accepts allowEmpty text = none) {other : Nat}
    (fits : other ≤ text.length) (accepted : accepts (text.take other) = true) :
    other = 0 ∧ allowEmpty = false := by
  have failed := List.find?_eq_none.mp missing other (by simpa using fits)
  simp only [accepted, Bool.and_true, Bool.or_eq_true, bne_iff_ne, not_or, not_not,
    Bool.not_eq_true] at failed
  exact failed.symm

/-- No match at the front of the text is longer than the one that is found. -/
theorem length_le_of_longestMatch? (found : longestMatch? accepts allowEmpty text = some length)
    {longer : List Char} (begins : longer <+: text) (accepted : accepts longer = true) :
    longer.length ≤ length := by
  obtain ⟨-, -, -, longest⟩ := longestMatch?_eq_some found
  rw [List.prefix_iff_eq_take.mp begins] at accepted
  exact longest _ begins.length_le accepted

/-- If no match is found, only the empty one is there, where it is not allowed. -/
theorem eq_nil_of_longestMatch?_eq_none (missing : longestMatch? accepts allowEmpty text = none)
    {front : List Char} (begins : front <+: text) (accepted : accepts front = true) :
    front = [] ∧ allowEmpty = false := by
  rw [List.prefix_iff_eq_take.mp begins] at accepted
  obtain ⟨empty, forbidden⟩ := longestMatch?_eq_none missing begins.length_le accepted
  exact ⟨List.length_eq_zero_iff.mp empty, forbidden⟩

end Search

section First

/-- The characters from a place on to before another are a match, which begins in the text. -/
structure MatchAt (accepts : List Char → Bool) (text : List Char) (first last : Nat) : Prop where
  begins : first < text.length
  ordered : first ≤ last
  ends : last ≤ text.length
  accepted : accepts (text.extract first last) = true

/-- No match begins further left, and none that begins here is longer. -/
structure LeftmostLongest (accepts : List Char → Bool) (text : List Char) (first last : Nat) : Prop
    extends MatchAt accepts text first last where
  leftmost : ∀ other next, MatchAt accepts text other next → first ≤ other
  longest : ∀ next, MatchAt accepts text first next → next ≤ last

variable {accepts : List Char → Bool} {c : Char} {text : List Char} {first last : Nat}

theorem matchAt_zero_iff :
    MatchAt accepts (c :: text) 0 last ↔
      last ≤ (c :: text).length ∧ accepts ((c :: text).take last) = true :=
  ⟨fun found => ⟨found.ends, found.accepted⟩,
    fun ⟨ends, accepted⟩ => ⟨Nat.zero_lt_succ _, Nat.zero_le _, ends, accepted⟩⟩

theorem matchAt_succ_iff :
    MatchAt accepts (c :: text) (first + 1) (last + 1) ↔ MatchAt accepts text first last := by
  have same : (c :: text).extract (first + 1) (last + 1) = text.extract first last := by
    simp
  constructor
  · rintro ⟨begins, ordered, ends, accepted⟩
    exact ⟨Nat.lt_of_succ_lt_succ begins, Nat.le_of_succ_le_succ ordered,
      Nat.le_of_succ_le_succ ends, same ▸ accepted⟩
  · rintro ⟨begins, ordered, ends, accepted⟩
    exact ⟨Nat.succ_lt_succ begins, Nat.succ_le_succ ordered, Nat.succ_le_succ ends,
      same ▸ accepted⟩

/-- A match that begins behind the first character ends there too. -/
theorem MatchAt.exists_of_cons (found : MatchAt accepts (c :: text) first last)
    (later : first ≠ 0) :
    ∃ before next, first = before + 1 ∧ last = next + 1 ∧ MatchAt accepts text before next := by
  obtain ⟨before, rfl⟩ := Nat.exists_eq_succ_of_ne_zero later
  obtain ⟨next, rfl⟩ := Nat.exists_eq_succ_of_ne_zero
    (Nat.ne_of_gt (Nat.lt_of_lt_of_le (Nat.succ_pos before) found.ordered))
  exact ⟨before, next, rfl, rfl, matchAt_succ_iff.mp found⟩

theorem LeftmostLongest.cons (found : LeftmostLongest accepts text first last)
    (missing : ∀ next, ¬ MatchAt accepts (c :: text) 0 next) :
    LeftmostLongest accepts (c :: text) (first + 1) (last + 1) where
  toMatchAt := matchAt_succ_iff.mpr found.toMatchAt
  leftmost other next matched := by
    have later : other ≠ 0 := by
      rintro rfl
      exact missing next matched
    obtain ⟨before, last, rfl, rfl, inside⟩ := matched.exists_of_cons later
    exact Nat.succ_le_succ (found.leftmost before last inside)
  longest next matched := by
    obtain ⟨before, last, same, rfl, inside⟩ := matched.exists_of_cons (Nat.succ_ne_zero first)
    cases same
    exact Nat.succ_le_succ (found.longest last inside)

/-- One match is replaced, the leftmost of the longest, if there is a match. -/
theorem replaceFirst_cases (accepts : List Char → Bool) (replacement text : List Char) :
    (∃ first last, LeftmostLongest accepts text first last ∧
      replaceFirst accepts replacement text =
        text.take first ++ replacement ++ text.drop last) ∨
    (∀ first last, ¬ MatchAt accepts text first last) ∧
      replaceFirst accepts replacement text = text := by
  induction text with
  | nil => exact .inr ⟨fun _ _ found => absurd found.begins (Nat.not_lt_zero _), rfl⟩
  | cons c text inductionHypothesis =>
    rw [replaceFirst]
    cases found : longestMatch? accepts true (c :: text) with
    | some length =>
      obtain ⟨fits, accepted, -, longest⟩ := longestMatch?_eq_some found
      refine .inl ⟨0, length, ⟨matchAt_zero_iff.mpr ⟨fits, accepted⟩, ?_, ?_⟩, rfl⟩
      · exact fun other _ _ => Nat.zero_le other
      · intro next matched
        obtain ⟨nextFits, nextAccepted⟩ := matchAt_zero_iff.mp matched
        exact longest next nextFits nextAccepted
    | none =>
      have missing : ∀ next, ¬ MatchAt accepts (c :: text) 0 next := by
        intro next matched
        obtain ⟨fits, accepted⟩ := matchAt_zero_iff.mp matched
        exact absurd (longestMatch?_eq_none found fits accepted).2 (by decide)
      rcases inductionHypothesis with ⟨first, last, leftmost, same⟩ | ⟨none, same⟩
      · exact .inl ⟨first + 1, last + 1, leftmost.cons missing, by simp [same]⟩
      · refine .inr ⟨fun first last matched => ?_, by simp [same]⟩
        by_cases zero : first = 0
        · exact missing last (zero ▸ matched)
        · obtain ⟨before, next, -, -, matched⟩ := matched.exists_of_cons zero
          exact none before next matched

end First

/-- A part of a text in which matches are replaced: a character that is copied, or a match. -/
inductive Portion
  | copied (c : Char)
  | matched (text : List Char)
deriving DecidableEq, Repr

namespace Portion

/-- The text of a part. -/
def source : Portion → List Char
  | copied c => [c]
  | matched text => text

/-- What a part becomes. -/
def outcome (replacement : List Char) : Portion → List Char
  | copied c => [c]
  | matched _ => replacement

/-- The part is a match. -/
def isMatch : Portion → Bool
  | copied _ => false
  | matched _ => true

/-- A part is what it should be between others. A match is the longest where it begins; if it is
empty, no match comes before it, and a character follows. Where a character is copied nothing
matches, unless it is the empty text behind another match. -/
def Fits (accepts : List Char → Bool) (before after : List Portion) : Portion → Prop
  | copied c => ∀ found, found <+: c :: after.flatMap source → accepts found = true →
      found = [] ∧ before.any isMatch = true
  | matched text => accepts text = true ∧
      (∀ longer, longer <+: text ++ after.flatMap source → accepts longer = true →
        longer.length ≤ text.length) ∧
      (text = [] → before.any isMatch = false ∧ after ≠ [])

end Portion

/-- Each part is what it should be, when some parts are in front of all. -/
def Arranged (accepts : List Char → Bool) (front portions : List Portion) : Prop :=
  ∀ before portion after, portions = before ++ portion :: after →
    portion.Fits accepts (front ++ before) after

/-- The parts are a division of the text into matches and the characters beside them. -/
structure Divides (accepts : List Char → Bool) (text : List Char) (portions : List Portion) :
    Prop where
  whole : portions.flatMap Portion.source = text
  arranged : Arranged accepts [] portions

section Every

variable {accepts : List Char → Bool} {front : List Portion}

theorem arranged_nil (accepts : List Char → Bool) (front : List Portion) :
    Arranged accepts front [] := by
  intro before portion after split
  simp at split

theorem arranged_cons_iff {portion : Portion} {portions : List Portion} :
    Arranged accepts front (portion :: portions) ↔
      portion.Fits accepts front portions ∧ Arranged accepts (front ++ [portion]) portions := by
  constructor
  · intro arranged
    refine ⟨?_, fun before other after split => ?_⟩
    · simpa using arranged [] portion portions rfl
    · simpa using arranged (portion :: before) other after (by rw [split, List.cons_append])
  · rintro ⟨fits, arranged⟩ before other after split
    cases before with
    | nil =>
      obtain ⟨rfl, rfl⟩ := List.cons.inj split
      simpa using fits
    | cons first before =>
      obtain ⟨rfl, rest⟩ := List.cons.inj split
      simpa using arranged before other after rest

/-- Replacing all matches divides the text, from the end of the last match on. -/
theorem exists_arranged (accepts : List Char → Bool) (replacement : List Char)
    (front : List Portion) (skip : Nat) (text : List Char) :
    ∃ portions, portions.flatMap Portion.source = text.drop skip ∧
      Arranged accepts front portions ∧
      replaceAllFrom accepts replacement (front.any Portion.isMatch) skip text =
        portions.flatMap (Portion.outcome replacement) := by
  induction text generalizing front skip with
  | nil => exact ⟨[], List.drop_nil.symm, arranged_nil accepts front, by cases skip <;> rfl⟩
  | cons c rest inductionHypothesis =>
    cases skip with
    | succ skip => exact inductionHypothesis front skip
    | zero =>
      rw [replaceAllFrom]
      cases found : longestMatch? accepts (!front.any Portion.isMatch) (c :: rest) with
      | none =>
        obtain ⟨portions, whole, arranged, same⟩ := inductionHypothesis (front ++ [.copied c]) 0
        refine ⟨.copied c :: portions, by simp [whole, Portion.source], ?_, ?_⟩
        · refine arranged_cons_iff.mpr ⟨fun text begins accepted => ?_, arranged⟩
          rw [whole, List.drop_zero] at begins
          obtain ⟨empty, replaced⟩ := eq_nil_of_longestMatch?_eq_none found begins accepted
          exact ⟨empty, by simpa using replaced⟩
        · simpa [Portion.outcome, Portion.isMatch] using same
      | some length =>
        obtain ⟨fits, accepted, empty, -⟩ := longestMatch?_eq_some found
        cases length with
        | zero =>
          -- The character behind the empty match is copied in the same step.
          obtain ⟨portions, whole, arranged, same⟩ :=
            inductionHypothesis (front ++ [.matched []] ++ [.copied c]) 0
          rw [List.drop_zero] at whole
          have behind : Arranged accepts (front ++ [.matched []]) (.copied c :: portions) := by
            refine arranged_cons_iff.mpr ⟨fun text begins accepted => ?_, arranged⟩
            rw [whole] at begins
            have none := length_le_of_longestMatch? found begins accepted
            exact ⟨List.length_eq_zero_iff.mp (Nat.le_zero.mp none), by simp [Portion.isMatch]⟩
          refine ⟨.matched [] :: .copied c :: portions, by simp [whole, Portion.source], ?_, ?_⟩
          · refine arranged_cons_iff.mpr ⟨⟨accepted, fun longer begins => ?_, fun _ => ?_⟩, behind⟩
            · rw [List.flatMap_cons, whole] at begins
              exact length_le_of_longestMatch? found begins
            · exact ⟨by simpa using empty rfl, by simp⟩
          · simpa [Portion.outcome, Portion.isMatch] using same
        | succ length =>
          obtain ⟨portions, whole, arranged, same⟩ :=
            inductionHypothesis (front ++ [.matched (c :: rest.take length)]) length
          have size : (c :: rest.take length).length = length + 1 := by
            rw [List.length_cons] at fits ⊢
            rw [List.length_take_of_le (Nat.le_of_succ_le_succ fits)]
          refine ⟨.matched (c :: rest.take length) :: portions, by simp [whole, Portion.source],
            ?_, ?_⟩
          · refine arranged_cons_iff.mpr ⟨⟨accepted, fun longer begins => ?_, by simp⟩, arranged⟩
            rw [whole, List.cons_append, List.take_append_drop] at begins
            rw [size]
            exact length_le_of_longestMatch? found begins
          · simpa [Portion.outcome, Portion.isMatch] using same

/-- A character is not copied where a match is replaced. -/
theorem not_fits_copied {portions others : List Portion} {c : Char} {text : List Char}
    (copied : (Portion.copied c).Fits accepts front portions)
    (matched : (Portion.matched text).Fits accepts front others)
    (same : c :: portions.flatMap Portion.source = text ++ others.flatMap Portion.source) :
    False := by
  obtain ⟨accepted, -, empty⟩ := matched
  obtain ⟨none, replaced⟩ := copied text (same ▸ List.prefix_append _ _) accepted
  rw [(empty none).1] at replaced
  contradiction

/-- The empty text has no parts. -/
theorem Arranged.eq_nil {portions : List Portion} (arranged : Arranged accepts front portions)
    (empty : portions.flatMap Portion.source = []) : portions = [] := by
  -- Only empty matches have no text, and of them only one, which others have to follow.
  have headMatch : ∀ {portion : Portion} {later : List Portion},
      (portion :: later).flatMap Portion.source = [] →
        portion = .matched [] ∧ later.flatMap Portion.source = [] := by
    intro portion later empty
    cases portion with
    | copied c => simp [Portion.source] at empty
    | matched text => simpa [Portion.source] using empty
  cases portions with
  | nil => rfl
  | cons portion later =>
    obtain ⟨rfl, nothing⟩ := headMatch empty
    obtain ⟨⟨-, -, followed⟩, rest⟩ := arranged_cons_iff.mp arranged
    obtain ⟨next, later, rfl⟩ := List.exists_cons_of_ne_nil (followed rfl).2
    obtain ⟨rfl, -⟩ := headMatch nothing
    have alone := ((arranged_cons_iff.mp rest).1.2.2 rfl).1
    simp [Portion.isMatch] at alone

/-- A text is divided in one way only. -/
theorem Arranged.unique {portions others : List Portion}
    (arranged : Arranged accepts front portions)
    (otherwise : Arranged accepts front others)
    (same : portions.flatMap Portion.source = others.flatMap Portion.source) :
    portions = others := by
  induction portions generalizing front others with
  | nil => exact (otherwise.eq_nil same.symm).symm
  | cons portion portions inductionHypothesis =>
    obtain ⟨fits, rest⟩ := arranged_cons_iff.mp arranged
    cases others with
    | nil => exact arranged.eq_nil same
    | cons other others =>
      obtain ⟨otherFits, otherRest⟩ := arranged_cons_iff.mp otherwise
      cases portion with
      | copied c =>
        cases other with
        | copied d =>
          obtain ⟨rfl, behind⟩ := List.cons.inj same
          rw [inductionHypothesis rest otherRest behind]
        | matched text => exact (not_fits_copied fits otherFits same).elim
      | matched text =>
        cases other with
        | copied d => exact (not_fits_copied otherFits fits same.symm).elim
        | matched other =>
          have same : text ++ portions.flatMap Portion.source =
              other ++ others.flatMap Portion.source := same
          -- Each is the longest match that begins here.
          have sizes : text.length = other.length := by
            apply Nat.le_antisymm
            · exact otherFits.2.1 text (same ▸ List.prefix_append text _) fits.1
            · exact fits.2.1 other (same ▸ List.prefix_append other _) otherFits.1
          obtain ⟨rfl, behind⟩ := List.append_inj same sizes
          rw [inductionHypothesis rest otherRest behind]

end Every

section Patterns

variable {mode : Mode} {pattern : List Char} {matcher : Matcher}

theorem replace_eq (nonempty : pattern ≠ []) (compiled : compile? mode pattern = some matcher)
    (replacement text : List Char) :
    replace mode pattern replacement .first text =
        replaceFirst matcher.accepts replacement text ∧
      replace mode pattern replacement .every text =
        replaceAllFrom matcher.accepts replacement false 0 text := by
  have given : pattern.isEmpty = false := by simpa using nonempty
  constructor
  · simp only [replace, given, compiled, Bool.false_eq_true, if_false]
  · simp only [replace, given, compiled, Bool.false_eq_true, if_false]

/-- A single replacement is that of the leftmost of the longest matches. All replacements are those
of the matches in the one division of the text. -/
theorem replace_leftmost_longest (nonempty : pattern ≠ [])
    (compiled : compile? mode pattern = some matcher) (replacement text : List Char) :
    ((∃ first last, LeftmostLongest matcher.accepts text first last ∧
        replace mode pattern replacement .first text =
          text.take first ++ replacement ++ text.drop last) ∨
      (∀ first last, ¬ MatchAt matcher.accepts text first last) ∧
        replace mode pattern replacement .first text = text) ∧
    ∃ portions, Divides matcher.accepts text portions ∧
      (∀ others, Divides matcher.accepts text others → others = portions) ∧
      replace mode pattern replacement .every text =
        portions.flatMap (Portion.outcome replacement) := by
  obtain ⟨first, every⟩ := replace_eq nonempty compiled replacement text
  rw [first, every]
  refine ⟨replaceFirst_cases matcher.accepts replacement text, ?_⟩
  obtain ⟨portions, whole, arranged, same⟩ := exists_arranged matcher.accepts replacement [] 0 text
  refine ⟨portions, ⟨whole, arranged⟩, fun others divides => ?_, same⟩
  exact divides.arranged.unique arranged (divides.whole.trans whole.symm)

/-- A pattern that also matches the empty text, which counts only in front of all. -/
theorem replace_leftmost_longest_stars : ∃ matcher,
    "*(ab)".toList ≠ [] ∧ compile? ⟨true, false⟩ "*(ab)".toList = some matcher ∧
    (∃ portions, Divides matcher.accepts "xababyab".toList portions ∧
      replace ⟨true, false⟩ "*(ab)".toList ['-'] .every "xababyab".toList =
        portions.flatMap (Portion.outcome ['-'])) ∧
    replace ⟨true, false⟩ "*(ab)".toList ['-'] .every "xababyab".toList = "-x-y-".toList := by
  have matched : (compile? ⟨true, false⟩ "*(ab)".toList).map (·.accepts []) = some true := by decide
  obtain ⟨matcher, compiled, -⟩ := Option.map_eq_some_iff.mp matched
  have nonempty : "*(ab)".toList ≠ [] := by decide
  obtain ⟨portions, divides, -, same⟩ :=
    (replace_leftmost_longest nonempty compiled ['-'] "xababyab".toList).2
  exact ⟨matcher, nonempty, compiled, ⟨portions, divides, same⟩, by decide⟩

end Patterns

end Shell.Glob
