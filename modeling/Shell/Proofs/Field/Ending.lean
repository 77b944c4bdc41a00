import Shell.Proofs.Field.Layout

/-!
# What the last field keeps of a line

Whoever reads a line into as many names as it has fields gives the last name the rest of the
line, stripped at its end. Where a backslash is an ordinary character, this is the last field,
unless the line ends in a mark that stands apart from it: the blanks between the two stay.
-/

namespace Shell.Field

variable {ifs : List Char}

theorem dropBlanks_append {blanks : List Char}
    (blank : ∀ c ∈ blanks, isBlankSeparator ifs c = true) (rest : List Char) :
    dropBlanks ifs (blanks ++ rest) = dropBlanks ifs rest :=
  List.dropWhile_append_of_pos blank

theorem isBlankSeparator_of_plain {c : Char} (plain : isPlain ifs c = true) :
    isBlankSeparator ifs c = false :=
  Bool.eq_false_iff.mpr fun blank => by simp [isPlain_of_blank blank] at plain

theorem isMark_of_plain {c : Char} (plain : isPlain ifs c = true) : isMark ifs c = false :=
  Bool.eq_false_iff.mpr fun mark => by simp [isPlain_of_mark mark] at plain

/-- The text ends in a mark, or in one and blanks. -/
def EndsInMark (ifs text : List Char) : Prop :=
  ∃ front mark blanks, text = front ++ mark :: blanks ∧ isMark ifs mark = true ∧
    ∀ c ∈ blanks, isBlankSeparator ifs c = true

/-- Blanks stand between the last character of a text that is no separator, and one mark behind
it. -/
def EndsApart (ifs text : List Char) : Prop :=
  ∃ front last gap mark blanks, text = front ++ last :: (gap ++ mark :: blanks) ∧
    isPlain ifs last = true ∧ gap ≠ [] ∧ (∀ c ∈ gap, isBlankSeparator ifs c = true) ∧
    isMark ifs mark = true ∧ ∀ c ∈ blanks, isBlankSeparator ifs c = true

/-- Behind its blanks, the reverse of a text begins with the last character that is none. -/
theorem dropBlanks_reverse {front : List Char} {c : Char} {blanks : List Char}
    (other : isBlankSeparator ifs c = false) (blank : ∀ c ∈ blanks, isBlankSeparator ifs c = true) :
    dropBlanks ifs (front ++ c :: blanks).reverse = c :: front.reverse := by
  rw [List.reverse_append, List.reverse_cons, List.append_assoc, List.singleton_append,
    dropBlanks_append (fun d member => blank d (List.mem_reverse.mp member)),
    dropBlanks_cons (by simp [other])]

/-- A text has one last character that is no blank. -/
theorem eq_of_last_eq {front front' : List Char} {c c' : Char} {blanks blanks' : List Char}
    (same : front ++ c :: blanks = front' ++ c' :: blanks')
    (other : isBlankSeparator ifs c = false) (blank : ∀ c ∈ blanks, isBlankSeparator ifs c = true)
    (other' : isBlankSeparator ifs c' = false)
    (blank' : ∀ c ∈ blanks', isBlankSeparator ifs c = true) :
    front = front' ∧ c = c' ∧ blanks = blanks' := by
  have reversed : c :: front.reverse = c' :: front'.reverse := by
    rw [← dropBlanks_reverse other blank, same, dropBlanks_reverse other' blank']
  obtain ⟨rfl, fronts⟩ := List.cons.inj reversed
  obtain rfl := List.reverse_inj.mp fronts
  exact ⟨rfl, rfl, List.tail_eq_of_cons_eq (List.append_cancel_left same)⟩

/-- A text that ends in a mark ends apart if blanks stand in front of the mark, and something that
is no separator in front of them. -/
theorem endsApart_append_mark {front : List Char} {mark : Char} {blanks : List Char}
    (isMark : isMark ifs mark = true) (blank : ∀ c ∈ blanks, isBlankSeparator ifs c = true) :
    EndsApart ifs (front ++ mark :: blanks) ↔
      ∃ first last gap, front = first ++ last :: gap ∧ isPlain ifs last = true ∧ gap ≠ [] ∧
        ∀ c ∈ gap, isBlankSeparator ifs c = true := by
  constructor
  · rintro ⟨first, last, gap, mark', tail, text, plain, nonempty, gapBlank, isMark', tailBlank⟩
    have same : front ++ mark :: blanks = (first ++ last :: gap) ++ mark' :: tail := by simp [text]
    obtain ⟨rfl, -⟩ := eq_of_last_eq same (isBlankSeparator_of_mark isMark) blank
      (isBlankSeparator_of_mark isMark') tailBlank
    exact ⟨first, last, gap, rfl, plain, nonempty, gapBlank⟩
  · rintro ⟨first, last, gap, rfl, plain, nonempty, gapBlank⟩
    exact ⟨first, last, gap, mark, blanks, by simp, plain, nonempty, gapBlank, isMark, blank⟩

/-- A text that ends in a field does not end in a mark. -/
theorem not_endsApart_append_plain {front : List Char} {c : Char} {blanks : List Char}
    (plain : isPlain ifs c = true) (blank : ∀ c ∈ blanks, isBlankSeparator ifs c = true) :
    ¬ EndsApart ifs (front ++ c :: blanks) := by
  rintro ⟨first, last, gap, mark, tail, text, -, -, -, isMark, tailBlank⟩
  have same : front ++ c :: blanks = (first ++ last :: gap) ++ mark :: tail := by simp [text]
  obtain ⟨-, rfl, -⟩ := eq_of_last_eq same (isBlankSeparator_of_plain plain) blank
    (isBlankSeparator_of_mark isMark) tailBlank
  simp [isMark_of_plain plain] at isMark

/-- The blanks in front of a division's mark. -/
def Division.gap (division : Division ifs) : List Char :=
  if division.mark.isSome then division.before else []

theorem Division.gap_of_unmarked {division : Division ifs} (unmarked : division.mark = none) :
    division.gap = [] := by
  simp [gap, unmarked]

theorem Division.gap_of_marked {division : Division ifs} {mark : Char}
    (marked : division.mark = some mark) : division.gap = division.before := by
  simp [gap, marked]

/-- Behind a word, a text ends apart where its division has blanks in front of a mark. -/
theorem endsApart_behind_word {front : List Char} {last : Char} (plain : isPlain ifs last = true)
    (division : Division ifs) :
    EndsApart ifs (front ++ last :: division.text) ↔ division.gap ≠ [] := by
  cases marked : division.mark with
  | none =>
    rw [division.text_of_unmarked marked, division.gap_of_unmarked marked]
    exact iff_of_false (not_endsApart_append_plain plain division.blank_before)
      fun spaced => spaced rfl
  | some mark =>
    rw [division.text_of_marked marked, division.gap_of_marked marked, ← List.cons_append,
      ← List.append_assoc,
      endsApart_append_mark (division.isMark_mark mark marked) division.blank_after]
    constructor
    · rintro ⟨first, other, gap, same, plain', nonempty, gapBlank⟩
      obtain ⟨-, -, rfl⟩ := eq_of_last_eq same (isBlankSeparator_of_plain plain)
        division.blank_before (isBlankSeparator_of_plain plain') gapBlank
      exact nonempty
    · intro spaced
      exact ⟨front, last, division.before, rfl, plain, spaced, division.blank_before⟩

/-- Behind blanks or a mark, a mark stands apart from no field. -/
theorem not_endsApart_behind_mark {front blanks : List Char} {mark : Char}
    (isMark : isMark ifs mark = true) (blank : ∀ c ∈ blanks, isBlankSeparator ifs c = true)
    (behind : (∀ c ∈ front, isBlankSeparator ifs c = true) ∨ EndsInMark ifs front) :
    ¬ EndsApart ifs (front ++ mark :: blanks) := by
  rw [endsApart_append_mark isMark blank]
  rintro ⟨first, last, gap, rfl, plain, -, gapBlank⟩
  have other := isBlankSeparator_of_plain plain
  rcases behind with blanks | ⟨front, mark, tail, same, isMark, tailBlank⟩
  · simp [blanks last (by simp)] at other
  · have mark := isBlankSeparator_of_mark isMark
    obtain ⟨-, rfl, -⟩ := eq_of_last_eq same other gapBlank mark tailBlank
    simp [isMark_of_plain plain] at isMark

namespace Reading

variable {how : Reading} {offset start : Nat} {text word : List Char} {fields : Fields}

/-- A text ends in its last word and a division. In front of an empty one there is nothing, or a
mark. -/
theorem Laid.exists_last (laid : how.Laid offset text fields)
    (last : fields.words.getLast? = some word) :
    ∃ (front slice : List Char) (division : Division how.ifs),
      text = front ++ (slice ++ division.text) ∧
        fields.starts.getLast? = some (offset + front.length) ∧ how.Spells slice word ∧
        (slice = [] → division.before = [] ∧ division.mark.isSome = true ∧
          (front = [] ∨ EndsInMark how.ifs front)) := by
  induction laid with
  | done => simp at last
  | @field offset slice _ rest fields division spelled marked greedy later inductionHypothesis =>
    cases later with
    | done =>
      obtain rfl := Option.some.inj last
      refine ⟨[], slice, division, by simp, rfl, spelled, fun empty => ?_⟩
      exact ⟨(marked empty).1, (marked empty).2, .inl rfl⟩
    | field =>
      rw [List.getLast?_cons_cons] at last
      obtain ⟨front, slice', division', same, start, spelled', marked'⟩ := inductionHypothesis last
      rw [same]
      refine ⟨slice ++ (division.text ++ front), slice', division', by simp, ?_, spelled',
        fun empty => ?_⟩
      · rw [List.getLast?_cons_cons, start]
        simp only [List.length_append, Option.some.injEq]
        omega
      obtain ⟨unspaced, isMarked, behind⟩ := marked' empty
      refine ⟨unspaced, isMarked, .inr ?_⟩
      rcases behind with rfl | ⟨first, mark, blanks, rfl, isMark, blank⟩
      · -- A mark right behind this division, so it has one of its own.
        obtain ⟨mark', isMark'⟩ := Option.isSome_iff_exists.mp isMarked
        have follows : isMark how.ifs mark' = true := division'.isMark_mark mark' isMark'
        cases marked : division.mark with
        | none =>
          have next : division'.text = mark' :: division'.after := by
            rw [division'.text_of_marked isMark', unspaced, List.nil_append]
          have none := greedy marked mark' (by simp [same, empty, next])
          rw [follows] at none
          contradiction
        | some mark =>
          exact ⟨slice ++ division.before, mark, division.after,
            by simp [division.text_of_marked marked],
            division.isMark_mark mark marked, division.blank_after⟩
      · exact ⟨slice ++ (division.text ++ first), mark, blanks, by simp, isMark, blank⟩

section Raw

variable (raw : how.raw = true)

include raw

theorem dropBlanks_of_raw (text : List Char) :
    how.dropBlanks text = Field.dropBlanks how.ifs text := by
  induction text with
  | nil => rfl
  | cons c rest inductionHypothesis =>
    by_cases blank : isBlankSeparator how.ifs c = true
    · rw [dropBlanks_cons_blank blank, Reading.dropBlanks, if_pos (by simp [blank, raw]),
        inductionHypothesis]
    · rw [dropBlanks_cons blank, Reading.dropBlanks, if_neg (by simp [blank])]

/-- Blanks at the end of a word go. -/
theorem stripEnd_of_plain {word blanks : List Char} (plain : ∀ c ∈ word, isPlain how.ifs c = true)
    (blank : ∀ c ∈ blanks, isBlankSeparator how.ifs c = true) :
    how.stripEnd (word ++ blanks) = word := by
  rw [stripEnd, dropBlanks_of_raw raw]
  rcases List.eq_nil_or_concat word with rfl | ⟨front, c, rfl⟩
  · have gone := dropBlanks_append (fun c member => blank c (List.mem_reverse.mp member)) []
    rw [List.append_nil] at gone
    rw [List.nil_append, gone]
    rfl
  · have last := plain c (by simp)
    rw [List.concat_append, dropBlanks_reverse (isBlankSeparator_of_plain last) blank, dropMark,
      if_neg (by simp [isMark_of_plain last])]
    simp

/-- The only mark of a text goes with the blanks behind it. -/
theorem stripEnd_of_mark {front blanks : List Char} {mark : Char}
    (isMark : isMark how.ifs mark = true) (only : ∀ c ∈ front, Field.isMark how.ifs c = false)
    (blank : ∀ c ∈ blanks, isBlankSeparator how.ifs c = true) :
    how.stripEnd (front ++ mark :: blanks) = front := by
  have none : front.reverse.any (Field.isMark how.ifs) = false :=
    List.any_eq_false.mpr fun c member => by simp [only c (List.mem_reverse.mp member)]
  rw [stripEnd, dropBlanks_of_raw raw, dropBlanks_reverse (isBlankSeparator_of_mark isMark) blank,
    dropMark, if_pos (by simp [isMark, raw, none]), List.reverse_reverse]

/-- Of a word and the division behind it the word stays, and blanks in front of a mark. -/
theorem stripEnd_append {word : List Char} (plain : ∀ c ∈ word, isPlain how.ifs c = true)
    (division : Division how.ifs) :
    how.stripEnd (word ++ division.text) = word ++ division.gap := by
  cases marked : division.mark with
  | none =>
    rw [division.text_of_unmarked marked, division.gap_of_unmarked marked, List.append_nil]
    exact stripEnd_of_plain raw plain division.blank_before
  | some mark =>
    have only : ∀ c ∈ word ++ division.before, isMark how.ifs c = false := fun c member => by
      rcases List.mem_append.mp member with inside | blank
      · exact isMark_of_plain (plain c inside)
      · exact isMark_eq_false_of_isBlankSeparator (division.blank_before c blank)
    rw [division.text_of_marked marked, division.gap_of_marked marked, ← List.append_assoc]
    exact stripEnd_of_mark raw (division.isMark_mark mark marked) only division.blank_after

end Raw

/-- Where a backslash is an ordinary character, the rest of a line from its last word on is that
word when it is stripped, unless the line ends in a mark with blanks between the word and it. -/
theorem stripEnd_last_iff {line : List Char} (raw : how.raw = true)
    (last : (how.fields none line).words.getLast? = some word) :
    ∃ start, (how.fields none line).starts.getLast? = some start ∧
      (how.stripEnd (line.drop start) = word ↔ ¬ EndsApart how.ifs line) := by
  obtain ⟨blanks, text, rfl, blank, laid⟩ := how.laid_fields line
  obtain ⟨front, slice, division, rfl, start, spelled, empty⟩ := laid.exists_last last
  obtain ⟨rfl, plain⟩ := spelled.eq_of_raw raw
  refine ⟨_, start, ?_⟩
  have here : 0 + blanks.length + front.length = (blanks ++ front).length := by
    rw [List.length_append, Nat.zero_add]
  rw [← List.append_assoc, here, List.drop_left, stripEnd_append raw plain,
    List.append_right_eq_self]
  rcases List.eq_nil_or_concat slice with none | ⟨chars, c, word⟩
  · obtain ⟨unspaced, marked, behind⟩ := empty none
    obtain ⟨mark, marked⟩ := Option.isSome_iff_exists.mp marked
    have text : division.text = mark :: division.after := by
      rw [division.text_of_marked marked, unspaced, List.nil_append]
    rw [none, List.nil_append, text, division.gap_of_marked marked]
    refine iff_of_true unspaced
      (not_endsApart_behind_mark (division.isMark_mark mark marked) division.blank_after ?_)
    rcases behind with rfl | ⟨first, mark, tail, rfl, isMark, tailBlank⟩
    · exact .inl (by simpa using blank)
    · exact .inr ⟨blanks ++ first, mark, tail, by simp, isMark, tailBlank⟩
  · have text : blanks ++ front ++ (slice ++ division.text) =
        (blanks ++ front ++ chars) ++ c :: division.text := by simp [word]
    rw [text, endsApart_behind_word (plain c (by simp [word])), not_ne_iff]

/-- The blanks of this line stand behind its last mark, and in front of an earlier one. -/
def closedLine : List Char := "a : b: ".toList

theorem closedLine_reads_back :
    let how : Reading := ⟨[' ', ':'], true⟩
    how.raw = true ∧ (how.fields none closedLine).words.getLast? = some ['b'] ∧
      (how.fields none closedLine).starts.getLast? = some 4 ∧
      how.stripEnd (closedLine.drop 4) = ['b'] ∧ ¬ EndsApart how.ifs closedLine := by
  have last : ((Reading.mk [' ', ':'] true).fields none closedLine).words.getLast? =
      some ['b'] := by
    decide
  have starts : ((Reading.mk [' ', ':'] true).fields none closedLine).starts.getLast? = some 4 := by
    decide
  have stripped : (Reading.mk [' ', ':'] true).stripEnd (closedLine.drop 4) = ['b'] := by decide
  obtain ⟨start, found, back⟩ := stripEnd_last_iff rfl last
  obtain rfl : 4 = start := Option.some.inj (starts.symm.trans found)
  exact ⟨rfl, last, starts, stripped, back.mp stripped⟩

/-- A blank stands in front of the mark that ends this line. -/
def spacedLine : List Char := "a :".toList

/-- The stripped line keeps a blank that its only word does not have. -/
theorem spacedLine_keeps_blank :
    let how : Reading := ⟨[' ', ':'], true⟩
    how.fields none spacedLine = ⟨[['a']], [0]⟩ ∧
      how.stripEnd (spacedLine.drop 0) = ['a', ' '] ∧
      ¬ ∀ word start, (how.fields none spacedLine).words.getLast? = some word →
        (how.fields none spacedLine).starts.getLast? = some start →
          how.stripEnd (spacedLine.drop start) = word := by
  refine ⟨by decide, by decide, fun stripped => ?_⟩
  exact absurd (stripped ['a'] 0 (by decide) (by decide)) (by decide)

end Reading

end Shell.Field
