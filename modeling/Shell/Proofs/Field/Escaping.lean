import Shell.Proofs.Field.Layout

/-!
# Words that are written to be read back

A backslash in front of each separator and each backslash of a word keeps the word together
when it is read. Words written this way and joined with any one separator are read back as
they were, as long as the last one is not empty: nothing stands behind it that would close it.
-/

namespace Shell.Field

/-- A character with a backslash in front if it would mean something else without. -/
def escapeChar (ifs : List Char) (c : Char) : List Char :=
  if ifs.contains c || c = '\\' then ['\\', c] else [c]

/-- A word with a backslash in front of each separator and each backslash. -/
def escapeWord (ifs word : List Char) : List Char := word.flatMap (escapeChar ifs)

/-- Words written on one line, with a separator between them. -/
def writeLine (ifs : List Char) (separator : Char) (words : List (List Char)) : List Char :=
  [separator].intercalate (words.map (escapeWord ifs))

theorem escapeWord_cons (ifs : List Char) (c : Char) (word : List Char) :
    escapeWord ifs (c :: word) = escapeChar ifs c ++ escapeWord ifs word :=
  List.flatMap_cons

theorem writeLine_cons_cons (ifs : List Char) (separator : Char) (word next : List Char)
    (words : List (List Char)) :
    writeLine ifs separator (word :: next :: words) =
      escapeWord ifs word ++ separator :: writeLine ifs separator (next :: words) := by
  simp [writeLine]

/-- No field is open here. -/
def Position.IsBetween : Position → Prop
  | opening | resumed | gap | divided => True
  | field _ | escaped _ => False

/-- Where a word of a line may begin whose words are divided by a separator. Where a mark would
belong to a division already made, the separator is none. -/
def Position.Awaits (separator : Char) : Position → Prop
  | opening | resumed | divided => True
  | gap => isLayout separator = true
  | field _ | escaped _ => False

theorem Position.Awaits.isBetween {separator : Char} {position : Position}
    (awaits : position.Awaits separator) : position.IsBetween := by
  cases position with
  | opening | resumed | gap | divided => trivial
  | field | escaped => exact awaits

namespace Reading

variable {how : Reading} {position next : Position} {c : Char}

/-- The words of the rest of a line. -/
def wordsFrom (how : Reading) (position : Position) (offset : Nat) (text : List Char) :
    List (List Char) :=
  (how.fieldsFrom position none offset text).words

/-- A step has the words that it adds in front of the rest. -/
theorem wordsFrom_cons {offset : Nat} {rest : List Char} {added : Fields}
    (stepped : how.step? false offset c position = some (added, next)) :
    how.wordsFrom position offset (c :: rest) =
      added.words ++ how.wordsFrom next (offset + 1) rest := by
  have unlimited : ((none : Option Nat) == some 0) = false := rfl
  rw [wordsFrom, fieldsFrom, unlimited, stepped, wordsFrom]
  rfl

/-- A step that adds no word goes on with the rest. -/
theorem wordsFrom_cons_open {offset : Nat} {rest : List Char} {added : Fields}
    (stepped : how.step? false offset c position = some (added, next)) (silent : added.words = []) :
    how.wordsFrom position offset (c :: rest) = how.wordsFrom next (offset + 1) rest := by
  rw [wordsFrom_cons stepped, silent, List.nil_append]

theorem step_escaped (offset : Nat) (chars : List Char) :
    how.step? false offset c (.escaped chars) = some ({}, .field (c :: chars)) := rfl

theorem escapes_of_ne (ordinary : c ≠ '\\') : how.escapes c = false := by
  simp [escapes, ordinary]

/-- Between fields any character begins one that is no separator. -/
theorem step_begin (between : position.IsBetween) (offset : Nat) (plain : c ∉ how.ifs) :
    how.step? false offset c position = some (⟨[], [offset]⟩, how.begin c) := by
  cases position with
  | opening | resumed | gap | divided => simp [step?, isBlankSeparator, isMark, plain]
  | field | escaped => exact between.elim

/-- Inside a field an ordinary character is taken up as it stands. -/
theorem step_field (offset : Nat) (chars : List Char) (plain : c ∉ how.ifs)
    (ordinary : c ≠ '\\') :
    how.step? false offset c (.field chars) = some ({}, .field (c :: chars)) := by
  simp [step?, escapes_of_ne ordinary, isBlankSeparator, isMark, plain]

section Separators

variable {separator : Char} (unescaped : '\\' ∉ how.ifs) (separates : separator ∈ how.ifs)

include unescaped separates

/-- A separator closes the field in front of it. -/
theorem exists_step_separator (offset : Nat) (chars : List Char) :
    ∃ next : Position, next.Awaits separator ∧
      how.step? false offset separator (.field chars) =
        some (⟨[chars.reverse], []⟩, next) := by
  have ordinary : separator ≠ '\\' := fun same => unescaped (same ▸ separates)
  by_cases layout : isLayout separator = true
  · refine ⟨.gap, layout, ?_⟩
    simp [step?, escapes_of_ne ordinary, isBlankSeparator, separates, layout]
  · refine ⟨.divided, trivial, ?_⟩
    simp [step?, escapes_of_ne ordinary, isBlankSeparator, isMark, separates, layout]

/-- A mark closes an empty field where a word may begin. -/
theorem exists_step_mark (awaits : position.Awaits separator) (mark : isLayout separator = false)
    (offset : Nat) :
    ∃ next : Position, next.Awaits separator ∧
      how.step? false offset separator position = some (⟨[[]], [offset]⟩, next) := by
  have ordinary : separator ≠ '\\' := fun same => unescaped (same ▸ separates)
  cases position with
  | opening =>
    exact ⟨.resumed, trivial, by simp [step?, isBlankSeparator, isMark, separates, mark]⟩
  | resumed | divided =>
    refine ⟨.divided, trivial, ?_⟩
    simp [step?, escapes_of_ne ordinary, isBlankSeparator, isMark, separates, mark]
  | gap =>
    rw [Position.Awaits, mark] at awaits
    contradiction
  | field | escaped => exact awaits.elim

end Separators

section Words

variable (cooked : how.raw = false)

include cooked

theorem escapes_backslash : how.escapes '\\' = true := by
  simp [escapes, cooked]

/-- Inside a field a written character is taken up. -/
theorem wordsFrom_field_escapeChar (offset : Nat) (chars : List Char) (c : Char)
    (rest : List Char) :
    how.wordsFrom (.field chars) offset (escapeChar how.ifs c ++ rest) =
      how.wordsFrom (.field (c :: chars)) (offset + (escapeChar how.ifs c).length) rest := by
  unfold escapeChar
  split
  · have slash : how.step? false offset '\\' (.field chars) =
        some ({}, .escaped chars) := by simp [step?, escapes_backslash cooked]
    exact (wordsFrom_cons_open slash rfl).trans (wordsFrom_cons_open (step_escaped _ _) rfl)
  · rename_i ordinary
    simp only [Bool.or_eq_true, List.contains_iff_mem, decide_eq_true_eq, not_or] at ordinary
    exact wordsFrom_cons_open (step_field offset chars ordinary.1 ordinary.2) rfl

/-- Inside a field a written word is taken up character by character. -/
theorem wordsFrom_field_escapeWord (offset : Nat) (chars word rest : List Char) :
    how.wordsFrom (.field chars) offset (escapeWord how.ifs word ++ rest) =
      how.wordsFrom (.field (word.reverse ++ chars))
        (offset + (escapeWord how.ifs word).length) rest := by
  induction word generalizing chars offset with
  | nil => rfl
  | cons c word inductionHypothesis =>
    rw [escapeWord_cons, List.append_assoc, wordsFrom_field_escapeChar cooked,
      inductionHypothesis, List.length_append, ← Nat.add_assoc, List.reverse_cons,
      List.append_assoc, List.singleton_append]

variable (unescaped : '\\' ∉ how.ifs)

include unescaped

/-- Between fields a written character begins one. -/
theorem wordsFrom_begin_escapeChar (between : position.IsBetween) (offset : Nat) (c : Char)
    (rest : List Char) :
    how.wordsFrom position offset (escapeChar how.ifs c ++ rest) =
      how.wordsFrom (.field [c]) (offset + (escapeChar how.ifs c).length) rest := by
  unfold escapeChar
  split
  · have begun : how.begin '\\' = .escaped [] := if_pos (escapes_backslash cooked)
    have slash := step_begin between offset unescaped
    rw [begun] at slash
    exact (wordsFrom_cons_open slash rfl).trans (wordsFrom_cons_open (step_escaped _ _) rfl)
  · rename_i ordinary
    simp only [Bool.or_eq_true, List.contains_iff_mem, decide_eq_true_eq, not_or] at ordinary
    have begun : how.begin c = .field [c] :=
      if_neg (by simp [escapes_of_ne ordinary.2])
    have step := step_begin between offset ordinary.1
    rw [begun] at step
    exact wordsFrom_cons_open step rfl

/-- Between fields a written word begins one, if it has a character. -/
theorem wordsFrom_begin_escapeWord (between : position.IsBetween) (offset : Nat)
    {word : List Char} (nonempty : word ≠ []) (rest : List Char) :
    how.wordsFrom position offset (escapeWord how.ifs word ++ rest) =
      how.wordsFrom (.field word.reverse) (offset + (escapeWord how.ifs word).length)
        rest := by
  obtain ⟨c, word, rfl⟩ := List.exists_cons_of_ne_nil nonempty
  rw [escapeWord_cons, List.append_assoc, wordsFrom_begin_escapeChar cooked unescaped between,
    wordsFrom_field_escapeWord cooked, List.length_append, ← Nat.add_assoc, List.reverse_cons]

variable {separator : Char} (separates : separator ∈ how.ifs)

include separates

/-- A written word and a separator are read as that word. -/
theorem exists_wordsFrom_cons (awaits : position.Awaits separator) (offset : Nat)
    {word : List Char} (closes : isLayout separator = true → word ≠ []) (rest : List Char) :
    ∃ (next : Position) (behind : Nat), next.Awaits separator ∧
      how.wordsFrom position offset (escapeWord how.ifs word ++ separator :: rest) =
        word :: how.wordsFrom next behind rest := by
  by_cases nonempty : word = []
  · subst nonempty
    have mark : isLayout separator = false := Bool.eq_false_iff.mpr fun layout => closes layout rfl
    obtain ⟨next, awaitsNext, stepped⟩ := exists_step_mark unescaped separates awaits mark offset
    exact ⟨next, _, awaitsNext, wordsFrom_cons stepped⟩
  · obtain ⟨next, awaitsNext, stepped⟩ := exists_step_separator unescaped separates
      (offset + (escapeWord how.ifs word).length) word.reverse
    refine ⟨next, offset + (escapeWord how.ifs word).length + 1, awaitsNext, ?_⟩
    rw [wordsFrom_begin_escapeWord cooked unescaped awaits.isBetween offset nonempty,
      wordsFrom_cons stepped, List.reverse_reverse]
    rfl

/-- From where a word may begin, the words of a written line are read back. -/
theorem wordsFrom_writeLine (awaits : position.Awaits separator) (offset : Nat)
    {words : List (List Char)} {last : List Char} (ended : words.getLast? = some last)
    (filled : last ≠ []) (closes : isLayout separator = true → ∀ word ∈ words, word ≠ []) :
    how.wordsFrom position offset (writeLine how.ifs separator words) = words := by
  induction words generalizing position offset with
  | nil => contradiction
  | cons word words inductionHypothesis =>
    cases words with
    | nil =>
      obtain rfl : word = last := by simpa using ended
      have text : writeLine how.ifs separator [word] = escapeWord how.ifs word ++ [] := by
        simp [writeLine]
      rw [text, wordsFrom_begin_escapeWord cooked unescaped awaits.isBetween offset filled]
      simp [wordsFrom, fieldsFrom, Position.last]
    | cons next words =>
      have closesHere := fun layout => (List.forall_mem_cons.mp (closes layout)).1
      have closesLater := fun layout => (List.forall_mem_cons.mp (closes layout)).2
      rw [List.getLast?_cons_cons] at ended
      obtain ⟨behind, later, awaitsBehind, read⟩ :=
        exists_wordsFrom_cons cooked unescaped separates awaits offset closesHere
          (writeLine how.ifs separator (next :: words))
      rw [writeLine_cons_cons, read, inductionHypothesis awaitsBehind later ended closesLater]

end Words

/-- Words are read back from a line on which each separator and each backslash inside them has a
backslash in front, and any one separator stands between them. The last word has to have a
character, and every word if the separator is a blank. -/
theorem words_writeLine {how : Reading} {separator : Char} {words : List (List Char)}
    {last : List Char} (cooked : how.raw = false) (unescaped : '\\' ∉ how.ifs)
    (separates : separator ∈ how.ifs) (ended : words.getLast? = some last) (filled : last ≠ [])
    (closes : isLayout separator = true → ∀ word ∈ words, word ≠ []) :
    (how.fields none (writeLine how.ifs separator words)).words = words := by
  have separated : ¬ how.ifs.isEmpty = true := by
    rw [List.isEmpty_iff]
    exact List.ne_nil_of_mem separates
  have begins : Position.opening.Awaits separator := trivial
  rw [fields, if_neg separated]
  exact wordsFrom_writeLine cooked unescaped separates begins 0 ended filled closes

/-- Words with separators at their edges, an empty one and one that is all backslashes. -/
def awkwardWords : List (List Char) := [[], ":a b ".toList, [], "\\\\".toList, " :".toList]

theorem awkwardWords_are_read_back :
    let how : Reading := ⟨[' ', ':'], false⟩
    how.raw = false ∧ '\\' ∉ how.ifs ∧ ':' ∈ how.ifs ∧ awkwardWords.getLast? = some [' ', ':'] ∧
      [' ', ':'] ≠ [] ∧ isLayout ':' = false ∧
      (how.fields none (writeLine how.ifs ':' awkwardWords)).words = awkwardWords := by
  have ended : awkwardWords.getLast? = some [' ', ':'] := rfl
  exact ⟨rfl, by decide, by decide, ended, by decide, rfl,
    words_writeLine rfl (by decide) (by decide) ended (by decide) (by decide)⟩

end Reading

end Shell.Field
