import Shell.Field.Read
import Shell.Field.Split

/-!
# Lines are divided like results of expansions

The pass over a line that is read keeps the offsets of the fields, may have a limit on
their number, and lets a backslash protect a character. Without a limit, and where
nothing is protected, each of its steps closes the field that the pass over the result
of an expansion closes, and the two go on alike.
-/

namespace Shell.Field

/-- Where the pass over a line stands, offsets and protection left aside. -/
def Position.place : Position → Place
  | opening | resumed | divided => .fresh
  | gap => .gap
  | field chars | escaped chars => .field chars

/-- The pass is not right behind a backslash. -/
def Position.IsExposed : Position → Prop
  | escaped _ => False
  | _ => True

namespace Reading

variable {how : Reading} {position : Position} {c : Char} {line : List Char}

/-- The two passes take the same step: what the one closes and goes on with is what the other
does. -/
def Agrees (how : Reading) (position : Position) (c : Char) (added : Fields)
    (next : Position) : Prop :=
  next.IsExposed ∧ ∀ rest, Field.fieldsFrom how.ifs position.place (c :: rest) =
    added.words ++ Field.fieldsFrom how.ifs next.place rest

/-- A blank closes a field, and else changes nothing. -/
theorem agrees_blank (exposed : position.IsExposed) (unescaped : how.escapes c = false)
    (blank : isBlankSeparator how.ifs c = true) (offset : Nat) :
    ∃ added next, how.step? false offset c position = some (added, next) ∧
      how.Agrees position c added next := by
  cases position with
  | opening =>
    exact ⟨{}, .opening, by simp [step?, blank], trivial,
      fun rest => by simp [Position.place, Field.fieldsFrom, blank]⟩
  | resumed =>
    exact ⟨{}, .resumed, by simp [step?, blank], trivial,
      fun rest => by simp [Position.place, Field.fieldsFrom, blank]⟩
  | gap =>
    exact ⟨{}, .gap, by simp [step?, blank], trivial,
      fun rest => by simp [Position.place, Field.fieldsFrom, blank]⟩
  | divided =>
    exact ⟨{}, .divided, by simp [step?, blank], trivial,
      fun rest => by simp [Position.place, Field.fieldsFrom, blank]⟩
  | field chars =>
    exact ⟨⟨[chars.reverse], []⟩, .gap, by simp [step?, unescaped, blank], trivial,
      fun rest => by simp [Position.place, Field.fieldsFrom, blank]⟩
  | escaped chars => exact exposed.elim

/-- A mark closes a field, which is empty unless the mark belongs to the division already made. -/
theorem agrees_mark (exposed : position.IsExposed) (unescaped : how.escapes c = false)
    (blank : isBlankSeparator how.ifs c = false) (mark : isMark how.ifs c = true) (offset : Nat) :
    ∃ added next, how.step? false offset c position = some (added, next) ∧
      how.Agrees position c added next := by
  cases position with
  | opening =>
    exact ⟨⟨[[]], [offset]⟩, .resumed, by simp [step?, blank, mark], trivial,
      fun rest => by simp [Position.place, Field.fieldsFrom, blank, mark]⟩
  | resumed =>
    exact ⟨⟨[[]], [offset]⟩, .divided, by simp [step?, unescaped, blank, mark], trivial,
      fun rest => by simp [Position.place, Field.fieldsFrom, blank, mark]⟩
  | gap =>
    exact ⟨{}, .divided, by simp [step?, blank, mark], trivial,
      fun rest => by simp [Position.place, Field.fieldsFrom, blank, mark]⟩
  | divided =>
    exact ⟨⟨[[]], [offset]⟩, .divided, by simp [step?, blank, mark], trivial,
      fun rest => by simp [Position.place, Field.fieldsFrom, blank, mark]⟩
  | field chars =>
    exact ⟨⟨[chars.reverse], []⟩, .divided, by simp [step?, unescaped, blank, mark], trivial,
      fun rest => by simp [Position.place, Field.fieldsFrom, blank, mark]⟩
  | escaped chars => exact exposed.elim

/-- Any other character begins a field or goes on with one. -/
theorem agrees_plain (exposed : position.IsExposed) (unescaped : how.escapes c = false)
    (blank : isBlankSeparator how.ifs c = false) (mark : isMark how.ifs c = false) (offset : Nat) :
    ∃ added next, how.step? false offset c position = some (added, next) ∧
      how.Agrees position c added next := by
  have begins : how.begin c = .field [c] := by simp [begin, unescaped]
  cases position with
  | opening | resumed | gap | divided =>
    exact ⟨⟨[], [offset]⟩, .field [c], by simp [step?, begins, blank, mark], trivial,
      fun rest => by simp [Position.place, Field.fieldsFrom, blank, mark]⟩
  | field chars =>
    exact ⟨{}, .field (c :: chars), by simp [step?, unescaped, blank, mark], trivial,
      fun rest => by simp [Position.place, Field.fieldsFrom, blank, mark]⟩
  | escaped chars => exact exposed.elim

/-- A step over a character that protects nothing. -/
theorem exists_agrees (exposed : position.IsExposed) (unescaped : how.escapes c = false)
    (offset : Nat) : ∃ added next, how.step? false offset c position = some (added, next) ∧
      how.Agrees position c added next := by
  cases blank : isBlankSeparator how.ifs c with
  | true => exact agrees_blank exposed unescaped blank offset
  | false =>
    cases mark : isMark how.ifs c with
    | true => exact agrees_mark exposed unescaped blank mark offset
    | false => exact agrees_plain exposed unescaped blank mark offset

/-- Step by step the passes close the same fields, from wherever they stand. -/
theorem words_fieldsFrom (unescaped : ∀ c ∈ line, how.escapes c = false)
    (exposed : position.IsExposed) (offset : Nat) :
    (how.fieldsFrom position none offset line).words =
      Field.fieldsFrom how.ifs position.place line := by
  induction line generalizing position offset with
  | nil => cases position <;> rfl
  | cons c rest inductionHypothesis =>
    have later : ∀ d ∈ rest, how.escapes d = false :=
      fun d member => unescaped d (List.mem_cons_of_mem c member)
    obtain ⟨added, next, stepped, exposedNext, same⟩ :=
      exists_agrees exposed (unescaped c List.mem_cons_self) offset
    have others := inductionHypothesis later exposedNext (offset + 1)
    have unlimited : ((none : Option Nat) == some 0) = false := rfl
    rw [fieldsFrom, unlimited, stepped, same]
    exact congrArg (added.words ++ ·) others

/-- The words of a line are the fields of the same text as the result of an expansion, where a
backslash is an ordinary character, and where none occurs. -/
theorem words_fields_eq_split (how : Reading) (line : List Char)
    (unprotected : how.raw = true ∨ '\\' ∉ line) :
    (how.fields none line).words = split how.ifs line := by
  have unescaped : ∀ c ∈ line, how.escapes c = false := by
    rintro c member
    rcases unprotected with raw | absent
    · simp [escapes, raw]
    · have plain : c ≠ '\\' := fun same => absent (same ▸ member)
      simp [escapes, plain]
  unfold fields split
  split
  · split <;> rfl
  · exact words_fieldsFrom unescaped (show Position.opening.IsExposed from trivial) 0

/-- Marks and blanks at the edges and side by side, and a backslash where it is ordinary. -/
theorem words_fields_edges :
    '\\' ∉ " : a :: b:c : ".toList ∧
      ((Reading.mk [' ', ':'] false).fields none " : a :: b:c : ".toList).words =
        split [' ', ':'] " : a :: b:c : ".toList ∧
      '\\' ∈ ":a\\ :\\: b".toList ∧
      ((Reading.mk [' ', ':'] true).fields none ":a\\ :\\: b".toList).words =
        split [' ', ':'] ":a\\ :\\: b".toList :=
  ⟨by decide, words_fields_eq_split ⟨[' ', ':'], false⟩ _ (.inr (by decide)),
    by decide, words_fields_eq_split ⟨[' ', ':'], true⟩ _ (.inl rfl)⟩

end Reading

end Shell.Field
