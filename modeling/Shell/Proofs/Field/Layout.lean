import Shell.Field.Read
import Shell.Proofs.Field.Grammar

/-!
# Where the fields of a line stand

A line that is read is laid out as blanks, and then fields with a division behind each.
Each field begins where the one before it and its division end, and takes up at least
one character with its division. Where a backslash is an ordinary character, a word is
written as it is read. A limit on the number of fields cuts the rest off, and changes
nothing before.
-/

namespace Shell.Field

/-- What divides a field from the next: blanks, at most one mark, and blanks behind the mark. -/
structure Division (ifs : List Char) where
  before : List Char
  mark : Option Char
  after : List Char
  blank_before : ∀ c ∈ before, isBlankSeparator ifs c = true
  isMark_mark : ∀ c ∈ mark, isMark ifs c = true
  blank_after : ∀ c ∈ after, isBlankSeparator ifs c = true
  after_of_unmarked : mark = none → after = []

namespace Division

variable {ifs : List Char}

/-- The characters of a division. -/
def text (division : Division ifs) : List Char :=
  division.before ++ (division.mark.toList ++ division.after)

/-- Nothing divides the last field of a line from its end. -/
def empty (ifs : List Char) : Division ifs := ⟨[], none, [], by simp, by simp, by simp, by simp⟩

/-- A mark, and blanks behind it. -/
def ofMark {c : Char} (mark : isMark ifs c = true) {blanks : List Char}
    (blank : ∀ d ∈ blanks, isBlankSeparator ifs d = true) : Division ifs where
  before := []
  mark := some c
  after := blanks
  blank_before := by simp
  isMark_mark := by simpa using mark
  blank_after := blank
  after_of_unmarked := by simp

/-- A blank in front belongs to the division. -/
def cons {c : Char} (blank : isBlankSeparator ifs c = true) (division : Division ifs) :
    Division ifs :=
  { division with
    before := c :: division.before
    blank_before := List.forall_mem_cons.mpr ⟨blank, division.blank_before⟩ }

theorem text_of_unmarked {division : Division ifs} (unmarked : division.mark = none) :
    division.text = division.before := by
  simp [text, unmarked, division.after_of_unmarked unmarked]

theorem text_of_marked {division : Division ifs} {mark : Char}
    (marked : division.mark = some mark) :
    division.text = division.before ++ mark :: division.after := by
  simp [text, marked]

theorem length_text_ofMark {c : Char} (mark : isMark ifs c = true) {blanks : List Char}
    (blank : ∀ d ∈ blanks, isBlankSeparator ifs d = true) :
    (ofMark mark blank).text.length = 1 + blanks.length := by
  simp [text, ofMark, Nat.add_comm]

/-- A division holds nothing but separators. -/
theorem mem_ifs (division : Division ifs) {c : Char} (member : c ∈ division.text) : c ∈ ifs := by
  have separates : isBlankSeparator ifs c = true ∨ isMark ifs c = true := by
    simp only [text, List.mem_append, Option.mem_toList] at member
    rcases member with before | mark | after
    · exact .inl (division.blank_before c before)
    · exact .inr (division.isMark_mark c mark)
    · exact .inl (division.blank_after c after)
  exact List.contains_iff_mem.mp ((contains_iff_blank_or_mark ifs c).mpr separates)

end Division

/-- No field is open here, nor is one closed before another begins. -/
def Position.IsSettled : Position → Prop
  | resumed | gap | divided => True
  | opening | field _ | escaped _ => False

/-- How many words are begun here and not yet added. -/
def Position.pending : Position → Nat
  | field _ | escaped _ => 1
  | opening | resumed | gap | divided => 0

theorem Position.IsSettled.pending_eq {position : Position} (settled : position.IsSettled) :
    position.pending = 0 := by
  cases position with
  | resumed | gap | divided => rfl
  | opening | field | escaped => exact settled.elim

namespace Reading

variable {how : Reading} {offset : Nat} {text rest : List Char} {fields : Fields} {c : Char}

/-- The character takes the meaning from the one after it. Without separators there is none to
take. -/
def protects (how : Reading) (c : Char) : Bool := !how.ifs.isEmpty && how.escapes c

/-- What is written so that a word is read: separators are protected, and nothing at the end of a
line. -/
inductive Spells (how : Reading) : List Char → List Char → Prop
  | nil : Spells how [] []
  | plain {c : Char} {slice word : List Char} : isPlain how.ifs c = true → how.protects c = false →
      Spells how slice word → Spells how (c :: slice) (c :: word)
  | shielded {c d : Char} {slice word : List Char} : how.protects c = true →
      Spells how slice word → Spells how (c :: d :: slice) (d :: word)
  | dangling {c : Char} : how.protects c = true → Spells how [c] []

/-- The text at an offset is fields with a division behind each. An empty field is closed by a mark,
and a division takes a mark that it can have. -/
inductive Laid (how : Reading) : Nat → List Char → Fields → Prop
  | done (offset : Nat) : Laid how offset [] {}
  | field {offset : Nat} {slice word rest : List Char} {fields : Fields}
      (division : Division how.ifs) (spelled : how.Spells slice word)
      (marked : slice = [] → division.before = [] ∧ division.mark.isSome = true)
      (greedy : division.mark = none → ∀ c ∈ rest.head?, isMark how.ifs c = false)
      (later : Laid how (offset + slice.length + division.text.length) rest fields) :
      Laid how offset (slice ++ (division.text ++ rest))
        ⟨word :: fields.words, offset :: fields.starts⟩

/-- Blanks, and then fields. -/
def LaidBehindBlanks (how : Reading) (offset : Nat) (text : List Char) (fields : Fields) : Prop :=
  ∃ blanks rest, text = blanks ++ rest ∧ (∀ c ∈ blanks, isBlankSeparator how.ifs c = true) ∧
    how.Laid (offset + blanks.length) rest fields

/-- A division, and then fields. -/
def LaidBehindDivision (how : Reading) (offset : Nat) (text : List Char)
    (fields : Fields) : Prop :=
  ∃ (division : Division how.ifs) (rest : List Char), text = division.text ++ rest ∧
    (division.mark = none → ∀ c ∈ rest.head?, isMark how.ifs c = false) ∧
    how.Laid (offset + division.text.length) rest fields

/-- The rest of a field that began before, a division, and then fields. -/
def LaidBehindWord (how : Reading) (spells : List Char → List Char → Prop) (chars : List Char)
    (offset : Nat) (text : List Char) (fields : Fields) : Prop :=
  ∃ slice word rest later, spells slice word ∧ text = slice ++ rest ∧
    fields = ⟨(chars.reverse ++ word) :: later.words, later.starts⟩ ∧
    how.LaidBehindDivision (offset + slice.length) rest later

/-- How the text is laid out, where a pass over it stands. -/
def LaidFrom (how : Reading) : Position → Nat → List Char → Fields → Prop
  | .opening | .resumed | .divided => how.LaidBehindBlanks
  | .gap => how.LaidBehindDivision
  | .field chars => how.LaidBehindWord how.Spells chars
  | .escaped chars =>
    how.LaidBehindWord (fun slice word => ∀ c, how.protects c = true → how.Spells (c :: slice) word)
      chars

theorem Laid.behindBlanks (laid : how.Laid offset text fields) :
    how.LaidBehindBlanks offset text fields :=
  ⟨[], text, rfl, by simp, laid⟩

theorem LaidBehindBlanks.blank (blank : isBlankSeparator how.ifs c = true)
    (laid : how.LaidBehindBlanks (offset + 1) rest fields) :
    how.LaidBehindBlanks offset (c :: rest) fields := by
  obtain ⟨blanks, behind, rfl, all, laid⟩ := laid
  refine ⟨c :: blanks, behind, rfl, List.forall_mem_cons.mpr ⟨blank, all⟩, ?_⟩
  rwa [List.length_cons, Nat.add_comm blanks.length, ← Nat.add_assoc]

/-- A mark belongs to the division that it opens. -/
theorem LaidBehindBlanks.mark (mark : isMark how.ifs c = true)
    (laid : how.LaidBehindBlanks (offset + 1) rest fields) :
    how.LaidBehindDivision offset (c :: rest) fields := by
  obtain ⟨blanks, behind, rfl, all, laid⟩ := laid
  refine ⟨.ofMark mark all, behind, rfl, nofun, ?_⟩
  rwa [Division.length_text_ofMark, ← Nat.add_assoc]

/-- A mark where a field could begin closes an empty one. -/
theorem LaidBehindBlanks.emptyField (mark : isMark how.ifs c = true)
    (laid : how.LaidBehindBlanks (offset + 1) rest fields) :
    how.Laid offset (c :: rest) ⟨[] :: fields.words, offset :: fields.starts⟩ := by
  obtain ⟨blanks, behind, rfl, all, laid⟩ := laid
  refine .field (.ofMark mark all) .nil (fun _ => ⟨rfl, rfl⟩) nofun ?_
  rwa [List.length_nil, Nat.add_zero, Division.length_text_ofMark, ← Nat.add_assoc]

theorem LaidBehindDivision.blank (blank : isBlankSeparator how.ifs c = true)
    (laid : how.LaidBehindDivision (offset + 1) rest fields) :
    how.LaidBehindDivision offset (c :: rest) fields := by
  obtain ⟨division, behind, rfl, greedy, laid⟩ := laid
  refine ⟨division.cons blank, behind, rfl, greedy, ?_⟩
  have length : (division.cons blank).text.length = 1 + division.text.length := by
    simp [Division.text, Division.cons]
    omega
  rwa [length, ← Nat.add_assoc]

/-- A field that begins without a mark in front of it. -/
theorem Laid.behindDivision (laid : how.Laid offset text fields)
    (unmarked : ∀ c ∈ text.head?, isMark how.ifs c = false) :
    how.LaidBehindDivision offset text fields :=
  ⟨.empty how.ifs, text, rfl, fun _ => unmarked, laid⟩

/-- What is spelled goes on in front. -/
theorem LaidBehindWord.extend {spells more : List Char → List Char → Prop} {chars : List Char}
    (head : List Char)
    (widens : ∀ slice word, spells slice word → more (c :: slice) (head ++ word))
    (laid : how.LaidBehindWord spells (head.reverse ++ chars) (offset + 1) rest fields) :
    how.LaidBehindWord more chars offset (c :: rest) fields := by
  obtain ⟨slice, word, behind, later, spelled, rfl, rfl, laid⟩ := laid
  refine ⟨c :: slice, head ++ word, behind, later, widens slice word spelled, rfl, ?_, ?_⟩
  · simp
  · rwa [List.length_cons, Nat.add_comm slice.length, ← Nat.add_assoc]

/-- A field that ends where the pass stands. -/
theorem LaidBehindDivision.behindWord {chars : List Char}
    (laid : how.LaidBehindDivision offset text fields) :
    how.LaidBehindWord how.Spells chars offset text
      ⟨chars.reverse :: fields.words, fields.starts⟩ :=
  ⟨[], [], text, fields, .nil, rfl, by simp, laid⟩

/-- A field that begins where the pass stands. -/
theorem LaidBehindWord.laid
    (laid : how.LaidBehindWord (fun slice word => how.Spells slice word ∧ slice ≠ []) []
      offset text fields) : how.Laid offset text ⟨fields.words, offset :: fields.starts⟩ := by
  obtain ⟨slice, word, behind, later, ⟨spelled, nonempty⟩, rfl, rfl, division, rest, rfl, greedy,
    laid⟩ := laid
  exact .field division spelled (fun empty => absurd empty nonempty) greedy laid

/-- Without a limit the pass goes on at every character. -/
theorem exists_step (how : Reading) (offset : Nat) (c : Char) (position : Position) :
    ∃ added next, how.step? false offset c position = some (added, next) := by
  cases position with
  | opening | resumed | gap | divided | field =>
    simp only [step?, Bool.false_eq_true, if_false]
    split_ifs <;> exact ⟨_, _, rfl⟩
  | escaped => exact ⟨_, _, rfl⟩

section Pass

variable (separated : how.ifs.isEmpty = false)

include separated

theorem protects_eq_escapes (c : Char) : how.protects c = how.escapes c := by
  simp [protects, separated]

/-- A character that begins a field is plain, or protects the next one. -/
theorem laid_of_begin (begins : how.escapes c = true ∨ isPlain how.ifs c = true)
    (laid : how.LaidFrom (how.begin c) (offset + 1) rest fields) :
    how.Laid offset (c :: rest) ⟨fields.words, offset :: fields.starts⟩ := by
  unfold begin at laid
  split at laid
  · rename_i escapes
    have protects := (protects_eq_escapes separated c).trans escapes
    exact (LaidBehindWord.extend []
      (fun slice word spells => ⟨spells c protects, List.cons_ne_nil c slice⟩) laid).laid
  · rename_i plain
    have protects := (protects_eq_escapes separated c).trans (Bool.eq_false_iff.mpr plain)
    exact (LaidBehindWord.extend [c]
      (fun slice word spells => ⟨.plain (begins.resolve_left plain) protects spells,
        List.cons_ne_nil c slice⟩) laid).laid

/-- One step over a character goes on where the layout does. -/
theorem laidFrom_of_step {position next : Position} {added : Fields}
    (stepped : how.step? false offset c position = some (added, next))
    (laid : how.LaidFrom next (offset + 1) rest fields) :
    how.LaidFrom position offset (c :: rest) (added ++ fields) := by
  cases position with
  | opening | divided =>
    simp only [step?, Bool.false_eq_true, if_false] at stepped
    split_ifs at stepped with blank mark <;> cases stepped
    · exact LaidBehindBlanks.blank blank laid
    · exact (LaidBehindBlanks.emptyField mark laid).behindBlanks
    · have begins := isPlain_of_neither blank mark
      exact (laid_of_begin separated (.inr begins) laid).behindBlanks
  | resumed =>
    simp only [step?, Bool.false_eq_true, if_false, Bool.and_eq_true, Bool.not_eq_true'] at stepped
    split_ifs at stepped with blank mark <;> cases stepped
    · exact LaidBehindBlanks.blank blank laid
    · exact (LaidBehindBlanks.emptyField mark.1 laid).behindBlanks
    · have begins : how.escapes c = true ∨ isPlain how.ifs c = true := by
        by_cases escapes : how.escapes c = true
        · exact .inl escapes
        · exact .inr (isPlain_of_neither blank fun marks => mark ⟨marks, by simpa using escapes⟩)
      exact (laid_of_begin separated begins laid).behindBlanks
  | gap =>
    simp only [step?, Bool.false_eq_true, if_false] at stepped
    split_ifs at stepped with blank mark <;> cases stepped
    · exact LaidBehindDivision.blank blank laid
    · exact LaidBehindBlanks.mark mark laid
    · have begins := isPlain_of_neither blank mark
      exact (laid_of_begin separated (.inr begins) laid).behindDivision (by simpa using mark)
  | field chars =>
    simp only [step?] at stepped
    split_ifs at stepped with escapes blank mark <;> cases stepped
    · have protects := (protects_eq_escapes separated c).trans escapes
      exact LaidBehindWord.extend [] (fun _ _ spells => spells c protects) laid
    · exact (LaidBehindDivision.blank blank laid).behindWord
    · exact (LaidBehindBlanks.mark mark laid).behindWord
    · have protects := (protects_eq_escapes separated c).trans (Bool.eq_false_iff.mpr escapes)
      have plain := isPlain_of_neither blank mark
      exact LaidBehindWord.extend [c] (fun _ _ spells => .plain plain protects spells) laid
  | escaped chars =>
    cases stepped
    exact LaidBehindWord.extend [c]
      (fun _ _ spells _ protects => .shielded protects spells) laid

/-- The pass finds the fields as the text is laid out, wherever it stands. -/
theorem laidFrom_fieldsFrom (position : Position) (offset : Nat) (text : List Char) :
    how.LaidFrom position offset text (how.fieldsFrom position none offset text) := by
  induction text generalizing position offset with
  | nil =>
    cases position with
    | opening | resumed | divided => exact ⟨[], [], rfl, by simp, .done _⟩
    | gap => exact ⟨.empty how.ifs, [], rfl, by simp, .done _⟩
    | field chars => exact (Laid.behindDivision (.done _) (by simp)).behindWord
    | escaped chars =>
      refine ⟨[], [], [], {}, fun c protects => .dangling protects, rfl, ?_,
        Laid.behindDivision (.done _) (by simp)⟩
      rw [List.append_nil]
      rfl
  | cons c rest inductionHypothesis =>
    have unlimited : ((none : Option Nat) == some 0) = false := rfl
    obtain ⟨added, next, stepped⟩ := exists_step how offset c position
    rw [fieldsFrom, unlimited, stepped]
    exact laidFrom_of_step separated stepped (inductionHypothesis next (offset + 1))

end Pass

theorem spells_self (word : List Char) (whole : how.ifs = []) : how.Spells word word := by
  induction word with
  | nil => exact .nil
  | cons c rest inductionHypothesis =>
    exact .plain (by simp [isPlain, whole]) (by simp [protects, whole]) inductionHypothesis

/-- A line is blanks, and then its fields. -/
theorem laid_fields (how : Reading) (line : List Char) :
    how.LaidBehindBlanks 0 line (how.fields none line) := by
  unfold fields
  split
  · rename_i whole
    split
    · rename_i empty
      obtain rfl := List.isEmpty_iff.mp empty
      exact (Laid.done 0).behindBlanks
    · rename_i nonempty
      have spelled := spells_self line (List.isEmpty_iff.mp whole)
      have laid : how.Laid 0 (line ++ ((Division.empty how.ifs).text ++ []))
          ⟨[line], [0]⟩ :=
        .field (.empty how.ifs) spelled
          (fun empty => absurd (List.isEmpty_iff.mpr empty) nonempty) (by simp) (.done _)
      simpa [Division.text, Division.empty] using laid.behindBlanks
  · rename_i separated
    exact laidFrom_fieldsFrom (by simpa using separated) .opening 0 line

section Consequences

/-- Each word has an offset. -/
theorem Laid.length_eq (laid : how.Laid offset text fields) :
    fields.words.length = fields.starts.length := by
  induction laid with
  | done => rfl
  | field _ _ _ _ _ inductionHypothesis => exact congrArg (· + 1) inductionHypothesis

/-- Fields begin one behind the other, and inside the text. -/
theorem Laid.starts (laid : how.Laid offset text fields) :
    fields.starts.Pairwise (· < ·) ∧
      ∀ start ∈ fields.starts, offset ≤ start ∧ start < offset + text.length := by
  induction laid with
  | done => simp
  | @field offset slice word rest fields division spelled marked greedy later inductionHypothesis =>
    obtain ⟨ordered, bounded⟩ := inductionHypothesis
    have taken : 0 < slice.length + division.text.length := by
      by_cases empty : slice = []
      · obtain ⟨mark, found⟩ := Option.isSome_iff_exists.mp (marked empty).2
        have inside : mark ∈ division.text := by simp [Division.text_of_marked found]
        exact Nat.add_pos_right _ (List.length_pos_of_mem inside)
      · exact Nat.add_pos_left (List.length_pos_iff.mpr empty) _
    simp only [List.pairwise_cons, List.length_append, List.forall_mem_cons]
    refine ⟨⟨fun start member => ?_, ordered⟩, by omega, fun start member => ?_⟩
    · have bounds := bounded start member
      omega
    · have bounds := bounded start member
      omega

variable (raw : how.raw = true)

include raw

/-- Where a backslash is an ordinary character, words are written as they are read. -/
theorem Spells.eq_of_raw {slice word : List Char} (spelled : how.Spells slice word) :
    slice = word ∧ ∀ c ∈ word, isPlain how.ifs c = true := by
  have unprotected : ∀ c, how.protects c = false := by simp [protects, escapes, raw]
  induction spelled with
  | nil => simp
  | plain plain _ _ inductionHypothesis =>
    obtain ⟨rfl, others⟩ := inductionHypothesis
    exact ⟨rfl, List.forall_mem_cons.mpr ⟨plain, others⟩⟩
  | shielded protects => simp [unprotected] at protects
  | dangling protects => simp [unprotected] at protects

/-- Each word is what the text has at its offset. -/
theorem Laid.exists_append (laid : how.Laid offset text fields) {word : List Char} {start : Nat}
    (member : (word, start) ∈ fields.words.zip fields.starts) :
    ∃ before after, text = before ++ (word ++ after) ∧ start = offset + before.length := by
  induction laid with
  | done => contradiction
  | @field offset slice _ rest fields division spelled _ _ _ inductionHypothesis =>
    obtain ⟨rfl, -⟩ := spelled.eq_of_raw raw
    rw [List.zip_cons_cons] at member
    rcases List.mem_cons.mp member with here | later
    · cases here
      exact ⟨[], _, rfl, rfl⟩
    · obtain ⟨before, after, rfl, start⟩ := inductionHypothesis later
      refine ⟨slice ++ (division.text ++ before), after, by simp, ?_⟩
      rw [start, List.length_append, List.length_append]
      omega

/-- What is in none of the words is a separator. -/
theorem Laid.separates (laid : how.Laid offset text fields) {i : Nat} (found : text[i]? = some c)
    (outside : ∀ word start, (word, start) ∈ fields.words.zip fields.starts →
      ¬ (start ≤ offset + i ∧ offset + i < start + word.length)) :
    c ∈ how.ifs := by
  induction laid generalizing i with
  | done => simp at found
  | @field offset slice word rest fields division spelled _ _ _ inductionHypothesis =>
    obtain ⟨rfl, -⟩ := spelled.eq_of_raw raw
    have notHere := outside slice offset List.mem_cons_self
    have behind : slice.length ≤ i := by omega
    rw [List.getElem?_append_right behind] at found
    by_cases inside : i - slice.length < division.text.length
    · rw [List.getElem?_append_left inside] at found
      exact division.mem_ifs (List.mem_of_getElem? found)
    · rw [List.getElem?_append_right (by omega)] at found
      refine inductionHypothesis found fun word start member => ?_
      have none := outside word start (List.mem_cons_of_mem _ member)
      omega

end Consequences

section Limit

variable {position next : Position} {full : Bool} {added : Fields}

/-- A step adds a word for each offset, begun here or before, unless the word goes on. Where it adds
one, the pass stands behind it. -/
theorem step_balance (stepped : how.step? full offset c position = some (added, next)) :
    added.starts.length + position.pending = added.words.length + next.pending ∧
      (added.words = [] ∧ next.pending ≤ 1 ∨ added.words.length = 1 ∧ next.IsSettled) := by
  have begun : (how.begin c).pending = 1 := by
    unfold begin
    split <;> rfl
  cases position with
  | opening | resumed | gap | divided | field =>
    simp only [step?] at stepped
    split_ifs at stepped <;> cases stepped <;> first
      | exact ⟨rfl, .inl ⟨rfl, Nat.zero_le 1⟩⟩
      | exact ⟨rfl, .inl ⟨rfl, Nat.le_refl 1⟩⟩
      | exact ⟨rfl, .inr ⟨rfl, trivial⟩⟩
      | exact ⟨by rw [begun]; rfl, .inl ⟨rfl, begun.le⟩⟩
  | escaped =>
    cases stepped
    exact ⟨rfl, .inl ⟨rfl, Nat.le_refl 1⟩⟩

/-- Where no field may be added, the pass goes on in a division only. -/
theorem isSettled_of_full (settled : position.IsSettled)
    (stepped : how.step? true offset c position = some (added, next)) :
    added = {} ∧ next.IsSettled := by
  cases position with
  | resumed | gap | divided =>
    simp only [step?, if_true] at stepped
    split_ifs at stepped <;> cases stepped <;> exact ⟨rfl, trivial⟩
  | opening | field | escaped => exact settled.elim

/-- With room for so many words the pass finds the first of those that it finds without a limit. An
offset that was added before counts for the word that is begun. -/
theorem fieldsFrom_some {room : Nat} (settled : room = 0 → position.IsSettled) (offset : Nat)
    (text : List Char) :
    how.fieldsFrom position (some room) offset text =
      ⟨(how.fieldsFrom position none offset text).words.take room,
        (how.fieldsFrom position none offset text).starts.take (room - position.pending)⟩ := by
  induction text generalizing position room offset with
  | nil =>
    cases room with
    | zero =>
      cases position with
      | opening | resumed | gap | divided => rfl
      | field | escaped => exact (settled rfl).elim
    | succ room => cases position <;> simp [fieldsFrom, Position.last]
  | cons c rest inductionHypothesis =>
    cases room with
    | zero =>
      have full : (some 0 == some 0) = true := rfl
      rw [fieldsFrom, full, Nat.zero_sub, List.take_zero, List.take_zero]
      cases stepped : how.step? true offset c position with
      | none => rfl
      | some outcome =>
        obtain ⟨added, next⟩ := outcome
        obtain ⟨rfl, still⟩ := isSettled_of_full (settled rfl) stepped
        have behind := @inductionHypothesis next 0 (fun _ => still) (offset + 1)
        rw [Nat.zero_sub, List.take_zero, List.take_zero] at behind
        exact congrArg (({} : Fields) ++ ·) behind
    | succ room =>
      obtain ⟨added, next, stepped⟩ := exists_step how offset c position
      have unlimited : ((none : Option Nat) == some 0) = false := rfl
      have spacious : (some (room + 1) == some 0) = false := rfl
      obtain ⟨balance, ends⟩ := step_balance stepped
      have behind : room + 1 - added.words.length = 0 → next.IsSettled := by
        rcases ends with ⟨added, -⟩ | ⟨-, settledNext⟩
        · simp [added]
        · exact fun _ => settledNext
      have short : added.words.length + next.pending ≤ 1 := by
        rcases ends with ⟨added, pending⟩ | ⟨added, settledNext⟩
        · simpa [added] using pending
        · rw [added, settledNext.pending_eq]
      rw [fieldsFrom, fieldsFrom, spacious, unlimited, stepped]
      dsimp only [Option.map_some, Option.map_none]
      rw [inductionHypothesis behind (offset + 1)]
      have words : added.words.take (room + 1) = added.words :=
        List.take_of_length_le (by omega)
      have starts : added.starts.take (room + 1 - position.pending) = added.starts :=
        List.take_of_length_le (by omega)
      have left : room + 1 - added.words.length - next.pending =
          room + 1 - position.pending - added.starts.length := by omega
      rw [Fields.words_append, Fields.starts_append, List.take_append, List.take_append, words,
        starts, left]
      rfl

/-- A limit cuts the fields off that are too many. -/
theorem fields_some {limit : Nat} (positive : 1 ≤ limit) (line : List Char) :
    how.fields (some limit) line =
      ⟨(how.fields none line).words.take limit, (how.fields none line).starts.take limit⟩ := by
  unfold fields
  split
  · split
    · rw [List.take_nil, List.take_nil]
    · rw [List.take_of_length_le positive, List.take_of_length_le positive]
  · exact fieldsFrom_some (by omega) 0 line

end Limit

/-- Words and the offsets at which they begin belong together one by one, the offsets increase, and
they are offsets into the line. Where a backslash is an ordinary character, each word is what the
line has at its offset, and what is in none of them is a separator. With a limit the line has the
first of these words at the same offsets, as many as are allowed. -/
theorem words_stand_at_starts (how : Reading) (text : List Char) :
    let fields := how.fields none text
    fields.words.length = fields.starts.length ∧
      fields.starts.Pairwise (· < ·) ∧
      (∀ start ∈ fields.starts, start < text.length) ∧
      (how.raw = true →
        (∀ word start, (word, start) ∈ fields.words.zip fields.starts →
          (text.drop start).take word.length = word) ∧
        ∀ i c, text[i]? = some c →
          (∀ word start, (word, start) ∈ fields.words.zip fields.starts →
            ¬ (start ≤ i ∧ i < start + word.length)) → c ∈ how.ifs) ∧
      ∀ limit, 1 ≤ limit →
        (how.fields (some limit) text).words = fields.words.take limit ∧
          (how.fields (some limit) text).starts = fields.starts.take limit := by
  obtain ⟨blanks, rest, cut, blank, laid⟩ := how.laid_fields text
  obtain ⟨ordered, bounded⟩ := laid.starts
  refine ⟨laid.length_eq, ordered, fun start member => ?_, fun raw => ⟨?_, ?_⟩, ?_⟩
  · have bounds := bounded start member
    rw [cut, List.length_append]
    omega
  · intro word start member
    obtain ⟨before, after, rfl, begins⟩ := laid.exists_append raw member
    have length : start = (blanks ++ before).length := by
      rw [begins, List.length_append, Nat.zero_add]
    rw [cut, ← List.append_assoc, length, List.drop_left, List.take_left]
  · intro i c found outside
    rw [cut] at found
    by_cases leading : i < blanks.length
    · rw [List.getElem?_append_left leading] at found
      have separator := isPlain_of_blank (blank c (List.mem_of_getElem? found))
      simpa [isPlain] using separator
    · rw [List.getElem?_append_right (by omega)] at found
      refine laid.separates raw found fun word start member => ?_
      have none := outside word start member
      omega
  · intro limit positive
    rw [fields_some positive]
    exact ⟨rfl, rfl⟩

/-- A line with blanks and marks at its edges and side by side. -/
def dividedLine : List Char := " a: :b\\ ::".toList

theorem words_stand_at_starts_edges :
    let how : Reading := ⟨[' ', ':'], true⟩
    how.raw = true ∧ (how.fields none dividedLine).starts = [1, 4, 5, 9] ∧
      (∀ word start, (word, start) ∈ [(['a'], 1), ([], 4), (['b', '\\'], 5), ([], 9)] →
        (dividedLine.drop start).take word.length = word) ∧
      1 ≤ 2 ∧ (how.fields (some 2) dividedLine).words = [['a'], []] := by
  obtain ⟨-, -, -, unescaped, limited⟩ := words_stand_at_starts ⟨[' ', ':'], true⟩ dividedLine
  have fields : (Reading.mk [' ', ':'] true).fields none dividedLine =
      ⟨[['a'], [], ['b', '\\'], []], [1, 4, 5, 9]⟩ := by decide
  refine ⟨rfl, by decide, ?_, by decide, ?_⟩
  · have words := (unescaped rfl).1
    rw [fields] at words
    exact words
  · rw [(limited 2 (by decide)).1]
    decide

end Reading

end Shell.Field
