import Shell.Proofs.Glob.Adjacency
import Shell.Proofs.Glob.CharClass

/-!
# What a bracket expression stands for

A bracket expression lists characters, ranges and named classes. Its text is rewritten as that
of a character set, entry by entry, and the set is the union of the entries. A caret is written
as it is: where the entries before it are names of no class, of which nothing is written, it
comes first in the set and turns the set into its complement.
-/

namespace Shell.Glob

open Regex (Item Part Spelling partsText ofItems)

/-- The character has no meaning in brackets, but perhaps as the first one. -/
abbrev IsEntryChar (c : Char) : Prop := c ≠ '\\' ∧ c ≠ '[' ∧ c ≠ ']' ∧ c ≠ '-'

/-- An entry of a bracket expression. -/
inductive Entry
  /-- A character alone. -/
  | one (c : Char) (plain : IsEntryChar c)
  /-- Two characters, of which the first is no mark of a complement, and all between them. -/
  | range (low high : Char) (lowPlain : IsEntryChar low) (highPlain : IsEntryChar high)
      (unmarked : low ≠ '!' ∧ low ≠ '^') (ascending : low ≤ high)
  /-- The class of a name, or nothing if there is no such class. -/
  | named (name : List Char) (letters : ∀ c ∈ name, c.isAlpha = true)

namespace Entry

def caret : Entry := .one '^' (by decide)

def text : Entry → List Char
  | one c _ => [c]
  | range low high _ _ _ _ => [low, '-', high]
  | named name _ => '[' :: ':' :: (name ++ [':', ']'])

/-- The characters that an entry stands for. -/
def Has : Entry → Char → Prop
  | one c _, d => d = c
  | range low high _ _ _ _, d => low ≤ d ∧ d ≤ high
  | named name _, d => ∃ cls : CharClass, cls.name.toList = name ∧ cls.has d = true

/-- The entry stands for no character. -/
def IsVoid (entry : Entry) : Prop := ∀ c, ¬ entry.Has c

end Entry

/-- A bracket expression with one entry at least. Without the mark of a complement, its text must
not begin with one. -/
structure BracketExpression where
  mark : Option Char
  first : Entry
  others : List Entry
  isMark : ∀ c ∈ mark, c = '!' ∨ c = '^'
  unmarked : mark = none → ∀ c ∈ first.text.head?, c ≠ '!' ∧ c ≠ '^'

/-- The text of several entries. -/
def entriesText (entries : List Entry) : List Char := entries.flatMap Entry.text

namespace BracketExpression

def entries (expression : BracketExpression) : List Entry := expression.first :: expression.others

/-- What stands between the brackets. -/
def content (expression : BracketExpression) : List Char :=
  expression.mark.toList ++ entriesText expression.entries

def text (expression : BracketExpression) : List Char := '[' :: (expression.content ++ [']'])

/-- The characters that a bracket expression stands for: those of its entries, or all others. -/
def Has (expression : BracketExpression) (c : Char) : Prop :=
  if expression.mark.isSome then ¬ ∃ entry ∈ expression.entries, entry.Has c
  else ∃ entry ∈ expression.entries, entry.Has c

/-- A caret follows entries that stand for nothing, and no mark is in front. -/
def LosesCaret (expression : BracketExpression) : Prop :=
  expression.mark = none ∧ ∃ void rest : List Entry,
    expression.entries = void ++ .caret :: rest ∧ ∀ entry ∈ void, entry.IsVoid

end BracketExpression

section Scanning

theorem hasClassEnd_letters (name rest : List Char) :
    hasClassEnd (name ++ ':' :: ']' :: rest) = true := by
  induction name with
  | nil => rfl
  | cons c name inductionHypothesis => exact hasClassEnd_tail inductionHypothesis c

theorem bracketFrom?_letters {name : List Char} (letters : ∀ c ∈ name, c.isAlpha = true)
    (rest : List Char) :
    bracketFrom? true (name ++ ':' :: ']' :: rest) =
      (bracketFrom? false rest).map fun (content, after) =>
        (name ++ ':' :: ']' :: content, after) := by
  induction name with
  | nil => rfl
  | cons c name inductionHypothesis =>
    have apart : c ≠ ':' := by
      rintro rfl
      exact absurd (letters ':' List.mem_cons_self) (by decide)
    rw [List.cons_append, bracketFrom?, inductionHypothesis fun d member =>
      letters d (List.mem_cons_of_mem _ member), Option.map_map]
    · rfl
    · exact fun _ same => absurd same apart

/-- No entry ends a bracket expression. -/
theorem Entry.bracketFrom? (entry : Entry) (rest : List Char) :
    Glob.bracketFrom? false (entry.text ++ rest) =
      (Glob.bracketFrom? false rest).map fun (content, after) =>
        (entry.text ++ content, after) := by
  cases entry with
  | one c plain => exact bracketFrom?_plain ⟨plain.1, plain.2.1, plain.2.2.1⟩ rest
  | range low high lowPlain highPlain =>
    change Glob.bracketFrom? false (low :: '-' :: high :: rest) = _
    rw [bracketFrom?_plain ⟨lowPlain.1, lowPlain.2.1, lowPlain.2.2.1⟩,
      bracketFrom?_plain (by decide),
      bracketFrom?_plain ⟨highPlain.1, highPlain.2.1, highPlain.2.2.1⟩,
      Option.map_map, Option.map_map]
    rfl
  | named name letters =>
    have whole : (named name letters).text ++ rest =
        '[' :: ':' :: (name ++ ':' :: ']' :: rest) := by
      simp [text]
    rw [whole, Glob.bracketFrom?, hasClassEnd_letters, bracketFrom?_letters letters, Option.map_map]
    simp [text, Function.comp_def]

theorem bracketFrom?_entries (entries : List Entry) (rest : List Char) :
    bracketFrom? false (entriesText entries ++ ']' :: rest) = some (entriesText entries, rest) := by
  induction entries with
  | nil => rfl
  | cons entry entries inductionHypothesis =>
    change bracketFrom? false (entry.text ++ entriesText entries ++ ']' :: rest) = _
    rw [List.append_assoc, entry.bracketFrom?, inductionHypothesis]
    rfl

theorem Entry.text_head (entry : Entry) :
    ∃ first tail, entry.text = first :: tail ∧ first ≠ ']' := by
  cases entry with
  | one c plain => exact ⟨c, [], rfl, plain.2.2.1⟩
  | range low high lowPlain => exact ⟨low, ['-', high], rfl, lowPlain.2.2.1⟩
  | named name => exact ⟨'[', _, rfl, by decide⟩

variable (expression : BracketExpression)

theorem leadingMark_content (rest : List Char) :
    leadingMark (expression.mark.toList ++ (entriesText expression.entries ++ rest)) =
      expression.mark.toList := by
  cases marked : expression.mark with
  | some mark =>
    have isMark : isNegationMark mark = true := by
      simpa [isNegationMark] using expression.isMark mark marked
    simp [leadingMark, isMark]
  | none =>
    obtain ⟨first, tail, text, -⟩ := expression.first.text_head
    have ordinary := expression.unmarked marked first (by simp [text])
    simp [leadingMark, isNegationMark, entriesText, BracketExpression.entries, text, ordinary]

/-- What stands between the brackets is found. -/
theorem bracket?_expression (rest : List Char) :
    bracket? (expression.content ++ ']' :: rest) = some (expression.content, rest) := by
  have ordinary : (entriesText expression.entries ++ ']' :: rest).head? ≠ some ']' := by
    obtain ⟨first, tail, text, ordinary⟩ := expression.first.text_head
    simpa [entriesText, BracketExpression.entries, text] using ordinary
  rw [BracketExpression.content, List.append_assoc,
    bracket?_of_head (leadingMark_content expression _) ordinary, bracketFrom?_entries]
  rfl

end Scanning

section Writing

/-- What is written for an entry in a character set. -/
def Entry.members : Entry → List Char
  | one c _ => [c]
  | range low high _ _ _ _ => [low, '-', high]
  | named name _ => namedClass name

def membersText (entries : List Entry) : List Char := entries.flatMap Entry.members

theorem membersFrom_letters {name : List Char} (letters : ∀ c ∈ name, c.isAlpha = true)
    (before rest : List Char) :
    membersFrom (some before) (name ++ ':' :: ']' :: rest) =
      namedClass (before.reverse ++ name) ++ membersFrom none rest := by
  induction name generalizing before with
  | nil => simp [membersFrom]
  | cons c name inductionHypothesis =>
    have apart : c ≠ ':' := by
      rintro rfl
      exact absurd (letters ':' List.mem_cons_self) (by decide)
    rw [List.cons_append, membersFrom, inductionHypothesis fun d member =>
      letters d (List.mem_cons_of_mem _ member)]
    · simp
    · exact fun _ same => absurd same apart

theorem membersFrom_entry (entry : Entry) (rest : List Char) :
    membersFrom none (entry.text ++ rest) = entry.members ++ membersFrom none rest := by
  cases entry with
  | one c plain => exact membersFrom_plain ⟨plain.1, plain.2.1, plain.2.2.1⟩ rest
  | range low high lowPlain highPlain =>
    change membersFrom none (low :: '-' :: high :: rest) = _
    rw [membersFrom_plain ⟨lowPlain.1, lowPlain.2.1, lowPlain.2.2.1⟩,
      membersFrom_plain (by decide),
      membersFrom_plain ⟨highPlain.1, highPlain.2.1, highPlain.2.2.1⟩]
    rfl
  | named name letters =>
    have whole : (Entry.named name letters).text ++ rest =
        '[' :: ':' :: (name ++ ':' :: ']' :: rest) := by simp [Entry.text]
    rw [whole, membersFrom, if_pos (hasClassEnd_letters name rest), membersFrom_letters letters]
    rfl

/-- A character set is written entry by entry. -/
theorem membersFrom_entries (entries : List Entry) :
    membersFrom none (entriesText entries) = membersText entries := by
  induction entries with
  | nil => rfl
  | cons entry entries inductionHypothesis =>
    change membersFrom none (entry.text ++ entriesText entries) = _
    rw [membersFrom_entry, inductionHypothesis]
    rfl

/-- What is written for an entry is the members that the entry stands for. -/
theorem Entry.exists_parts (entry : Entry) : ∃ parts : List Part, entry.members = partsText parts ∧
    ∀ c, (∃ part ∈ parts, part.item.has c = true) ↔ entry.Has c := by
  cases entry with
  | one c plain =>
    refine ⟨[.one (.ofChar c ⟨plain.1, plain.2.2⟩)], rfl, fun d => ?_⟩
    simp [Part.item, Item.has, Spelling.ofChar, Has, Char.toNat_inj]
  | range low high lowPlain highPlain unmarked ascending =>
    refine ⟨[.range (.ofChar low ⟨lowPlain.1, lowPlain.2.2⟩)
      (.ofChar high ⟨highPlain.1, highPlain.2.2⟩) ascending], rfl, fun d => ?_⟩
    simp [Part.item, Item.has, Spelling.ofChar, Has, CharClass.le_iff_toNat]
  | named name letters =>
    rcases CharClass.namedClass_cases name with ⟨cls, rfl, text⟩ | ⟨text, unknown⟩
    · refine ⟨cls.parts, text, fun c => ?_⟩
      rw [cls.has_parts_iff]
      constructor
      · exact fun inside => ⟨cls, rfl, inside⟩
      · rintro ⟨other, same, inside⟩
        rwa [← CharClass.name_injective (String.toList_inj.mp same)]
    · refine ⟨[], text, fun c => ?_⟩
      simp only [List.not_mem_nil, false_and, exists_false, false_iff]
      rintro ⟨cls, same, -⟩
      exact unknown cls same

theorem exists_parts (entries : List Entry) : ∃ parts : List Part,
    membersText entries = partsText parts ∧
      ∀ c, (∃ part ∈ parts, part.item.has c = true) ↔ ∃ entry ∈ entries, entry.Has c := by
  induction entries with
  | nil => exact ⟨[], rfl, by simp⟩
  | cons entry entries inductionHypothesis =>
    obtain ⟨first, text, has⟩ := entry.exists_parts
    obtain ⟨others, othersText, othersHave⟩ := inductionHypothesis
    refine ⟨first ++ others, ?_, fun c => ?_⟩
    · rw [Regex.partsText_append, ← text, ← othersText]
      rfl
    · simp [or_and_right, exists_or, has, othersHave]

/-- Nothing is written for an entry exactly if it stands for no character. -/
theorem Entry.members_eq_nil_iff (entry : Entry) : entry.members = [] ↔ entry.IsVoid := by
  cases entry with
  | one c plain => exact iff_of_false (List.cons_ne_nil _ _) fun void => void c rfl
  | range low high lowPlain highPlain unmarked ascending =>
    exact iff_of_false (List.cons_ne_nil _ _) fun void => void low ⟨Char.le_refl low, ascending⟩
  | named name letters =>
    rcases CharClass.namedClass_cases name with ⟨cls, rfl, text⟩ | ⟨text, unknown⟩
    · obtain ⟨c, inside⟩ := cls.exists_has
      refine iff_of_false ?_ fun void => void c ⟨cls, rfl, inside⟩
      rw [members, text, Regex.partsText_eq_nil_iff]
      exact cls.parts_ne_nil
    · refine iff_of_true text ?_
      rintro c ⟨cls, same, -⟩
      exact unknown cls same

theorem membersText_eq_nil_iff {entries : List Entry} :
    membersText entries = [] ↔ ∀ entry ∈ entries, entry.IsVoid := by
  simp [membersText, Entry.members_eq_nil_iff]

/-- Only a caret is written as what begins with one. -/
theorem Entry.eq_caret_of_head {entry : Entry} (head : entry.members.head? = some '^') :
    entry = caret := by
  cases entry with
  | one c plain =>
    obtain rfl : c = '^' := by simpa [members] using head
    rfl
  | range low high _ _ unmarked =>
    obtain rfl : low = '^' := by simpa [members] using head
    exact absurd rfl unmarked.2
  | named name =>
    rcases CharClass.namedClass_cases name with ⟨cls, rfl, text⟩ | ⟨text, -⟩ <;>
      rw [members, text] at head
    · exact absurd head cls.partsText_parts_head
    · contradiction

/-- What is written begins with a caret exactly if one follows entries that stand for nothing. -/
theorem membersText_head_iff {entries : List Entry} :
    (membersText entries).head? = some '^' ↔ ∃ void rest : List Entry,
      entries = void ++ .caret :: rest ∧ ∀ entry ∈ void, entry.IsVoid := by
  constructor
  · intro head
    induction entries with
    | nil => contradiction
    | cons entry entries inductionHypothesis =>
      rw [membersText, List.flatMap_cons, List.head?_append] at head
      by_cases void : entry.IsVoid
      · rw [entry.members_eq_nil_iff.mpr void] at head
        obtain ⟨before, rest, rfl, voids⟩ := inductionHypothesis head
        exact ⟨entry :: before, rest, rfl, List.forall_mem_cons.mpr ⟨void, voids⟩⟩
      · obtain ⟨first, tail, text⟩ :=
          List.exists_cons_of_ne_nil (mt entry.members_eq_nil_iff.mp void)
        have first : entry.members.head? = some '^' := by simpa [text] using head
        obtain rfl := Entry.eq_caret_of_head first
        exact ⟨[], entries, rfl, by simp⟩
  · rintro ⟨void, rest, rfl, voids⟩
    rw [membersText, List.flatMap_append, ← membersText, membersText_eq_nil_iff.mpr voids]
    rfl

variable (expression : BracketExpression)

theorem pieces_expression (extended : Bool) :
    pieces extended expression.text = [.bracket expression.content] := by
  have plain : plainPiece '[' (expression.content ++ [']']) = .bracket expression.content := by
    rw [plainPiece, bracket?_expression]
  have head : headPiece extended '[' (expression.content ++ [']']) =
      .bracket expression.content := by
    cases extended with
    | false => exact plain
    | true =>
      have single : group? '[' (expression.content ++ [']']) = none := rfl
      rw [headPiece, if_pos rfl, single, Option.getD_none, plain]
  have size : (Piece.bracket expression.content).source.length - 1 =
      (expression.content ++ [']']).length := rfl
  rw [BracketExpression.text, pieces_cons, head, size, List.drop_length, pieces_nil]

/-- The text of a bracket expression for regular expressions. -/
theorem written_expression : written expression.text =
    if membersText expression.entries = [] then
      if expression.mark.isSome then ['.'] else ['(', '?', '!', ')']
    else '[' :: ((if expression.mark.isSome then ['^'] else []) ++
      (membersText expression.entries ++ [']'])) := by
  have marked : leadingMark expression.content = expression.mark.toList := by
    simpa [BracketExpression.content] using leadingMark_content expression []
  have written : written expression.text = bracketText expression.content := by
    rw [Glob.written, pieces_expression]
    exact List.append_nil _
  rw [written, bracketText, marked]
  simp only [BracketExpression.content, List.drop_left, membersFrom_entries]
  cases expression.mark <;> cases membersText expression.entries <;> rfl

/-- A bracket expression is no group, so it does not matter whether groups are looked for. -/
theorem accepts_expression (extended : Bool) (text : List Char) :
    accepts ⟨extended, false⟩ expression.text text =
      accepts ⟨false, false⟩ expression.text text := by
  cases extended with
  | false => rfl
  | true =>
    have same : regexText true expression.text = regexText false expression.text := by
      simp only [regexText, nesting, bodyText, pieces_expression, List.flatMap_cons,
        List.flatMap_nil, Piece.regexText]
    have ungrouped : negation? [.bracket expression.content] = none := rfl
    have plain : compile? ⟨true, false⟩ expression.text =
        Matcher.plain? ⟨true, false⟩ expression.text := by
      rw [compile?, nesting, compileWithin?, if_pos rfl, pieces_expression, ungrouped]
    have compiled : compile? ⟨false, false⟩ expression.text =
        Matcher.plain? ⟨false, false⟩ expression.text := rfl
    rw [accepts, accepts, plain, compiled, Matcher.plain?, Matcher.plain?, same]

end Writing

section Matching

variable {pattern text : List Char}

/-- A pattern whose expression is one part matches what that part recognises. -/
theorem accepts_iff_of_readsPart {tokens : List Regex.Token} {part : Regex}
    {language : Language Char} (reads : ReadsPart (written pattern) tokens part language) :
    accepts ⟨false, false⟩ pattern text = true ↔ text ∈ language := by
  have empty : Reads [] [] [] 1 := ⟨fun _ => .done, fun _ _ _ => rfl, Regex.recognizes_empty⟩
  have whole := Reads.cons reads .nil empty
  rw [List.append_nil, mul_one] at whole
  have same : written pattern = written pattern ++ [].flatMap literalText := by simp
  rw [accepts_iff_of_reads whole same]
  simp

/-- A pattern that is written as a set matches the single characters of its members, or all others.
-/
theorem accepts_iff_of_set {parts : List Part} (nonempty : parts ≠ []) {negated : Bool}
    (unmarked : negated = false → (partsText parts).head? ≠ some '^')
    (same : written pattern =
      '[' :: ((if negated then ['^'] else []) ++ (partsText parts ++ [']']))) :
    accepts ⟨false, false⟩ pattern text = true ↔
      ∃ c, ((∃ part ∈ parts, part.item.has c = true) ↔ negated = false) ∧ text = [c] := by
  have read : ∀ other, Regex.bracket? (((if negated then ['^'] else []) ++ partsText parts) ++
      ']' :: other) = some (ofItems negated (parts.map Part.item).eraseDups, other) := by
    intro other
    rw [List.append_assoc]
    exact Regex.bracket?_parts nonempty unmarked other
  have reads := readsPart_set read
  rw [List.append_assoc, ← same] at reads
  rw [accepts_iff_of_readsPart reads]
  refine exists_congr fun c => and_congr_left fun _ => ?_
  rw [found_eraseDups]
  have found : Regex.CharSet.found false (parts.map Part.item) c = true ↔
      ∃ part ∈ parts, part.item.has c = true := by
    simp [Regex.CharSet.found]
  rw [← found]
  cases negated <;> simp

namespace BracketExpression

variable (expression : BracketExpression)

theorem has_iff (c : Char) : expression.Has c ↔
    ((∃ entry ∈ expression.entries, entry.Has c) ↔ expression.mark.isSome = false) := by
  unfold Has
  cases expression.mark <;> simp

theorem head_ne_caret {parts : List Part} (kept : ¬ expression.LosesCaret)
    (written : membersText expression.entries = partsText parts)
    (unmarked : expression.mark.isSome = false) : (partsText parts).head? ≠ some '^' := by
  rw [← written, Ne, membersText_head_iff]
  exact fun lost => kept ⟨by simpa using unmarked, lost⟩

/-- What is written without a misplaced caret is matched as it should be. -/
theorem accepts_iff_of_kept (kept : ¬ expression.LosesCaret) :
    accepts ⟨false, false⟩ expression.text text = true ↔ ∃ c, expression.Has c ∧ text = [c] := by
  have written := written_expression expression
  by_cases void : membersText expression.entries = []
  · have none : ∀ c, ¬ ∃ entry ∈ expression.entries, entry.Has c := by
      rintro c ⟨entry, member, inside⟩
      exact membersText_eq_nil_iff.mp void entry member c inside
    rw [if_pos void] at written
    simp only [has_iff, none, false_iff]
    cases marked : expression.mark with
    | none =>
      have reads := readsPart_nothing
      rw [marked, if_neg (by decide)] at written
      rw [← written] at reads
      rw [accepts_iff_of_readsPart reads]
      simp
    | some mark =>
      have reads := readsPart_anyChar
      rw [marked, if_pos Option.isSome_some] at written
      rw [← written] at reads
      rw [accepts_iff_of_readsPart reads, Atom.language]
      simp only [Option.isSome_some, Bool.true_eq_false, not_false_eq_true, true_and]
      rfl
  · obtain ⟨parts, listed, has⟩ := exists_parts expression.entries
    rw [if_neg void, listed] at written
    have nonempty : parts ≠ [] := by
      rintro rfl
      exact void listed
    rw [accepts_iff_of_set nonempty (expression.head_ne_caret kept listed) written]
    simp only [has_iff, has]

/-- A caret that comes first in what is written excludes what comes after it, or leaves no set. -/
theorem exists_not_accepted (lost : expression.LosesCaret) :
    ∃ c, expression.Has c ∧ accepts ⟨false, false⟩ expression.text [c] = false := by
  obtain ⟨unmarked, void, rest, entries, voids⟩ := lost
  have has : ∀ c, expression.Has c ↔ ∃ entry ∈ expression.entries, entry.Has c := by
    simp [has_iff, unmarked]
  have listed : membersText expression.entries = '^' :: membersText rest := by
    rw [entries, membersText, List.flatMap_append, ← membersText, membersText_eq_nil_iff.mpr voids]
    rfl
  have written := written_expression expression
  rw [if_neg (by simp [listed]), listed, unmarked] at written
  by_cases alone : membersText rest = []
  · refine ⟨'^', (has '^').mpr ⟨.caret, by simp [entries], rfl⟩, ?_⟩
    rw [alone] at written
    have parsed : Regex.parse? (regexText false expression.text) = none := by
      rw [regexText_false, written]
      decide
    have compiled : compile? ⟨false, false⟩ expression.text = none := by
      change Matcher.plain? ⟨false, false⟩ expression.text = _
      rw [Matcher.plain?, parsed]
      rfl
    have spelled : unprotect expression.text = '[' :: unprotect (expression.content ++ [']']) :=
      unprotect_cons (by decide) _
    rw [accepts, compiled]
    simp [spelled]
  · obtain ⟨parts, text, inside⟩ := exists_parts rest
    rw [text] at written alone
    have nonempty : parts ≠ [] := by
      rintro rfl
      exact alone rfl
    have some : ∃ entry ∈ rest, ∃ c, entry.Has c := by
      by_contra none
      refine alone ?_
      rw [← text, membersText_eq_nil_iff]
      exact fun entry member c has => none ⟨entry, member, c, has⟩
    obtain ⟨entry, member, c, inEntry⟩ := some
    refine ⟨c, (has c).mpr ⟨entry, by simp [entries, member], inEntry⟩, ?_⟩
    rw [Bool.eq_false_iff]
    intro accepted
    have matched := @accepts_iff_of_set expression.text [c] parts nonempty true (by simp) written
    obtain ⟨other, excluded, same⟩ := matched.mp accepted
    obtain rfl : c = other := by simpa using same
    exact Bool.noConfusion (excluded.mp ((inside c).mpr ⟨entry, member, inEntry⟩))

end BracketExpression

/-- A bracket expression matches the single characters that it stands for and nothing else, exactly
if it loses no caret. -/
theorem accepts_bracket_iff (expression : BracketExpression) (extended : Bool) :
    (∀ text, accepts ⟨extended, false⟩ expression.text text = true ↔
      ∃ c, expression.Has c ∧ text = [c]) ↔ ¬ expression.LosesCaret := by
  simp only [accepts_expression]
  constructor
  · intro means lost
    obtain ⟨c, has, unmatched⟩ := expression.exists_not_accepted lost
    rw [(means [c]).mpr ⟨c, has, rfl⟩] at unmatched
    contradiction
  · exact fun kept text => expression.accepts_iff_of_kept kept

/-- An unknown class, a caret and a letter. -/
def unknownThenCaret : BracketExpression where
  mark := none
  first := .named ['x'] (by simp)
  others := [.caret, .one 'a' (by decide)]
  isMark := by simp
  unmarked := by simp [Entry.text]

/-- The expression stands for `^` and `a`, but matches all other characters. -/
theorem unknownThenCaret_excludes : ¬ ∀ (expression : BracketExpression) (extended : Bool) text,
    accepts ⟨extended, false⟩ expression.text text = true ↔
      ∃ c, expression.Has c ∧ text = [c] := by
  intro means
  have rejected : accepts ⟨false, false⟩ unknownThenCaret.text ['a'] = false := by decide
  have stands : unknownThenCaret.Has 'a' :=
    ⟨.one 'a' (by decide), by simp [BracketExpression.entries, unknownThenCaret], rfl⟩
  rw [(means unknownThenCaret false ['a']).mpr ⟨'a', stands, rfl⟩] at rejected
  contradiction

end Matching

end Shell.Glob
