import Shell.Proofs.Glob.Scanning
import Shell.Proofs.Regex.Members

/-!
# The regular expression of a pattern

A pattern without refused groups is written as the text of a regular expression. The
text is the one that follows the tree of the pattern, and reading it gives back the
expression that follows the tree.
-/

namespace Shell.Glob

open Regex (Token Repetition Item CharSet Part ofItems partsText seqAll altAll)

/-- How often a group repeats its alternatives, if it does. -/
def GroupKind.repetition? : GroupKind → Option Repetition
  | one | none => .none
  | any => some .any
  | many => some .oneOrMore
  | optional => some .optional

def GroupKind.repeated (kind : GroupKind) (r : Regex) : Regex :=
  match kind.repetition? with
  | some count => count.apply r
  | .none => r

/-- A member of a bracket as a member of a character set. -/
def Member.item : Member → Item
  | one c _ => .code c.toNat
  | range low high _ _ _ => .range low.toNat high.toNat

def Bracket.regex (set : Bracket) : Regex :=
  ofItems set.negated (set.members.map Member.item).eraseDups

namespace Atom

mutual

/-- The text of an atom's regular expression. -/
def written : Atom → List Char
  | literal c => literalText c
  | anyChar => ['.']
  | anyText => ['.', '*']
  | bracket set => bracketText set.content
  | group kind first others => kind.wrap (joinBars (writtenOf first :: writtenEach others))

def writtenOf : List Atom → List Char
  | [] => []
  | atom :: rest => atom.written ++ writtenOf rest

def writtenEach : List (List Atom) → List (List Char)
  | [] => []
  | pattern :: rest => writtenOf pattern :: writtenEach rest

end

mutual

/-- The pieces of an atom's regular expression. -/
def tokens : Atom → List Token
  | literal c => [.atom (.char c.toNat false)]
  | anyChar => [.atom (.set .all)]
  | anyText => [.atom (.set .all), .repetition .any]
  | bracket set => [.atom set.regex]
  | group kind first others =>
    .opening false :: (tokensOf first ++
      (tokensEach others ++ .closing :: (kind.repetition?.map .repetition).toList))

def tokensOf : List Atom → List Token
  | [] => []
  | atom :: rest => atom.tokens ++ tokensOf rest

/-- The pieces of further alternatives, each behind a bar. -/
def tokensEach : List (List Atom) → List Token
  | [] => []
  | pattern :: rest => .bar :: (tokensOf pattern ++ tokensEach rest)

end

mutual

/-- The regular expression of an atom. -/
def regex : Atom → Regex
  | literal c => .char c.toNat false
  | anyChar => .set .all
  | anyText => .star (.set .all)
  | bracket set => set.regex
  | group kind first others =>
    kind.repeated (.group (altAll (seqAll (regexesOf first)) (choicesOf others)))

def regexesOf : List Atom → List Regex
  | [] => []
  | atom :: rest => atom.regex :: regexesOf rest

def choicesOf : List (List Atom) → List Regex
  | [] => []
  | pattern :: rest => seqAll (regexesOf pattern) :: choicesOf rest

end

theorem writtenEach_eq_map (patterns : List (List Atom)) :
    writtenEach patterns = patterns.map writtenOf := by
  induction patterns with
  | nil => rw [writtenEach, List.map_nil]
  | cons pattern patterns inductionHypothesis =>
    rw [writtenEach, inductionHypothesis, List.map_cons]

theorem length_le_joinBars {text first : List Char} {others : List (List Char)}
    (member : text ∈ first :: others) : text.length ≤ (joinBars (first :: others)).length := by
  rw [joinBars_cons, List.length_append]
  rcases List.mem_cons.mp member with rfl | member
  · exact Nat.le_add_right _ _
  · obtain ⟨before, after, rfl⟩ := List.append_of_mem member
    simp only [List.flatMap_append, List.flatMap_cons, List.length_append, List.length_cons]
    omega

theorem length_text_le {atom : Atom} {pattern : List Atom} (member : atom ∈ pattern) :
    atom.text.length ≤ (textOf pattern).length := by
  induction pattern with
  | nil => simp at member
  | cons first rest inductionHypothesis =>
    rw [textOf, List.length_append]
    rcases List.mem_cons.mp member with rfl | member
    · exact Nat.le_add_right _ _
    · exact Nat.le_trans (inductionHypothesis member) (Nat.le_add_left _ _)

/-- An alternative is shorter than its group. -/
theorem length_lt_group {kind : GroupKind} {pattern first : List Atom}
    {others : List (List Atom)} (member : pattern ∈ first :: others) :
    (textOf pattern).length < (group kind first others).text.length := by
  have inside : textOf pattern ∈ textOf first :: textsOf others := by
    rw [textsOf_eq_map, ← List.map_cons]
    exact List.mem_map_of_mem member
  have most := length_le_joinBars inside
  rw [text]
  simp only [List.cons_append, List.length_cons, List.length_append]
  omega

/-- The text that a pattern is translated to follows the tree of the pattern. -/
theorem bodyText_textOf {depth : Nat} {pattern : List Atom}
    (deep : (textOf pattern).length < depth) :
    bodyText .free true depth (textOf pattern) = writtenOf pattern := by
  induction depth generalizing pattern with
  | zero => omega
  | succ depth inductionHypothesis =>
    have atoms : ∀ atom ∈ pattern,
        atom.piece.regexText .free (bodyText .free true depth) = atom.written := by
      intro atom member
      have most := length_text_le member
      cases atom with
      | literal c =>
        rw [piece, written]
        split <;> rw [Piece.regexText]
      | anyChar => rw [piece, written]; rfl
      | anyText => rw [piece, written]; rfl
      | bracket set => rw [piece, written, Piece.regexText]
      | group kind first others =>
        have alternative : ∀ pattern ∈ first :: others,
            bodyText .free true depth (textOf pattern) = writtenOf pattern := by
          intro pattern member
          have shorter : (textOf pattern).length < (group kind first others).text.length :=
            length_lt_group member
          exact inductionHypothesis (by omega)
        rw [piece, Piece.regexText, alternatives_body, written, writtenEach_eq_map,
          ← List.map_cons, ← List.map_cons, List.map_map]
        congr 2
        exact List.map_congr_left alternative
    rw [bodyText, pieces_textOf, List.flatMap_map]
    clear deep
    induction pattern with
    | nil => rw [writtenOf]; rfl
    | cons atom rest others =>
      rw [List.flatMap_cons, writtenOf, atoms atom (by simp),
        others fun atom member => atoms atom (List.mem_cons_of_mem _ member)]

end Atom

/-- The text is read as these pieces, one after the other. -/
inductive Lexed : List Char → List Token → Prop
  | nil : Lexed [] []
  | cons {c : Char} {part rest : List Char} {token : Token} {tokens : List Token}
      (reads : Regex.token? (c :: part ++ rest) = some (token, rest)) (others : Lexed rest tokens) :
      Lexed (c :: part ++ rest) (token :: tokens)

/-- As many pieces as the text is long are enough. -/
theorem Lexed.tokens? {text : List Char} {tokens : List Token} {fuel : Nat}
    (lexed : Lexed text tokens) (enough : text.length ≤ fuel) :
    Regex.tokens? fuel text = some tokens := by
  induction lexed generalizing fuel with
  | nil => cases fuel <;> rfl
  | @cons c part rest token tokens reads _ inductionHypothesis =>
    rw [List.length_append, List.length_cons] at enough
    obtain ⟨fuel, rfl⟩ : ∃ less, fuel = less + 1 := ⟨fuel - 1, by omega⟩
    have others := inductionHypothesis (by omega : rest.length ≤ fuel)
    rw [List.cons_append] at reads ⊢
    rw [Regex.tokens?, reads, Option.bind_some]
    · change (Regex.tokens? fuel rest).map (token :: ·) = _
      rw [others]
      rfl
    · exact List.cons_ne_nil _ _

theorem Lexed.one {c : Char} {rest : List Char} {token : Token} {tokens : List Token}
    (reads : Regex.token? (c :: rest) = some (token, rest)) (others : Lexed rest tokens) :
    Lexed (c :: rest) (token :: tokens) :=
  @Lexed.cons c [] rest token tokens reads others

theorem Lexed.opening {rest : List Char} {tokens : List Token} (others : Lexed rest tokens) :
    Lexed ('(' :: '?' :: ':' :: rest) (.opening false :: tokens) :=
  @Lexed.cons '(' ['?', ':'] rest _ tokens rfl others

/-- The text of a literal character is one piece. -/
theorem exists_token?_literal (c : Char) : ∃ first part, literalText c = first :: part ∧
    ∀ rest, Regex.token? (first :: part ++ rest) = some (.atom (.char c.toNat false), rest) := by
  by_cases special : c ∈ regexSpecials
  · have escaped : literalText c = ['\\', c] := by simp [literalText, special]
    have plain : c.isAlphanum = false := by
      simp only [regexSpecials, List.mem_cons, List.not_mem_nil, or_false] at special
      rcases special with rfl | rfl | rfl | rfl | rfl | rfl | rfl | rfl | rfl | rfl | rfl | rfl |
        rfl | rfl <;> decide
    refine ⟨'\\', [c], escaped, fun rest => ?_⟩
    have reads : Regex.token? ('\\' :: c :: rest) =
        if c.isAlphanum then none else some (.atom (.char c.toNat false), rest) := rfl
    rw [plain] at reads
    exact reads
  · have same : literalText c = [c] := by simp [literalText, special]
    refine ⟨c, [], same, fun rest => ?_⟩
    rw [List.cons_append, List.nil_append]
    simp only [regexSpecials, List.mem_cons, List.not_mem_nil, or_false, not_or] at special
    unfold Regex.token?
    split <;> simp_all

theorem lexed_literal {c : Char} {rest : List Char} {tokens : List Token}
    (others : Lexed rest tokens) :
    Lexed (literalText c ++ rest) (.atom (.char c.toNat false) :: tokens) := by
  obtain ⟨first, part, text, reads⟩ := exists_token?_literal c
  rw [text]
  exact Lexed.cons (reads rest) others

section Sets

theorem membersFrom_plain {c : Char} (plain : c ≠ '\\' ∧ c ≠ '[' ∧ c ≠ ']') (rest : List Char) :
    membersFrom none (c :: rest) = c :: membersFrom none rest := by
  rw [membersFrom, if_neg (by simp [plain])]
  · exact fun _ same => absurd same plain.2.1
  · exact fun _ _ same => absurd same plain.1

theorem membersFrom_eq_self {text : List Char} (plain : ∀ c ∈ text, c ≠ '\\' ∧ c ≠ '[' ∧ c ≠ ']') :
    membersFrom none text = text := by
  induction text with
  | nil => rfl
  | cons c text inductionHypothesis =>
    rw [membersFrom_plain (plain c List.mem_cons_self),
      inductionHypothesis fun d member => plain d (List.mem_cons_of_mem _ member)]

/-- The text of a bracket's character set. -/
theorem bracketText_content (set : Bracket) :
    bracketText set.content =
      '[' :: (if set.negated then ['^'] else []) ++ set.members.flatMap Member.text ++ [']'] := by
  have same : membersFrom none (set.members.flatMap Member.text) =
      set.members.flatMap Member.text :=
    membersFrom_eq_self fun _ => Bracket.plain_of_mem_members
  obtain ⟨c, tail, members, plain⟩ := set.members_eq_cons
  have unmarked : isNegationMark c = false := isNegationMark_of_isAlphanum plain
  unfold bracketText Bracket.content
  rw [members] at same ⊢
  cases set.negated with
  | true => simp [leadingMark, isNegationMark, same]
  | false => simp [leadingMark, unmarked, same]

/-- A member of a bracket as it is written in a character set. -/
def Member.part : Member → Part
  | one c plain =>
    .one (.ofChar c ⟨ne_of_isAlphanum plain (by decide), ne_of_isAlphanum plain (by decide),
      ne_of_isAlphanum plain (by decide)⟩)
  | range low high lowPlain highPlain ascending =>
    .range
      (.ofChar low ⟨ne_of_isAlphanum lowPlain (by decide), ne_of_isAlphanum lowPlain (by decide),
        ne_of_isAlphanum lowPlain (by decide)⟩)
      (.ofChar high ⟨ne_of_isAlphanum highPlain (by decide),
        ne_of_isAlphanum highPlain (by decide), ne_of_isAlphanum highPlain (by decide)⟩)
      ascending

theorem Member.text_part (member : Member) : member.part.text = member.text := by
  cases member <;> rfl

theorem Member.item_part (member : Member) : member.part.item = member.item := by
  cases member <;> rfl

/-- The character set of a bracket is read back. -/
theorem bracket?_members (set : Bracket) (rest : List Char) :
    Regex.bracket? ((if set.negated then ['^'] else []) ++
      (set.members.flatMap Member.text ++ ']' :: rest)) = some (set.regex, rest) := by
  have text : partsText (set.members.map Member.part) = set.members.flatMap Member.text := by
    simp [partsText, List.flatMap_map, Member.text_part]
  have items : (set.members.map Member.part).map Part.item = set.members.map Member.item := by
    simp [Member.item_part]
  obtain ⟨c, tail, members, plain⟩ := set.members_eq_cons
  have unmarked : (set.members.flatMap Member.text).head? ≠ some '^' := by
    simpa [members] using ne_of_isAlphanum plain (d := '^') (by decide)
  rw [← text] at unmarked ⊢
  rw [Bracket.regex, ← items]
  exact Regex.bracket?_parts (by simp [Bracket.members]) (fun _ => unmarked) rest

theorem lexed_bracket {set : Bracket} {rest : List Char} {tokens : List Token}
    (others : Lexed rest tokens) :
    Lexed (bracketText set.content ++ rest) (.atom set.regex :: tokens) := by
  rw [bracketText_content]
  refine Lexed.cons ?_ others
  change (Regex.bracket? (((if set.negated then ['^'] else []) ++
    set.members.flatMap Member.text ++ [']']) ++ rest)).map _ = _
  rw [List.append_assoc, List.append_assoc, List.singleton_append, bracket?_members]
  rfl

end Sets

theorem dropLazy_eq {rest : List Char} (greedy : rest.head? ≠ some '?') :
    Regex.dropLazy rest = rest := by
  unfold Regex.dropLazy
  split
  · exact absurd rfl greedy
  · rfl

/-- The mark behind a group. -/
def GroupKind.mark : GroupKind → List Char
  | one | none => []
  | any => ['*']
  | many => ['+']
  | optional => ['?']

theorem wrap_eq {kind : GroupKind} (positive : kind ≠ .none) (inner : List Char) :
    kind.wrap inner = ['(', '?', ':'] ++ inner ++ ')' :: kind.mark := by
  have opened : "(?:".toList = ['(', '?', ':'] := by decide
  unfold GroupKind.wrap GroupKind.mark
  rw [opened]
  cases kind with
  | none => exact absurd rfl positive
  | _ => simp only [List.append_assoc, List.cons_append, List.nil_append]

/-- The mark of a repetition is read, if no mark for few rounds follows. -/
theorem lexed_mark {kind : GroupKind} {rest : List Char} {tokens : List Token}
    (greedy : rest.head? ≠ some '?') (others : Lexed rest tokens) :
    Lexed (kind.mark ++ rest) ((kind.repetition?.map .repetition).toList ++ tokens) := by
  have reads : ∀ {c : Char} {count : Repetition},
      Regex.token? (c :: rest) = some (.repetition count, Regex.dropLazy rest) →
      Lexed (c :: rest) (.repetition count :: tokens) := by
    intro c count reads
    rw [dropLazy_eq greedy] at reads
    exact Lexed.one reads others
  cases kind with
  | one => exact others
  | none => exact others
  | any => exact reads rfl
  | many => exact reads rfl
  | optional => exact reads rfl

namespace Atom

/-- The text of an atom does not begin with the mark for few rounds. -/
theorem written_head {atom : Atom} (positive : atom.Positive) (rest : List Char) :
    (atom.written ++ rest).head? ≠ some '?' := by
  cases atom with
  | literal c =>
    by_cases special : c ∈ regexSpecials
    · simp [written, literalText, special]
    · have lazy : c ≠ '?' := by
        rintro rfl
        exact special (by decide)
      simp [written, literalText, special, lazy]
  | anyChar => simp [written]
  | anyText => simp [written]
  | bracket set =>
    rw [written, bracketText_content]
    simp
  | group kind first others =>
    rw [Positive] at positive
    rw [written, wrap_eq positive.1]
    simp

theorem writtenOf_head {pattern : List Atom} (positive : PositiveAll pattern) {rest : List Char}
    (greedy : rest.head? ≠ some '?') : (writtenOf pattern ++ rest).head? ≠ some '?' := by
  cases pattern with
  | nil =>
    rw [writtenOf]
    exact greedy
  | cons atom others =>
    rw [PositiveAll] at positive
    rw [writtenOf, List.append_assoc]
    exact written_head positive.1 _

mutual

theorem lexed_written : (atom : Atom) → atom.Positive → ∀ {rest : List Char}
    {following : List Token}, rest.head? ≠ some '?' → Lexed rest following →
    Lexed (atom.written ++ rest) (atom.tokens ++ following)
  | literal c, _, _, _, _, others => by
    rw [written, tokens]
    exact lexed_literal others
  | anyChar, _, _, _, _, others => by
    rw [written, tokens]
    exact Lexed.one rfl others
  | anyText, _, rest, following, greedy, others => by
    rw [written, tokens]
    have star : Lexed (GroupKind.any.mark ++ rest) (.repetition .any :: following) :=
      lexed_mark greedy others
    exact Lexed.one rfl star
  | bracket set, _, _, _, _, others => by
    rw [written, tokens]
    exact lexed_bracket others
  | group kind first alternatives, positive, rest, following, greedy, others => by
    rw [Positive] at positive
    obtain ⟨kindPositive, firstPositive, eachPositive⟩ := positive
    have closing : Lexed (')' :: (kind.mark ++ rest))
        (.closing :: ((kind.repetition?.map .repetition).toList ++ following)) :=
      Lexed.one rfl (lexed_mark greedy others)
    have inner := lexed_writtenOf first firstPositive
      (by cases alternatives <;> simp [writtenEach])
      (lexed_writtenEach alternatives eachPositive (by simp) closing)
    rw [written, tokens, wrap_eq kindPositive, joinBars_cons]
    simpa using inner.opening

theorem lexed_writtenOf : (pattern : List Atom) → PositiveAll pattern → ∀ {rest : List Char}
    {following : List Token}, rest.head? ≠ some '?' → Lexed rest following →
    Lexed (writtenOf pattern ++ rest) (tokensOf pattern ++ following)
  | [], _, _, _, _, others => by
    rw [writtenOf, tokensOf]
    exact others
  | atom :: pattern, positive, _, _, greedy, others => by
    rw [PositiveAll] at positive
    rw [writtenOf, tokensOf, List.append_assoc, List.append_assoc]
    exact lexed_written atom positive.1 (writtenOf_head positive.2 greedy)
      (lexed_writtenOf pattern positive.2 greedy others)

theorem lexed_writtenEach : (patterns : List (List Atom)) → PositiveEach patterns →
    ∀ {rest : List Char} {following : List Token}, rest.head? ≠ some '?' → Lexed rest following →
    Lexed ((writtenEach patterns).flatMap ('|' :: ·) ++ rest) (tokensEach patterns ++ following)
  | [], _, _, _, _, others => by
    rw [writtenEach, tokensEach]
    exact others
  | pattern :: patterns, positive, rest, following, greedy, others => by
    rw [PositiveEach] at positive
    have later := lexed_writtenEach patterns positive.2 greedy others
    have unmarked : ((writtenEach patterns).flatMap ('|' :: ·) ++ rest).head? ≠ some '?' := by
      cases patterns with
      | nil =>
        rw [writtenEach]
        exact greedy
      | cons => simp [writtenEach]
    have inner := lexed_writtenOf pattern positive.1 unmarked later
    have whole : Lexed ('|' :: _) (.bar :: _) := Lexed.one rfl inner
    rw [writtenEach, tokensEach]
    simpa using whole

end

end Atom

section Building

open Regex (Group build?)

/-- The alternatives of several expressions. -/
def altsOf : List Regex → Regex
  | [] => .empty
  | first :: others => altAll first others

theorem body_eq (group : Group) :
    group.body = altsOf (group.alternatives ++ [seqAll group.parts.reverse]) := by
  unfold Group.body
  cases group.alternatives <;> rfl

theorem build?_repeat {r : Regex} {count : Repetition} (inner : Group) (outer : List Group)
    (repeated : Regex) (rest : List Token)
    (repeats : (inner.push r).repeat? count = some (inner.push repeated)) :
    build? (inner.push r) outer (.repetition count :: rest) =
      build? (inner.push repeated) outer rest := by
  rw [build?, repeats, Option.bind_some]

theorem build?_repetition (kind : GroupKind) (inner : Group) (outer : List Group) (r : Regex)
    (rest : List Token) :
    build? (inner.push (.group r)) outer ((kind.repetition?.map .repetition).toList ++ rest) =
      build? (inner.push (kind.repeated (.group r))) outer rest := by
  cases kind with
  | one => rfl
  | none => rfl
  | any => exact build?_repeat inner outer _ rest rfl
  | many => exact build?_repeat inner outer _ rest rfl
  | optional => exact build?_repeat inner outer _ rest rfl

namespace Atom

mutual

theorem build?_tokens : (atom : Atom) → (inner : Group) → (outer : List Group) →
    (rest : List Token) →
    build? inner outer (atom.tokens ++ rest) = build? (inner.push atom.regex) outer rest
  | literal c, inner, outer, rest => by
    rw [tokens, regex, List.singleton_append, build?]
  | anyChar, inner, outer, rest => by
    rw [tokens, regex, List.singleton_append, build?]
  | anyText, inner, outer, rest => by
    rw [tokens, regex, List.cons_append, build?, List.singleton_append]
    exact build?_repeat inner outer _ rest rfl
  | bracket set, inner, outer, rest => by
    rw [tokens, regex, List.singleton_append, build?]
  | group kind first others, inner, outer, rest => by
    obtain ⟨read, same, refusal, body⟩ := build?_tokensEach others
      { Group.new false with parts := (regexesOf first).reverse } (inner :: outer)
      (.closing :: ((kind.repetition?.map .repetition).toList ++ rest))
    have regex : read.regex = .group (altAll (seqAll (regexesOf first)) (choicesOf others)) := by
      rw [Group.regex, refusal, body]
      simp [Group.new, altsOf]
    rw [tokens, Atom.regex, List.cons_append, List.append_assoc, List.append_assoc,
      List.cons_append, build?, build?_tokensOf first]
    rw [show (Group.new false).parts = [] from rfl, List.append_nil, same, build?, regex]
    exact build?_repetition kind inner outer _ rest

theorem build?_tokensOf : (pattern : List Atom) → (inner : Group) → (outer : List Group) →
    (rest : List Token) → build? inner outer (tokensOf pattern ++ rest) =
      build? { inner with parts := (regexesOf pattern).reverse ++ inner.parts } outer rest
  | [], _, _, _ => by
    rw [tokensOf, regexesOf]
    rfl
  | atom :: pattern, inner, outer, rest => by
    rw [tokensOf, regexesOf, List.append_assoc, build?_tokens atom, build?_tokensOf pattern]
    simp [Group.push]

/-- Further alternatives are added to those of the group. -/
theorem build?_tokensEach : (patterns : List (List Atom)) → (inner : Group) →
    (outer : List Group) → (rest : List Token) →
    ∃ read, build? inner outer (tokensEach patterns ++ rest) = build? read outer rest ∧
      read.refusal = inner.refusal ∧
      read.body = altsOf (inner.alternatives ++ seqAll inner.parts.reverse :: choicesOf patterns)
  | [], inner, outer, rest => by
    rw [tokensEach, choicesOf]
    exact ⟨inner, rfl, rfl, body_eq inner⟩
  | pattern :: patterns, inner, outer, rest => by
    obtain ⟨read, same, refusal, body⟩ := build?_tokensEach patterns
      { inner.turn with parts := (regexesOf pattern).reverse } outer rest
    refine ⟨read, ?_, refusal, ?_⟩
    · rw [tokensEach, List.cons_append, List.append_assoc, build?, build?_tokensOf, ← same]
      simp [Group.turn]
    · rw [body, choicesOf]
      simp [Group.turn]

end

end Atom

end Building

/-- The regular expression of a pattern is read as the one that follows its tree. -/
theorem parse?_regexText {pattern : List Atom} (positive : Atom.PositiveAll pattern) :
    Regex.parse? (regexText true (Atom.textOf pattern)) =
      some (seqAll (Atom.regexesOf pattern ++ [.atEnd])) := by
  have written : bodyText .free true (nesting (Atom.textOf pattern)) (Atom.textOf pattern) =
      Atom.writtenOf pattern :=
    Atom.bodyText_textOf (Nat.lt_succ_self _)
  have last : Lexed ['$'] [.atom .atEnd] := Lexed.one rfl .nil
  have lexed := Atom.lexed_writtenOf pattern positive (by decide) last
  unfold Regex.parse? regexText
  rw [written]
  change (Regex.tokens? (Atom.writtenOf pattern ++ ['$']).length
    (Atom.writtenOf pattern ++ ['$'])).bind _ = _
  rw [lexed.tokens? (Nat.le_refl _), Option.bind_some, Atom.build?_tokensOf, Regex.build?,
    Regex.build?]
  simp [Regex.Group.body, Regex.Group.push, Regex.Group.new]

end Shell.Glob
