import Shell.Glob.Matcher
import Shell.Proofs.Glob.Translation
import Shell.Proofs.Regex.Recognition

/-!
# Patterns accept their languages

The regular expression of a pattern without refused groups recognises its language. A
refused group outside all others is found by its place in the text, and cutting the
text around it in every way accepts the language of the whole.
-/

namespace Shell.Glob

open Regex (Item CharSet ofItems seqAll altAll Recognizes recognizes_readOne)

theorem found_eraseDups (items : List Item) (c : Char) :
    CharSet.found false items.eraseDups c = CharSet.found false items c := by
  rw [Bool.eq_iff_iff]
  simp [CharSet.found]

theorem ends_ofItems (negated : Bool) (items : List Item) (text : Array Char)
    (starts : List Nat) :
    (ofItems negated items).ends false text starts =
      Regex.readOne text (fun c => CharSet.found false items c != negated) starts := by
  unfold ofItems
  split
  · simp [Regex.ends, CharSet.found, Item.has, Regex.isChar]
  · rw [Regex.ends]
    rfl

theorem Member.has_item_iff (member : Member) (c : Char) :
    member.item.has c = true ↔ member.Has c := by
  cases member with
  | one d plain => simp [Member.item, Item.has, Member.Has, Char.toNat_inj]
  | range low high _ _ _ =>
    simp only [Member.item, Item.has, Member.Has, Bool.and_eq_true, decide_eq_true_eq]
    rfl

theorem Bracket.found_iff (set : Bracket) (c : Char) :
    (CharSet.found false (set.members.map Member.item).eraseDups c != set.negated) = true ↔
      set.Has c := by
  have found : CharSet.found false (set.members.map Member.item) c = true ↔
      ∃ member ∈ set.members, member.Has c := by
    simp [CharSet.found, Member.has_item_iff]
  rw [found_eraseDups]
  unfold Bracket.Has
  cases set.negated with
  | true => simpa using not_congr found
  | false => simpa using found

theorem recognizes_bracket (set : Bracket) :
    Recognizes set.regex (Atom.bracket set).language := by
  have whole := recognizes_readOne fun text starts =>
    ends_ofItems set.negated (set.members.map Member.item).eraseDups text starts
  rw [Atom.language]
  simp only [set.found_iff] at whole
  exact whole

theorem recognizes_literal (c : Char) :
    Recognizes (.char c.toNat false) (Atom.literal c).language := by
  have whole : Recognizes (.char c.toNat false)
      {word | ∃ d, (Regex.isChar false c.toNat d != false) = true ∧ word = [d]} :=
    recognizes_readOne fun _ _ => rfl
  have same : (Atom.literal c).language = {word | ∃ d, d = c ∧ word = [d]} := by
    rw [Atom.language]
    ext word
    constructor
    · rintro rfl
      exact ⟨c, rfl, rfl⟩
    · rintro ⟨_, rfl, rfl⟩
      rfl
  rw [same]
  simpa using whole

theorem recognizes_anyChar : Recognizes (.set .all) Atom.anyChar.language := by
  have whole : Recognizes (.set .all)
      {word | ∃ c, CharSet.all.accepts false c = true ∧ word = [c]} :=
    recognizes_readOne fun _ _ => rfl
  rw [Atom.language]
  simpa using whole

/-- Words of one character that passes a test put together the texts of which every character does.
-/
theorem mem_kstar_singles {singles : Language Char} {Passes : Char → Prop}
    (single : ∀ word, word ∈ singles ↔ ∃ c, Passes c ∧ word = [c]) {text : List Char} :
    text ∈ KStar.kstar singles ↔ ∀ c ∈ text, Passes c := by
  constructor
  · intro inside
    obtain ⟨words, rfl, among⟩ := Language.mem_kstar.mp inside
    intro c member
    obtain ⟨word, inWords, inWord⟩ := List.mem_flatten.mp member
    obtain ⟨d, passed, rfl⟩ := (single word).mp (among word inWords)
    rwa [List.mem_singleton.mp inWord]
  · intro passed
    refine Language.mem_kstar.mpr ⟨text.map fun c => [c], ?_, fun word member => ?_⟩
    · rw [← List.flatMap_def, List.flatMap_singleton']
    · obtain ⟨c, inText, rfl⟩ := List.mem_map.mp member
      exact (single _).mpr ⟨c, passed c inText, rfl⟩

/-- Every text is put together from single characters. -/
theorem kstar_anyChar : KStar.kstar Atom.anyChar.language = Atom.anyText.language := by
  have single : ∀ word, word ∈ Atom.anyChar.language ↔ ∃ c, True ∧ word = [c] := by
    intro word
    simp only [true_and, Atom.language]
    rfl
  refine Language.ext fun text => ?_
  rw [mem_kstar_singles single, Atom.language]
  exact iff_of_true (fun _ _ => trivial) trivial

theorem recognizes_group {kind : GroupKind} {body : Regex} {language : Language Char}
    (positive : kind ≠ .none) (recognizes : Recognizes body language) :
    Recognizes (kind.repeated (.group body)) (kind.language language) := by
  cases kind with
  | none => exact absurd rfl positive
  | one => exact recognizes.group
  | any => exact recognizes.group.star
  | many => exact recognizes.group.plus
  | optional => exact recognizes.group.opt

namespace Atom

mutual

theorem recognizes_regex : (atom : Atom) → atom.Positive → Recognizes atom.regex atom.language
  | literal c, _ => by
    rw [regex]
    exact recognizes_literal c
  | anyChar, _ => by
    rw [regex]
    exact recognizes_anyChar
  | anyText, _ => by
    rw [regex, ← kstar_anyChar]
    exact recognizes_anyChar.star
  | bracket set, _ => by
    rw [regex]
    exact recognizes_bracket set
  | group kind first others, positive => by
    rw [Positive] at positive
    rw [regex, language]
    exact recognizes_group positive.1 (recognizes_altAll others positive.2.2
      (recognizes_seqAll first positive.2.1))

theorem recognizes_seqAll : (pattern : List Atom) → PositiveAll pattern →
    Recognizes (seqAll (regexesOf pattern)) (languageOf pattern)
  | [], _ => by
    rw [regexesOf, languageOf]
    exact Regex.recognizes_empty
  | atom :: rest, positive => by
    rw [PositiveAll] at positive
    rw [regexesOf, languageOf]
    exact (recognizes_regex atom positive.1).seqAll_cons (recognizes_seqAll rest positive.2)

theorem recognizes_altAll : (patterns : List (List Atom)) → PositiveEach patterns →
    ∀ {first : Regex} {language : Language Char}, Recognizes first language →
    Recognizes (altAll first (choicesOf patterns)) (language + unionOf patterns)
  | [], _, _, _, recognizes => by
    rw [choicesOf, unionOf, add_zero]
    exact recognizes
  | pattern :: rest, positive, _, _, recognizes => by
    rw [PositiveEach] at positive
    rw [choicesOf, unionOf, altAll]
    exact recognizes.alt (recognizes_altAll rest positive.2 (recognizes_seqAll pattern positive.1))

end

end Atom

theorem mem_mul_iff_cut {left right : Language Char} {text : List Char} :
    text ∈ left * right ↔ ∃ i ≤ text.length, text.take i ∈ left ∧ text.drop i ∈ right := by
  rw [Language.mem_mul]
  constructor
  · rintro ⟨first, inLeft, second, inRight, rfl⟩
    exact ⟨first.length, by simp, by simpa using inLeft, by simpa using inRight⟩
  · rintro ⟨i, _, inLeft, inRight⟩
    exact ⟨text.take i, inLeft, text.drop i, inRight, List.take_append_drop i text⟩

namespace Atom

theorem languageOf_append (first second : List Atom) :
    languageOf (first ++ second) = languageOf first * languageOf second := by
  induction first with
  | nil => rw [languageOf, one_mul, List.nil_append]
  | cons atom first inductionHypothesis =>
    rw [List.cons_append, languageOf, languageOf, inductionHypothesis, mul_assoc]

theorem textOf_append (first second : List Atom) :
    textOf (first ++ second) = textOf first ++ textOf second := by
  induction first with
  | nil => rw [textOf, List.nil_append, List.nil_append]
  | cons atom first inductionHypothesis =>
    rw [List.cons_append, textOf, textOf, inductionHypothesis, List.append_assoc]

theorem mem_unionOf {patterns : List (List Atom)} {text : List Char} :
    text ∈ unionOf patterns ↔ ∃ pattern ∈ patterns, text ∈ languageOf pattern := by
  induction patterns with
  | nil => simp [unionOf]
  | cons pattern patterns inductionHypothesis =>
    rw [unionOf, Language.mem_add, inductionHypothesis]
    simp

theorem admissibleEach_iff {patterns : List (List Atom)} :
    AdmissibleEach patterns ↔ ∀ pattern ∈ patterns, AdmissibleAll pattern := by
  induction patterns with
  | nil => simp [AdmissibleEach]
  | cons pattern patterns inductionHypothesis =>
    rw [AdmissibleEach, inductionHypothesis]
    simp

/-- An atom that is no refused group holds none. -/
theorem Admissible.positive {atom : Atom} (admissible : atom.Admissible)
    (other : ∀ first others, atom ≠ group .none first others) : atom.Positive := by
  cases atom with
  | group kind first others =>
    have positive : kind ≠ .none := by
      rintro rfl
      exact other first others rfl
    rw [Positive]
    refine ⟨positive, ?_⟩
    cases kind with
    | none => exact absurd rfl positive
    | _ => simpa [Admissible] using admissible
  | _ => simp [Positive]

theorem negation?_cons {atom : Atom} (other : ∀ first others, atom ≠ group .none first others)
    (rest : List Piece) :
    negation? (atom.piece :: rest) = (negation? rest).map fun (before, body, after) =>
      (atom.text ++ before, body, after) := by
  rw [negation?, source_piece]
  intro body same
  cases atom with
  | group kind first others =>
    rw [piece] at same
    cases same
    exact other first others rfl
  | literal c =>
    rw [piece] at same
    split at same <;> cases same
  | _ =>
    rw [piece] at same
    cases same

/-- A pattern has no refused group at all, or a first one outside all groups, which is where the
text of the pattern is cut. -/
theorem negation?_pieces {pattern : List Atom} (admissible : AdmissibleAll pattern) :
    (PositiveAll pattern ∧ negation? (pattern.map piece) = none) ∨
    ∃ before first others after, pattern = before ++ group .none first others :: after ∧
      AdmissibleAll before ∧ AdmissibleAll first ∧ AdmissibleEach others ∧ AdmissibleAll after ∧
      negation? (pattern.map piece) = some (textOf before, body first others, textOf after) := by
  induction pattern with
  | nil => exact Or.inl ⟨by simp [PositiveAll], rfl⟩
  | cons atom rest inductionHypothesis =>
    rw [AdmissibleAll] at admissible
    obtain ⟨atomAdmissible, restAdmissible⟩ := admissible
    by_cases refused : ∃ first others, atom = group .none first others
    · obtain ⟨first, others, rfl⟩ := refused
      rw [Admissible] at atomAdmissible
      refine Or.inr ⟨[], first, others, rest, rfl, by simp [AdmissibleAll], atomAdmissible.1,
        atomAdmissible.2, restAdmissible, ?_⟩
      rw [List.map_cons, piece, negation?, sourceOf_map_piece, textOf]
    · have other : ∀ first others, atom ≠ group .none first others := fun first others same =>
        refused ⟨first, others, same⟩
      rw [List.map_cons, negation?_cons other]
      rcases inductionHypothesis restAdmissible with
        ⟨restPositive, none⟩ | ⟨before, first, others, after, rfl, beforeAdmissible,
          firstAdmissible, othersAdmissible, afterAdmissible, found⟩
      · rw [none, PositiveAll]
        exact Or.inl ⟨⟨atomAdmissible.positive other, restPositive⟩, rfl⟩
      · rw [found]
        refine Or.inr ⟨atom :: before, first, others, after, rfl, ?_, firstAdmissible,
          othersAdmissible, afterAdmissible, ?_⟩
        · rw [AdmissibleAll]
          exact ⟨atomAdmissible, beforeAdmissible⟩
        · rw [textOf]
          rfl

end Atom

/-- A matcher was made, and it accepts the language. -/
def Decides (matcher : Option Matcher) (language : Language Char) : Prop :=
  ∃ made, matcher = some made ∧ ∀ text, made.accepts text = true ↔ text ∈ language

theorem decides_plain? {pattern : List Atom} (positive : Atom.PositiveAll pattern) :
    Decides (Matcher.plain? ⟨true, false⟩ (Atom.textOf pattern)) (Atom.languageOf pattern) := by
  unfold Matcher.plain?
  rw [parse?_regexText positive]
  exact ⟨_, rfl, (Atom.recognizes_seqAll pattern positive).matchesWhole_iff⟩

theorem Decides.accepts_iff {matcher : Option Matcher} {language : Language Char}
    (decides : Decides matcher language) (text : List Char) :
    matcher.any (·.accepts text) = true ↔ text ∈ language := by
  obtain ⟨made, rfl, accepts⟩ := decides
  exact accepts text

/-- Cutting a text around a refused group in every way accepts the whole pattern. -/
theorem decides_around {before after : Option Matcher} {refused : List (Option Matcher)}
    {left right inner : Language Char} (beforeDecides : Decides before left)
    (afterDecides : Decides after right)
    (refuses : ∀ text, (refused.any fun alternative => alternative.any (·.accepts text)) = true ↔
      text ∈ inner) :
    Decides (some (Matcher.around before after refused)) (left * (innerᶜ * right)) := by
  obtain ⟨before, rfl, beforeAccepts⟩ := beforeDecides
  obtain ⟨after, rfl, afterAccepts⟩ := afterDecides
  refine ⟨_, rfl, fun text => ?_⟩
  have later : ∀ text, fitsAfter after refused text = true ↔ text ∈ innerᶜ * right := by
    intro text
    unfold fitsAfter
    rw [mem_mul_iff_cut, List.any_eq_true]
    simp only [mem_cutPoints, Bool.and_eq_true, Bool.not_eq_true', ← Bool.not_eq_true, refuses,
      afterAccepts]
    rfl
  change fitsAround before after refused text = true ↔ _
  unfold fitsAround
  rw [mem_mul_iff_cut, List.any_eq_true]
  simp only [mem_cutPoints, Bool.and_eq_true, beforeAccepts, later]

theorem any_accepts_iff {compile : List Char → Option Matcher} {first : List Atom}
    {others : List (List Atom)}
    (decides : ∀ pattern ∈ first :: others,
      Decides (compile (Atom.textOf pattern)) (Atom.languageOf pattern)) (text : List Char) :
    (((alternatives (Atom.body first others)).map compile).any fun alternative =>
      alternative.any (·.accepts text)) = true ↔
      text ∈ Atom.languageOf first + Atom.unionOf others := by
  have union : Atom.languageOf first + Atom.unionOf others = Atom.unionOf (first :: others) := by
    rw [Atom.unionOf]
  rw [union, Atom.mem_unionOf, Atom.alternatives_body, ← List.map_cons, List.map_map,
    List.any_map, List.any_eq_true]
  constructor
  · rintro ⟨pattern, member, accepted⟩
    exact ⟨pattern, member, ((decides pattern member).accepts_iff text).mp accepted⟩
  · rintro ⟨pattern, member, inside⟩
    exact ⟨pattern, member, ((decides pattern member).accepts_iff text).mpr inside⟩

/-- Compiling by cutting at refused groups, as deep as the text is long. -/
theorem decides_compileWithin? {depth : Nat} {pattern : List Atom}
    (admissible : Atom.AdmissibleAll pattern) (deep : (Atom.textOf pattern).length < depth) :
    Decides (compileWithin? ⟨true, false⟩ depth (Atom.textOf pattern))
      (Atom.languageOf pattern) := by
  induction depth generalizing pattern with
  | zero => omega
  | succ depth inductionHypothesis =>
    rw [compileWithin?, if_pos rfl, Atom.pieces_textOf]
    rcases Atom.negation?_pieces admissible with ⟨positive, none⟩ | ⟨before, first, others, after,
      rfl, beforeAdmissible, firstAdmissible, othersAdmissible, afterAdmissible, found⟩
    · rw [none]
      exact decides_plain? positive
    · rw [found, Atom.languageOf_append, Atom.languageOf, Atom.language]
      rw [Atom.textOf_append, Atom.textOf, List.length_append, List.length_append] at deep
      have alternative : ∀ pattern ∈ first :: others,
          Decides (compileWithin? ⟨true, false⟩ depth (Atom.textOf pattern))
            (Atom.languageOf pattern) := by
        intro pattern member
        have shorter : (Atom.textOf pattern).length <
            (Atom.group .none first others).text.length := Atom.length_lt_group member
        refine inductionHypothesis ?_ (by omega)
        rcases List.mem_cons.mp member with rfl | member
        · exact firstAdmissible
        · exact Atom.admissibleEach_iff.mp othersAdmissible pattern member
      have some : (Atom.textOf first).length < (Atom.group .none first others).text.length :=
        Atom.length_lt_group List.mem_cons_self
      exact decides_around (inductionHypothesis beforeAdmissible (by omega))
        (inductionHypothesis afterAdmissible (by omega)) (any_accepts_iff alternative)

/-- A text matches the text of a pattern exactly if it belongs to the language of the pattern. -/
theorem accepts_iff_mem_language (pattern : Pattern) (text : List Char) :
    accepts ⟨true, false⟩ pattern.text text = true ↔ text ∈ pattern.language := by
  obtain ⟨matcher, made, same⟩ :=
    decides_compileWithin? pattern.admissible (Nat.lt_succ_self pattern.text.length)
  have compiled : compile? ⟨true, false⟩ pattern.text = some matcher := made
  rw [accepts, compiled]
  exact same text

end Shell.Glob
