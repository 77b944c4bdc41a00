import Shell.Proofs.Glob.Joining

/-!
# Patterns in front of literal text

The text of a regular expression is woven from the texts of pieces. A character set in
it may reach over the pieces behind it, when an unknown class leaves nothing but a
caret between its brackets, but it closes at the end of another set or not at all. So
literal text behind the pieces is read as such, and a pattern followed by it matches
what the pattern matches, followed by that text.
-/

namespace Shell.Glob

open Text (endsOpen endsOpen_cons endsOpen_append endsOpen_append_of_plain headInduction)
open Regex (hasCloser hasCloser_cons hasCloser_append hasCloser_cut ofItems seqAll Recognizes Token
  recognizes_empty recognizes_readOne)

/-- A text that neither closes a character set nor leaves a backslash open. -/
structure Unclosing (text : List Char) : Prop where
  closed : endsOpen text = false
  sealed : hasCloser text = false

namespace Unclosing

variable {first second : List Char}

theorem nil : Unclosing [] := ⟨rfl, rfl⟩

theorem escape (c : Char) (rest : Unclosing second) : Unclosing ('\\' :: c :: second) :=
  ⟨rest.closed, rest.sealed⟩

theorem cons {c : Char} (plain : c ≠ '\\') (closing : c ≠ ']') (rest : Unclosing second) :
    Unclosing (c :: second) := by
  refine ⟨by rw [endsOpen_cons plain, rest.closed], ?_⟩
  rw [hasCloser_cons plain, rest.sealed]
  simpa using closing

theorem append (front : Unclosing first) (rest : Unclosing second) :
    Unclosing (first ++ second) := by
  refine ⟨by rw [endsOpen_append front.closed, rest.closed], ?_⟩
  rw [hasCloser_append front.closed, front.sealed, rest.sealed]
  rfl

/-- What ends at a closing bracket goes past a text that closes nothing. -/
theorem cut (front : Unclosing first) {used rest : List Char} (closed : endsOpen used = false)
    (whole : used ++ ']' :: rest = first ++ second) :
    ∃ more, second = more ++ ']' :: rest ∧ endsOpen more = false := by
  rcases List.append_eq_append_iff.mp whole with ⟨more, rfl, same⟩ | ⟨more, rfl, same⟩
  · cases more with
    | nil => exact ⟨[], same.symm, rfl⟩
    | cons c more =>
      obtain ⟨rfl, -⟩ := List.cons.inj same
      have open_ := front.sealed
      rw [hasCloser_cut closed] at open_
      contradiction
  · rw [endsOpen_append front.closed] at closed
    exact ⟨more, same, closed⟩

end Unclosing

theorem unclosing_literalText (c : Char) : Unclosing (literalText c) := by
  by_cases special : c ∈ regexSpecials
  · have escaped : literalText c = ['\\', c] := by simp [literalText, special]
    rw [escaped]
    exact Unclosing.nil.escape c
  · have same : literalText c = [c] := by simp [literalText, special]
    rw [same]
    refine Unclosing.nil.cons ?_ ?_
    · rintro rfl
      exact special (by decide)
    · rintro rfl
      exact special (by decide)

section Members

theorem unclosing_namedClass (name : List Char) : Unclosing (namedClass name) := by
  have each : ∀ entry ∈ classMembers,
      endsOpen entry.2.toList = false ∧ hasCloser entry.2.toList = false := by
    decide
  unfold namedClass
  cases found : classMembers.lookup (String.ofList name) with
  | none => exact .nil
  | some members =>
    obtain ⟨before, after, whole, -⟩ := List.lookup_eq_some_iff.mp found
    obtain ⟨closed, sealed⟩ := each (String.ofList name, members) (by simp [whole])
    exact ⟨closed, sealed⟩

theorem hasClassEnd_tail {rest : List Char} (classed : hasClassEnd rest = true) (c : Char) :
    hasClassEnd (c :: rest) = true := by
  unfold hasClassEnd
  split <;> simp_all

theorem hasClassEnd_append {text : List Char} (classed : hasClassEnd text = true)
    (rest : List Char) : hasClassEnd (text ++ rest) = true := by
  obtain ⟨before, after, rfl⟩ := exists_of_hasClassEnd classed
  clear classed
  induction before with
  | nil => rfl
  | cons c before inductionHypothesis => exact hasClassEnd_tail inductionHypothesis c

/-- The members of a set neither close it nor leave a backslash open, and inside a class its end is
among them. -/
theorem unclosing_members {inClass : Bool} {text content after : List Char}
    (found : bracketFrom? inClass text = some (content, after)) :
    (inClass = false → Unclosing (membersFrom none content)) ∧
      (inClass = true → hasClassEnd content = true ∧
        ∀ name, Unclosing (membersFrom (some name) content)) := by
  fun_induction bracketFrom? inClass text generalizing content with
  | case1 => contradiction
  | case2 rest inductionHypothesis =>
    obtain ⟨⟨inner, left⟩, inside, same⟩ := Option.map_eq_some_iff.mp found
    cases same
    refine ⟨by simp, fun _ => ⟨rfl, fun name => ?_⟩⟩
    exact (unclosing_namedClass _).append ((inductionHypothesis inside).1 rfl)
  | case3 c rest other inductionHypothesis =>
    obtain ⟨⟨inner, left⟩, inside, same⟩ := Option.map_eq_some_iff.mp found
    cases same
    obtain ⟨classed, each⟩ := (inductionHypothesis inside).2 rfl
    refine ⟨by simp, fun _ => ⟨hasClassEnd_tail classed c, fun name => ?_⟩⟩
    rw [membersFrom]
    · exact each _
    · rintro more rfl rfl
      exact other _ rfl (bracketFrom?_source inside)
  | case4 c rest inductionHypothesis =>
    obtain ⟨⟨inner, left⟩, inside, same⟩ := Option.map_eq_some_iff.mp found
    cases same
    exact ⟨fun _ => ((inductionHypothesis inside).1 rfl).escape c, by simp⟩
  | case5 rest =>
    cases found
    exact ⟨fun _ => .nil, by simp⟩
  | case6 rest inductionHypothesis =>
    obtain ⟨⟨inner, left⟩, inside, same⟩ := Option.map_eq_some_iff.mp found
    cases same
    obtain ⟨plain, classed⟩ := inductionHypothesis inside
    refine ⟨fun _ => ?_, by simp⟩
    rw [membersFrom]
    by_cases named : hasClassEnd inner = true
    · rw [if_pos named]
      have whole : hasClassEnd rest = true := by
        rw [bracketFrom?_source inside]
        exact hasClassEnd_append named _
      exact (classed whole).2 []
    · rw [if_neg named]
      have unnamed : hasClassEnd rest = false := by
        by_contra whole
        exact named (classed (by simpa using whole)).1
      exact ((plain unnamed).cons (by decide) (by decide)).escape '['
  | case7 c rest escape closing opening inductionHypothesis =>
    obtain ⟨⟨inner, left⟩, inside, same⟩ := Option.map_eq_some_iff.mp found
    cases same
    have whole := bracketFrom?_source inside
    have plain : c ≠ '\\' := by
      rintro rfl
      cases rest with
      | nil => simp at whole
      | cons d rest => exact escape d rest rfl rfl
    refine ⟨fun _ => ?_, by simp⟩
    have later := (inductionHypothesis inside).1 rfl
    rw [membersFrom]
    · split
      · exact later.escape c
      · rename_i unbracketed
        rw [not_or] at unbracketed
        exact later.cons plain unbracketed.2
    · rintro more rfl rfl
      exact opening _ rfl whole
    · exact fun _ _ same => absurd same plain

theorem leadingMark_front {mark inner rest : List Char}
    (marked : leadingMark (mark ++ (inner ++ rest)) = mark) :
    leadingMark (mark ++ inner) = mark := by
  cases mark with
  | cons => exact marked
  | nil =>
    cases inner with
    | nil => rfl
    | cons => exact marked

/-- The text of a character set for what is in brackets. -/
theorem bracketText_cases {text content after : List Char}
    (found : bracket? text = some (content, after)) :
    bracketText content = "(?!)".toList ∨ bracketText content = ['.'] ∨
      ∃ members, bracketText content = '[' :: (members ++ [']']) ∧ members ≠ [] ∧
        Unclosing members := by
  have cut : ∃ mark inner, content = mark ++ inner ∧ leadingMark (mark ++ inner) = mark ∧
      Unclosing (membersFrom none inner) := by
    obtain ⟨mark, inner, rest, marked, inside, ⟨rfl, rfl⟩ | ⟨rfl, rfl⟩⟩ := bracket?_cut found
    · rw [bracketFrom?_source inside] at marked
      have front : leadingMark (mark ++ (']' :: inner ++ ']' :: after)) = mark := marked
      refine ⟨mark, ']' :: inner, rfl, leadingMark_front front, ?_⟩
      exact ((unclosing_members inside).1 rfl).escape ']'
    · rw [bracketFrom?_source inside] at marked
      exact ⟨mark, inner, rfl, leadingMark_front marked, (unclosing_members inside).1 rfl⟩
  obtain ⟨mark, inner, rfl, marked, unclosing⟩ := cut
  unfold bracketText
  simp only [marked, List.drop_left]
  split
  · exact .inl rfl
  · exact .inr (.inl rfl)
  · rename_i nonempty
    exact .inr (.inr ⟨_, rfl, nonempty, unclosing⟩)
  · exact .inr (.inr ⟨_, rfl, List.cons_ne_nil _ _, unclosing.cons (by decide) (by decide)⟩)

end Members

section Weaving

/-- The text of a regular expression, woven from the texts of pieces. -/
inductive Woven : List Char → Prop
  | nil : Woven []
  | literal (c : Char) {rest : List Char} : Woven rest → Woven (literalText c ++ rest)
  | anyChar {rest : List Char} : Woven rest → Woven ('.' :: rest)
  | anyText {rest : List Char} : Woven rest → Woven ('.' :: '*' :: rest)
  | nothing {rest : List Char} : Woven rest → Woven ('(' :: '?' :: '!' :: ')' :: rest)
  | set {members rest : List Char} : Unclosing members → Woven rest →
      Woven ('[' :: (members ++ ']' :: rest))

/-- The text for a piece at the head of a pattern is woven. -/
theorem woven_plainPiece {c : Char} {rest more : List Char} (woven : Woven more) :
    Woven ((plainPiece c rest).written ++ more) := by
  unfold plainPiece
  split
  · exact woven.literal _
  · exact woven.anyText
  · exact woven.anyChar
  · split
    · rename_i content after found
      have written : (Piece.bracket content).written = bracketText content := rfl
      rw [written]
      rcases bracketText_cases found with nothing | any | ⟨members, whole, -, unclosing⟩
      · rw [nothing]
        exact woven.nothing
      · rw [any]
        exact woven.anyChar
      · rw [whole, List.cons_append, List.append_assoc]
        exact woven.set unclosing
    · exact woven.literal '['
  · exact woven.literal _

theorem woven_written (pattern : List Char) : Woven (written pattern) := by
  have pieces : ∀ skip, Woven ((piecesAfter false skip pattern).flatMap Piece.written) := by
    induction pattern with
    | nil =>
      intro skip
      simpa [piecesAfter] using Woven.nil
    | cons c rest inductionHypothesis =>
      intro skip
      cases skip with
      | zero => exact woven_plainPiece (inductionHypothesis _)
      | succ skip => exact inductionHypothesis skip
  exact pieces 0

theorem Woven.closed {text : List Char} (woven : Woven text) : endsOpen text = false := by
  induction woven with
  | nil => rfl
  | literal c _ inductionHypothesis =>
    rw [endsOpen_append (unclosing_literalText c).closed, inductionHypothesis]
  | anyChar _ inductionHypothesis => exact inductionHypothesis
  | anyText _ inductionHypothesis => exact inductionHypothesis
  | nothing _ inductionHypothesis => exact inductionHypothesis
  | set _ _ inductionHypothesis =>
    rw [endsOpen_cons (by decide), endsOpen_append_of_plain (by decide), inductionHypothesis]

/-- Behind a closing bracket, a woven text is woven. -/
theorem Woven.cut {used rest : List Char} (woven : Woven (used ++ ']' :: rest))
    (closed : endsOpen used = false) : Woven rest := by
  generalize whole : used ++ ']' :: rest = text at woven
  induction woven generalizing used with
  | nil => simp at whole
  | literal c _ inductionHypothesis =>
    obtain ⟨more, same, open_⟩ := (unclosing_literalText c).cut closed whole
    exact inductionHypothesis open_ same.symm
  | anyChar _ inductionHypothesis =>
    have front : Unclosing ['.'] := ⟨by decide, by decide⟩
    obtain ⟨more, same, open_⟩ := front.cut closed whole
    exact inductionHypothesis open_ same.symm
  | anyText _ inductionHypothesis =>
    have front : Unclosing ['.', '*'] := ⟨by decide, by decide⟩
    obtain ⟨more, same, open_⟩ := front.cut closed whole
    exact inductionHypothesis open_ same.symm
  | nothing _ inductionHypothesis =>
    have front : Unclosing ['(', '?', '!', ')'] := ⟨by decide, by decide⟩
    obtain ⟨more, same, open_⟩ := front.cut closed whole
    exact inductionHypothesis open_ same.symm
  | @set members left unclosing woven inductionHypothesis =>
    have front : Unclosing ('[' :: members) := unclosing.cons (by decide) (by decide)
    obtain ⟨more, same, open_⟩ := front.cut closed whole
    cases more with
    | nil =>
      obtain ⟨-, rfl⟩ := List.cons.inj same
      exact woven
    | cons c more =>
      obtain ⟨rfl, inside⟩ := List.cons.inj same
      rw [endsOpen_cons (by decide)] at open_
      exact inductionHypothesis open_ inside.symm

end Weaving

section Reading

open Regex (build? Group)

/-- The text is read as these pieces up to the tail. -/
inductive Scans (tail : List Char) : List Char → List Token → Prop
  | done : Scans tail tail []
  | step {c : Char} {part rest : List Char} {token : Token} {tokens : List Token}
      (reads : Regex.token? (c :: part ++ rest) = some (token, rest))
      (others : Scans tail rest tokens) : Scans tail (c :: part ++ rest) (token :: tokens)

namespace Scans

variable {tail middle text : List Char} {first second : List Token}

theorem one {c : Char} {part : List Char} {token : Token}
    (reads : Regex.token? (c :: part ++ tail) = some (token, tail)) :
    Scans tail (c :: part ++ tail) [token] := .step reads .done

theorem trans (front : Scans middle text first) (rest : Scans tail middle second) :
    Scans tail text (first ++ second) := by
  induction front with
  | done => exact rest
  | step reads _ inductionHypothesis => exact .step reads inductionHypothesis

theorem lexed (scans : Scans tail text first) (rest : Lexed tail second) :
    Lexed text (first ++ second) := by
  induction scans with
  | done => exact rest
  | step reads _ inductionHypothesis => exact .cons reads inductionHypothesis

/-- What is read up to a tail that is malformed is malformed. -/
theorem tokens?_eq_none (scans : Scans tail text first)
    (malformed : ∀ fuel, Regex.tokens? fuel tail = none) (fuel : Nat) :
    Regex.tokens? fuel text = none := by
  induction scans generalizing fuel with
  | done => exact malformed fuel
  | step reads _ inductionHypothesis =>
    cases fuel with
    | zero => rfl
    | succ fuel =>
      rw [List.cons_append] at reads ⊢
      rw [Regex.tokens?, reads, Option.bind_some]
      · change (Regex.tokens? fuel _).map _ = none
        rw [inductionHypothesis]
        rfl
      · exact List.cons_ne_nil _ _

end Scans

/-- Literal text: it closes no character set, and does not begin with the mark for few rounds. -/
structure Follows (tail : List Char) : Prop where
  sealed : hasCloser tail = false
  greedy : tail.head? ≠ some '?'

/-- In front of literal text, the text is read as these pieces, and they build these expressions,
which recognise the language. -/
structure Reads (text : List Char) (tokens : List Token) (parts : List Regex)
    (language : Language Char) : Prop where
  scans : ∀ {tail}, Follows tail → Scans tail (text ++ tail) tokens
  built : ∀ inner outer rest, build? inner outer (tokens ++ rest) =
    build? { inner with parts := parts.reverse ++ inner.parts } outer rest
  recognizes : Recognizes (seqAll parts) language

/-- In front of literal text, the text is no regular expression. -/
def Malformed (text : List Char) : Prop :=
  ∀ tail fuel, Follows tail → Regex.tokens? fuel (text ++ tail) = none

/-- Wherever no mark for few rounds follows, the text is read as these pieces, and they build one
expression, which recognises the language. -/
structure ReadsPart (text : List Char) (tokens : List Token) (part : Regex)
    (language : Language Char) : Prop where
  scans : ∀ {tail}, tail.head? ≠ some '?' → Scans tail (text ++ tail) tokens
  built : ∀ inner outer rest,
    build? inner outer (tokens ++ rest) = build? (inner.push part) outer rest
  recognizes : Recognizes part language

/-- The text is read in front of every literal text, or in front of none. -/
def Settled (text : List Char) : Prop :=
  (∃ tokens parts language, Reads text tokens parts language) ∨ Malformed text

theorem settled_nil : Settled [] :=
  .inl ⟨[], [], 1, fun _ => .done, fun _ _ _ => rfl, recognizes_empty⟩

theorem literalText_head (c : Char) (rest : List Char) :
    (literalText c ++ rest).head? ≠ some '?' := by
  by_cases special : c ∈ regexSpecials
  · simp [literalText, special]
  · have lazy : c ≠ '?' := by
      rintro rfl
      exact special (by decide)
    simp [literalText, special, lazy]

theorem Woven.head {text : List Char} (woven : Woven text) {tail : List Char}
    (follows : Follows tail) : (text ++ tail).head? ≠ some '?' := by
  cases woven with
  | nil => exact follows.greedy
  | literal c _ =>
    rw [List.append_assoc]
    exact literalText_head c _
  | _ => simp

theorem Reads.prepend {front rest : List Char} {first tokens : List Token} {part : Regex}
    {parts : List Regex} {left right : Language Char} (reads : ReadsPart front first part left)
    (greedy : ∀ {tail}, Follows tail → (rest ++ tail).head? ≠ some '?')
    (others : Reads rest tokens parts right) :
    Reads (front ++ rest) (first ++ tokens) (part :: parts) (left * right) where
  scans follows := by
    rw [List.append_assoc]
    exact (reads.scans (greedy follows)).trans (others.scans follows)
  built inner outer rest := by
    rw [List.append_assoc, reads.built, others.built]
    simp [Group.push]
  recognizes := reads.recognizes.seqAll_cons others.recognizes

theorem Reads.cons {front rest : List Char} {first tokens : List Token} {part : Regex}
    {parts : List Regex} {left right : Language Char} (reads : ReadsPart front first part left)
    (woven : Woven rest) (others : Reads rest tokens parts right) :
    Reads (front ++ rest) (first ++ tokens) (part :: parts) (left * right) :=
  .prepend reads woven.head others

theorem Reads.append {front rest : List Char} {first second : List Token}
    {frontParts restParts : List Regex} {left right : Language Char}
    (reads : Reads front first frontParts left)
    (literal : ∀ {tail}, Follows tail → Follows (rest ++ tail))
    (others : Reads rest second restParts right) :
    Reads (front ++ rest) (first ++ second) (frontParts ++ restParts) (left * right) where
  scans follows := by
    rw [List.append_assoc]
    exact (reads.scans (literal follows)).trans (others.scans follows)
  built inner outer rest := by
    rw [List.append_assoc, reads.built, others.built]
    simp
  recognizes := reads.recognizes.seqAll_append others.recognizes

/-- One more piece in front leaves a text settled. -/
theorem ReadsPart.settled {front rest : List Char} {first : List Token} {part : Regex}
    {left : Language Char} (reads : ReadsPart front first part left) (woven : Woven rest)
    (settled : Settled rest) : Settled (front ++ rest) := by
  rcases settled with ⟨tokens, parts, language, others⟩ | malformed
  · exact .inl ⟨_, _, _, .cons reads woven others⟩
  · refine .inr fun tail fuel follows => ?_
    rw [List.append_assoc]
    exact (reads.scans (woven.head follows)).tokens?_eq_none
      (fun fuel => malformed tail fuel follows) fuel

theorem readsPart_literal (c : Char) : ReadsPart (literalText c) [.atom (.char c.toNat false)]
    (.char c.toNat false) (Atom.literal c).language where
  scans _ := by
    obtain ⟨first, part, text, reads⟩ := exists_token?_literal c
    rw [text]
    exact .one (reads _)
  built inner outer rest := by rw [List.singleton_append, build?]
  recognizes := recognizes_literal c

theorem readsPart_anyChar :
    ReadsPart ['.'] [.atom (.set .all)] (.set .all) Atom.anyChar.language where
  scans {tail} _ := @Scans.one tail '.' [] _ rfl
  built inner outer rest := by rw [List.singleton_append, build?]
  recognizes := recognizes_anyChar

/-- A star repeats the part in front of it. -/
theorem ReadsPart.star {text : List Char} {tokens : List Token} {part : Regex}
    {language : Language Char} (reads : ReadsPart text tokens part language)
    (repeats : ∀ inner : Group, (inner.push part).repeat? .any = some (inner.push (.star part))) :
    ReadsPart (text ++ ['*']) (tokens ++ [.repetition .any]) (.star part)
      (KStar.kstar language) where
  scans {tail} greedy := by
    have star : Regex.token? ('*' :: tail) = some (.repetition .any, tail) := by
      rw [Regex.token?, dropLazy_eq greedy]
    have front : ('*' :: tail).head? ≠ some '?' := by simp
    rw [List.append_assoc]
    exact (reads.scans front).trans (@Scans.one tail '*' [] _ star)
  built inner outer rest := by
    rw [List.append_assoc, reads.built, List.singleton_append]
    exact build?_repeat inner outer _ rest (repeats inner)
  recognizes := reads.recognizes.star

theorem readsPart_anyText : ReadsPart ['.', '*'] [.atom (.set .all), .repetition .any]
    (.star (.set .all)) Atom.anyText.language := by
  rw [← kstar_anyChar]
  exact readsPart_anyChar.star fun _ => rfl

theorem recognizes_notAhead_empty : Recognizes (.notAhead .empty) 0 where
  ascending _ _ ascending := ascending.filter _
  mem_ends text starts k _ := by
    simp [Regex.ends]

/-- A set without members is written as a refusal that always refuses. -/
theorem readsPart_nothing : ReadsPart ['(', '?', '!', ')'] [.opening true, .closing]
    (.notAhead .empty) 0 where
  scans {tail} _ := @Scans.step tail '(' ['?', '!'] _ _ _ rfl (@Scans.one tail ')' [] _ rfl)
  built inner outer rest := by
    rw [List.cons_append, build?, List.singleton_append, build?]
    rfl
  recognizes := recognizes_notAhead_empty

theorem readsPart_set {used : List Char} {negated : Bool} {items : List Regex.Item}
    (read : ∀ other, Regex.bracket? (used ++ ']' :: other) = some (ofItems negated items, other)) :
    ReadsPart ('[' :: (used ++ [']'])) [.atom (ofItems negated items)] (ofItems negated items)
      {word | ∃ c, (Regex.CharSet.found false items c != negated) = true ∧ word = [c]} where
  scans {tail} _ := by
    refine .one ?_
    have inner := read tail
    rw [List.cons_append, Regex.token?, List.append_assoc, List.singleton_append, inner]
    rfl
  built inner outer rest := by rw [List.singleton_append, build?]
  recognizes := recognizes_readOne fun text starts => ends_ofItems negated items text starts

theorem tokens?_set_eq_none {text : List Char} (unread : Regex.bracket? text = none) (fuel : Nat) :
    Regex.tokens? fuel ('[' :: text) = none := by
  cases fuel with
  | zero => rfl
  | succ fuel =>
    rw [Regex.tokens?, Regex.token?, unread]
    · rfl
    · exact List.cons_ne_nil _ _

/-- A woven text is read in front of every literal text, or in front of none. -/
theorem Woven.settled {text : List Char} (woven : Woven text) : Settled text := by
  induction size : text.length using Nat.strongRecOn generalizing text with
  | ind size shorter =>
    have later : ∀ {rest}, Woven rest → rest.length < text.length → Settled rest :=
      fun {rest} woven less => shorter rest.length (size ▸ less) woven rfl
    cases woven with
    | nil => exact settled_nil
    | literal c woven =>
      refine (readsPart_literal c).settled woven (later woven ?_)
      obtain ⟨first, part, text, -⟩ := exists_token?_literal c
      rw [text, List.length_append, List.length_cons]
      omega
    | anyChar woven =>
      refine readsPart_anyChar.settled woven (later woven ?_)
      rw [List.length_cons]
      omega
    | anyText woven =>
      refine readsPart_anyText.settled woven (later woven ?_)
      simp only [List.length_cons]
      omega
    | nothing woven =>
      refine readsPart_nothing.settled woven (later woven ?_)
      simp only [List.length_cons]
      omega
    | @set members rest unclosing woven =>
      have whole : Woven ('[' :: (members ++ ']' :: rest)) := woven.set unclosing
      have closed : endsOpen (members ++ ']' :: rest) = false := by
        rw [endsOpen_append_of_plain (by decide), woven.closed]
      by_cases readable : ∃ tail part, Follows tail ∧
          Regex.bracket? (members ++ ']' :: rest ++ tail) = some part
      · obtain ⟨tail, ⟨r, behind⟩, follows, read⟩ := readable
        obtain ⟨used, left, same, usedClosed, ⟨negated, items, rfl⟩, again⟩ :=
          Regex.bracket?_append closed follows.sealed read
        rw [same] at whole later ⊢
        have inner : Woven left := by
          have open_ : endsOpen ('[' :: used) = false := by
            rw [endsOpen_cons (by decide), usedClosed]
          exact whole.cut open_
        have shorter : left.length < ('[' :: (used ++ ']' :: left)).length := by
          simp only [List.length_cons, List.length_append]
          omega
        have settled := (readsPart_set again).settled inner (later inner shorter)
        rwa [List.cons_append, List.append_assoc] at settled
      · refine .inr fun tail fuel follows => ?_
        have unread : Regex.bracket? (members ++ ']' :: rest ++ tail) = none := by
          rw [Option.eq_none_iff_forall_ne_some]
          exact fun part read => readable ⟨tail, part, follows, read⟩
        exact tokens?_set_eq_none unread fuel

end Reading

section Matching

theorem woven_literals (text : List Char) : Woven (text.flatMap literalText) := by
  induction text with
  | nil => exact .nil
  | cons c text inductionHypothesis => exact inductionHypothesis.literal c

theorem reads_literals (text : List Char) : ∃ tokens parts,
    Reads (text.flatMap literalText) tokens parts (Atom.languageOf (text.map Atom.literal)) := by
  induction text with
  | nil =>
    rw [List.map_nil, Atom.languageOf]
    exact ⟨[], [], fun _ => .done, fun _ _ _ => rfl, recognizes_empty⟩
  | cons c text inductionHypothesis =>
    obtain ⟨tokens, parts, others⟩ := inductionHypothesis
    rw [List.map_cons, Atom.languageOf]
    exact ⟨_, _, .cons (readsPart_literal c) (woven_literals text) others⟩

theorem follows_end : Follows ['$'] := ⟨by decide, by decide⟩

/-- Literal text in front of literal text. -/
theorem Follows.literals {tail : List Char} (follows : Follows tail) (text : List Char) :
    Follows (text.flatMap literalText ++ tail) where
  sealed := by
    induction text with
    | nil => exact follows.sealed
    | cons c text inductionHypothesis =>
      rw [List.flatMap_cons, List.append_assoc, hasCloser_append (unclosing_literalText c).closed,
        (unclosing_literalText c).sealed, inductionHypothesis]
      rfl
  greedy := (woven_literals text).head follows

variable {pattern text literal word : List Char}

theorem parse?_between (text : List Char) :
    Regex.parse? ('^' :: text ++ ['$']) =
      (Regex.tokens? (text ++ ['$']).length (text ++ ['$'])).bind (Regex.build? (.new false) []) :=
  rfl

/-- Between the marks of its start and its end, the text is read as the expressions in a row. -/
theorem Reads.parse? {tokens : List Token} {parts : List Regex} {language : Language Char}
    (reads : Reads text tokens parts language) :
    Regex.parse? ('^' :: text ++ ['$']) = some (seqAll (parts ++ [.atEnd])) := by
  have last : Lexed ['$'] [.atom .atEnd] := .one rfl .nil
  have lexed := (reads.scans follows_end).lexed last
  rw [parse?_between, lexed.tokens? (Nat.le_refl _), Option.bind_some, reads.built, Regex.build?,
    Regex.build?]
  simp [Regex.Group.body, Regex.Group.push, Regex.Group.new]

/-- Where the front of its expression can be read, a pattern matches what that front recognises,
followed by the literal text. -/
theorem accepts_iff_of_reads {tokens : List Token} {parts : List Regex} {language : Language Char}
    (reads : Reads text tokens parts language)
    (same : written pattern = text ++ literal.flatMap literalText) :
    accepts ⟨false, false⟩ pattern word = true ↔
      ∃ front ∈ language, word = front ++ literal := by
  obtain ⟨literalTokens, literalParts, others⟩ := reads_literals literal
  rw [Atom.languageOf_literals] at others
  have whole := reads.append (fun follows => follows.literals literal) others
  rw [← same] at whole
  have compiled : compile? ⟨false, false⟩ pattern =
      some ⟨false, (seqAll (parts ++ literalParts ++ [.atEnd])).matchesWhole false⟩ := by
    change Matcher.plain? ⟨false, false⟩ pattern = _
    rw [Matcher.plain?, regexText_false, whole.parse?]
    rfl
  rw [accepts, compiled]
  dsimp only
  rw [whole.recognizes.matchesWhole_iff, Language.mem_mul]
  constructor
  · rintro ⟨front, inside, _, rfl, rfl⟩
    exact ⟨front, inside, rfl⟩
  · rintro ⟨front, inside, rfl⟩
    exact ⟨front, inside, literal, rfl, rfl⟩

/-- A pattern whose expression is malformed matches what it spells. -/
theorem accepts_iff_of_malformed (malformed : Malformed text)
    (same : written pattern = text ++ literal.flatMap literalText) :
    accepts ⟨false, false⟩ pattern word = true ↔ word = unprotect pattern := by
  have parsed : Regex.parse? (regexText false pattern) = none := by
    rw [regexText_false, parse?_between, same, List.append_assoc,
      malformed _ _ (follows_end.literals literal)]
    rfl
  have compiled : compile? ⟨false, false⟩ pattern = none := by
    change Matcher.plain? ⟨false, false⟩ pattern = _
    rw [Matcher.plain?, parsed]
    rfl
  rw [accepts, compiled]
  simp

theorem unprotect_cons {c : Char} (plain : c ≠ '\\') (rest : List Char) :
    unprotect (c :: rest) = c :: unprotect rest := by
  rw [unprotect]
  intro _ _ same
  exact absurd same plain

theorem Spells.unprotect {tail meaning : List Char} (spells : Spells tail meaning) :
    unprotect tail = meaning := by
  induction spells with
  | nil => rfl
  | lone => rfl
  | escape c _ inductionHypothesis => exact congrArg (List.cons c) inductionHypothesis
  | plain ordinary _ inductionHypothesis =>
    rw [unprotect_cons, inductionHypothesis]
    rintro rfl
    exact ordinary (by decide)

theorem unprotect_append (closed : endsOpen text = false) (tail : List Char) :
    unprotect (text ++ tail) = unprotect text ++ unprotect tail := by
  induction text using Text.scanInduction with
  | nil => rfl
  | lone => contradiction
  | escape c rest inductionHypothesis => exact congrArg (List.cons c) (inductionHypothesis closed)
  | plain c rest plain inductionHypothesis =>
    rw [endsOpen_cons plain] at closed
    rw [List.cons_append, unprotect_cons plain, unprotect_cons plain, inductionHypothesis closed]
    rfl

/-- A pattern that leaves no backslash open, and literal text behind it, match what the pattern
matches, followed by that text. -/
theorem accepts_append_iff {tail meaning : List Char} (spells : Spells tail meaning)
    (closed : endsOpen text = false) :
    accepts ⟨false, false⟩ (text ++ tail) word = true ↔
      ∃ front, word = front ++ meaning ∧ accepts ⟨false, false⟩ text front = true := by
  have behind : written (text ++ tail) = written text ++ meaning.flatMap literalText :=
    written_append spells closed
  have alone : written text = written text ++ [].flatMap literalText := by simp
  rcases (woven_written text).settled with ⟨tokens, parts, language, reads⟩ | malformed
  · rw [accepts_iff_of_reads reads behind]
    simp only [accepts_iff_of_reads reads alone, List.append_nil, exists_eq_right']
    exact exists_congr fun front => and_comm
  · rw [accepts_iff_of_malformed malformed behind, unprotect_append closed, spells.unprotect]
    simp only [accepts_iff_of_malformed malformed alone, exists_eq_right]

/-- The texts that a pattern and protected text behind it should match. -/
def MatchesApart (pattern text : List Char) : Prop :=
  ∀ word, accepts ⟨false, false⟩ (pattern ++ protect text) word = true ↔
    ∃ front, word = front ++ text ∧ accepts ⟨false, false⟩ pattern front = true

theorem matchesApart_of_closed {pattern : List Char} (closed : endsOpen pattern = false)
    (text : List Char) : MatchesApart pattern text := fun _ =>
  accepts_append_iff (spells_protect text) closed

theorem matchesApart_nil (pattern : List Char) : MatchesApart pattern [] := by
  intro word
  simp [protect]

/-- An open backslash protects the first character behind it instead of standing for itself. So
nothing matches as it should, unless nothing matches. -/
theorem matchesApart_iff_of_open {pattern text : List Char} {c : Char}
    (isOpen : endsOpen pattern = true) (ordinary : c ∉ patternSpecials) :
    MatchesApart pattern (c :: text) ↔ ∀ front, accepts ⟨false, false⟩ pattern front = false := by
  obtain ⟨start, rfl, closed⟩ := Text.exists_of_endsOpen isOpen
  have source : start ++ ['\\'] ++ protect (c :: text) = start ++ '\\' :: c :: protect text := by
    simp [protect, ordinary]
  have joined : ∀ word,
      accepts ⟨false, false⟩ (start ++ ['\\'] ++ protect (c :: text)) word = true ↔
      ∃ front, word = front ++ c :: text ∧ accepts ⟨false, false⟩ start front = true := by
    intro word
    rw [source]
    exact accepts_append_iff ((spells_protect text).escape c) closed
  have alone : ∀ word, accepts ⟨false, false⟩ (start ++ ['\\']) word = true ↔
      ∃ front, word = front ++ ['\\'] ∧ accepts ⟨false, false⟩ start front = true :=
    fun _ => accepts_append_iff .lone closed
  constructor
  · intro apart
    -- Of the texts that the start matches, each would have a shorter one in front of a backslash.
    have none : ∀ size front, front.length = size → accepts ⟨false, false⟩ start front = false := by
      intro size
      induction size using Nat.strongRecOn with
      | ind size shorter =>
        intro front length
        by_contra matched
        have whole := (joined _).mpr ⟨front, rfl, by simpa using matched⟩
        obtain ⟨longer, same, matchedLonger⟩ := (apart _).mp whole
        obtain rfl := List.append_cancel_right same
        obtain ⟨less, rfl, matchedLess⟩ := (alone _).mp matchedLonger
        have unmatched := shorter less.length (by simp at length; omega) less rfl
        rw [matchedLess] at unmatched
        contradiction
    intro front
    by_contra matched
    obtain ⟨less, -, matchedLess⟩ := (alone front).mp (by simpa using matched)
    rw [none _ less rfl] at matchedLess
    contradiction
  · intro none word
    rw [joined]
    constructor
    · rintro ⟨front, rfl, matched⟩
      have whole := (alone _).mpr ⟨front, rfl, matched⟩
      rw [none] at whole
      contradiction
    · rintro ⟨front, -, matched⟩
      rw [none] at matched
      contradiction

end Matching

end Shell.Glob
