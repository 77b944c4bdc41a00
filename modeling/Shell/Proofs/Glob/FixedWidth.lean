import Shell.Glob.Matcher
import Shell.Proofs.Glob.Adjacency
import Shell.Proofs.Regex.Width

/-!
# The width of a pattern

Literal characters, wildcards for one character, brackets and choices between equally
wide patterns make a pattern that matches texts of one length. The regular expression of
such a pattern is as wide, with one exception: of a bracket that holds only unknown
classes and a caret, the caret alone is left, and is read as the mark of a complement
whose members are still to come. The set then ends where another one should.
-/

namespace Shell.Glob

open Text (endsOpen endsOpen_cons)
open Regex (build? Group HasWidth HaveWidth Token hasWidth_ofItems seqAll)

section Carets

/-- A bracket is left with nothing but a caret, in the piece itself or, as `inner` says, in an
alternative. -/
def Piece.leavesCaret (inner : List Char → Bool) : Piece → Bool
  | bracket content => bracketText content == ['[', '^', ']']
  | group _ body => (alternatives body).any inner
  | _ => false

/-- A bracket is left with nothing but a caret in a pattern in which groups are nested at most
`depth` deep. -/
def leavesCaretWithin (extended : Bool) : (depth : Nat) → List Char → Bool
  | 0, _ => false
  | depth + 1, pattern =>
    (pieces extended pattern).any (Piece.leavesCaret (leavesCaretWithin extended depth))

/-- A bracket of the pattern is left with nothing but a caret. -/
def leavesCaret (extended : Bool) (pattern : List Char) : Bool :=
  leavesCaretWithin extended (nesting pattern) pattern

end Carets

section Reading

/-- Whatever such tail follows, the text is read as the same pieces, which are as expected, or it is
malformed. -/
def Yields (Tail : List Char → Prop) (text : List Char) (Expected : List Token → Prop) : Prop :=
  (∃ tokens, (∀ tail, Tail tail → Scans tail (text ++ tail) tokens) ∧ Expected tokens) ∨
    ∀ tail fuel, Tail tail → Regex.tokens? fuel (text ++ tail) = none

theorem Yields.append {Middle Tail : List Char → Prop} {first second : List Char}
    {First Second Both : List Token → Prop} (front : Yields Middle first First)
    (rest : Yields Tail second Second) (fits : ∀ tail, Tail tail → Middle (second ++ tail))
    (both : ∀ tokens more, First tokens → Second more → Both (tokens ++ more)) :
    Yields Tail (first ++ second) Both := by
  rcases front with ⟨tokens, scans, expected⟩ | malformed
  · rcases rest with ⟨more, moreScans, moreExpected⟩ | malformed
    · refine .inl ⟨tokens ++ more, fun tail follows => ?_, both _ _ expected moreExpected⟩
      rw [List.append_assoc]
      exact (scans _ (fits tail follows)).trans (moreScans tail follows)
    · refine .inr fun tail fuel follows => ?_
      rw [List.append_assoc]
      exact (scans _ (fits tail follows)).tokens?_eq_none
        (fun fuel => malformed tail fuel follows) fuel
  · refine .inr fun tail fuel follows => ?_
    rw [List.append_assoc]
    exact malformed _ fuel (fits tail follows)

/-- One more piece in front. -/
theorem Yields.cons {Tail : List Char → Prop} {c : Char} {part text : List Char} {token : Token}
    {Expected : List Token → Prop}
    (reads : ∀ tail, Regex.token? (c :: part ++ tail) = some (token, tail))
    (rest : Yields Tail text fun tokens => Expected (token :: tokens)) :
    Yields Tail (c :: part ++ text) Expected := by
  have one : Yields (fun _ => True) (c :: part) (· = [token]) :=
    .inl ⟨_, fun tail _ => .one (reads tail), rfl⟩
  refine one.append rest (fun _ _ => trivial) ?_
  rintro _ more rfl expected
  exact expected

/-- No mark for few rounds comes first. -/
abbrev Greedy (tail : List Char) : Prop := tail.head? ≠ some '?'

/-- The pieces build expressions of this width. -/
def BuildsWide (n : Nat) (tokens : List Token) : Prop :=
  ∃ parts, HaveWidth parts n ∧ ∀ inner outer rest, build? inner outer (tokens ++ rest) =
    build? { inner with parts := parts.reverse ++ inner.parts } outer rest

/-- Whatever such tail follows, the text is read as expressions of this width, if at all. -/
abbrev Measures (Tail : List Char → Prop) (text : List Char) (n : Nat) : Prop :=
  Yields Tail text (BuildsWide n)

variable {Middle Tail : List Char → Prop} {text first second : List Char} {m n : Nat}

theorem measures_nil : Measures Tail [] 0 :=
  .inl ⟨[], fun _ _ => .done, [], .nil, fun _ _ _ => rfl⟩

theorem Measures.append (front : Measures Middle first m) (rest : Measures Tail second n)
    (fits : ∀ tail, Tail tail → Middle (second ++ tail)) :
    Measures Tail (first ++ second) (m + n) := by
  refine Yields.append front rest fits ?_
  rintro tokens more ⟨parts, wide, built⟩ ⟨others, othersWide, othersBuilt⟩
  refine ⟨parts ++ others, wide.append othersWide, fun inner outer rest => ?_⟩
  rw [List.append_assoc, built, othersBuilt]
  simp

theorem ReadsPart.measures {tokens : List Token} {part : Regex} {language : Language Char}
    (reads : ReadsPart text tokens part language) (wide : HasWidth part n) :
    Measures Greedy text n :=
  .inl ⟨tokens, fun _ greedy => reads.scans greedy, [part], .one wide, reads.built⟩

end Reading

section Characters

/-- The text of a regular expression for a piece that should match one character. -/
inductive OneText : List Char → Prop
  | literal (c : Char) : OneText (literalText c)
  | anyChar : OneText ['.']
  | nothing : OneText ['(', '?', '!', ')']
  | set {members : List Char} : members ≠ [] → Unclosing members →
      OneText ('[' :: (members ++ [']']))

namespace OneText

variable {text : List Char}

theorem woven (one : OneText text) {rest : List Char} (woven : Woven rest) :
    Woven (text ++ rest) := by
  cases one with
  | literal c => exact woven.literal c
  | anyChar => exact woven.anyChar
  | nothing => exact woven.nothing
  | set _ unclosing =>
    rw [List.cons_append, List.append_assoc]
    exact woven.set unclosing

/-- A text for one character measures one, unless it is left with nothing but a caret. -/
theorem measures (one : OneText text) (known : text ≠ ['[', '^', ']']) :
    Measures Greedy text 1 := by
  cases one with
  | literal c => exact (readsPart_literal c).measures (.char _ _)
  | anyChar => exact readsPart_anyChar.measures (.set _)
  | nothing => exact readsPart_nothing.measures (.nothing 1)
  | @set members nonempty unclosing =>
    have marked : members ≠ ['^'] := by
      rintro rfl
      exact known rfl
    rcases Regex.bracket?_members_or_none unclosing.closed unclosing.sealed nonempty marked with
      ⟨negated, items, read⟩ | unread
    · exact (readsPart_set read).measures (hasWidth_ofItems negated items)
    · refine .inr fun tail fuel _ => ?_
      rw [List.cons_append, List.append_assoc]
      exact tokens?_set_eq_none (unread tail) fuel

/-- What ends at a closing bracket ends with the text, or goes past it. -/
theorem cut (one : OneText text) {used left rest : List Char} (closed : endsOpen used = false)
    (whole : used ++ ']' :: left = text ++ rest) :
    left = rest ∨ ∃ more, endsOpen more = false ∧ more ++ ']' :: left = rest := by
  have past : ∀ {front}, Unclosing front → used ++ ']' :: left = front ++ rest →
      ∃ more, endsOpen more = false ∧ more ++ ']' :: left = rest := by
    intro front unclosing whole
    obtain ⟨more, same, open_⟩ := unclosing.cut closed whole
    exact ⟨more, open_, same.symm⟩
  cases one with
  | literal c => exact .inr (past (unclosing_literalText c) whole)
  | anyChar => exact .inr (past ⟨by decide, by decide⟩ whole)
  | nothing => exact .inr (past ⟨by decide, by decide⟩ whole)
  | @set members _ unclosing =>
    have front : Unclosing ('[' :: members) := unclosing.cons (by decide) (by decide)
    have inside : used ++ ']' :: left = '[' :: members ++ ']' :: rest := by simpa using whole
    obtain ⟨more, same, open_⟩ := front.cut closed inside
    cases more with
    | nil => exact .inl (List.cons.inj same).2.symm
    | cons c more =>
      obtain ⟨rfl, behind⟩ := List.cons.inj same
      rw [endsOpen_cons (by decide)] at open_
      exact .inr ⟨more, open_, behind.symm⟩

end OneText

variable {texts : List (List Char)}

theorem woven_flatten (each : ∀ text ∈ texts, OneText text) : Woven texts.flatten := by
  induction texts with
  | nil => exact .nil
  | cons text texts inductionHypothesis =>
    obtain ⟨one, each⟩ := List.forall_mem_cons.mp each
    exact one.woven (inductionHypothesis each)

/-- What ends at a closing bracket ends with one of the texts. -/
theorem exists_of_cut (each : ∀ text ∈ texts, OneText text) {used left : List Char}
    (closed : endsOpen used = false) (whole : used ++ ']' :: left = texts.flatten) :
    ∃ before text after, texts = before ++ text :: after ∧ left = after.flatten := by
  induction texts generalizing used with
  | nil => simp at whole
  | cons text texts inductionHypothesis =>
    obtain ⟨one, each⟩ := List.forall_mem_cons.mp each
    rcases one.cut closed whole with rfl | ⟨more, open_, behind⟩
    · exact ⟨[], text, texts, rfl, rfl⟩
    · obtain ⟨before, last, after, rfl, same⟩ := inductionHypothesis each open_ behind
      exact ⟨text :: before, last, after, rfl, same⟩

/-- A caret alone is followed by a closing bracket that is a member, so its set takes in at least
one further text. -/
theorem exists_of_caret (each : ∀ text ∈ texts, OneText text) {tail : List Char} {part}
    (follows : Follows tail)
    (read : Regex.bracket? ('^' :: ']' :: texts.flatten ++ tail) = some part) :
    ∃ before text after front, texts = before ++ text :: after ∧
      '[' :: '^' :: ']' :: texts.flatten = front ++ after.flatten ∧ Measures Greedy front 1 := by
  obtain ⟨r, behind⟩ := part
  have closed : endsOpen ('^' :: ']' :: texts.flatten) = false := by
    rw [endsOpen_cons (by decide), endsOpen_cons (by decide), (woven_flatten each).closed]
  obtain ⟨used, left, whole, usedClosed, ⟨negated, items, rfl⟩, again⟩ :=
    Regex.bracket?_append closed follows.sealed read
  obtain ⟨more, rfl, rest⟩ : ∃ more, used = '^' :: ']' :: more ∧
      more ++ ']' :: left = texts.flatten := by
    match used with
    | [] => simp at whole
    | ['^'] =>
      have alone := again []
      contradiction
    | c :: d :: more =>
      simp only [List.cons_append, List.cons.injEq] at whole
      obtain ⟨rfl, rfl, same⟩ := whole
      exact ⟨more, rfl, same.symm⟩
  have open_ : endsOpen more = false := by
    rwa [endsOpen_cons (by decide), endsOpen_cons (by decide)] at usedClosed
  obtain ⟨before, text, after, split, rfl⟩ := exists_of_cut each open_ rest
  refine ⟨before, text, after, _, split, ?_,
    (readsPart_set again).measures (hasWidth_ofItems negated items)⟩
  rw [← rest]
  simp

theorem exists_measures_caret (each : ∀ text ∈ texts, OneText text)
    (shorter : ∀ after : List (List Char), after.length < texts.length →
      (∀ text ∈ after, OneText text) → ∃ n ≤ after.length, Measures Follows after.flatten n) :
    ∃ n ≤ texts.length, Measures Follows ('[' :: '^' :: ']' :: texts.flatten) n := by
  by_cases readable : ∃ tail part, Follows tail ∧
      Regex.bracket? ('^' :: ']' :: texts.flatten ++ tail) = some part
  · obtain ⟨tail, part, follows, read⟩ := readable
    obtain ⟨before, last, after, front, rfl, whole, measured⟩ := exists_of_caret each follows read
    have afterEach : ∀ text ∈ after, OneText text := fun text member => each text (by simp [member])
    obtain ⟨n, most, afterMeasured⟩ := shorter after (by simp; omega) afterEach
    refine ⟨1 + n, ?_, ?_⟩
    · simp only [List.length_append, List.length_cons]
      omega
    · rw [whole]
      exact Measures.append measured afterMeasured fun tail follows =>
        (woven_flatten afterEach).head follows
  · refine ⟨0, Nat.zero_le _, .inr fun tail fuel follows => tokens?_set_eq_none ?_ fuel⟩
    rw [Option.eq_none_iff_forall_ne_some]
    exact fun part read => readable ⟨tail, part, follows, read⟩

/-- Texts for one character each measure at most their number, and less if one of them is left with
nothing but a caret. -/
theorem exists_measures_flatten (each : ∀ text ∈ texts, OneText text) :
    ∃ n ≤ texts.length, Measures Follows texts.flatten n ∧
      (['[', '^', ']'] ∈ texts → n < texts.length) := by
  -- The set of a caret alone may take in several texts at once, so the induction is on their
  -- number.
  induction size : texts.length using Nat.strongRecOn generalizing texts with
  | ind size shorter =>
    subst size
    cases texts with
    | nil => exact ⟨0, Nat.le_refl _, measures_nil, by simp⟩
    | cons text texts =>
      obtain ⟨one, later⟩ := List.forall_mem_cons.mp each
      by_cases known : text = ['[', '^', ']']
      · subst known
        obtain ⟨n, most, measured⟩ := exists_measures_caret later fun after less afterEach => by
          obtain ⟨n, most, measured, -⟩ :=
            shorter after.length (Nat.lt_succ_of_lt less) afterEach rfl
          exact ⟨n, most, measured⟩
        exact ⟨n, Nat.le_succ_of_le most, measured, fun _ => Nat.lt_succ_of_le most⟩
      · obtain ⟨n, most, measured, less⟩ := shorter texts.length (Nat.lt_succ_self _) later rfl
        rw [List.length_cons, Nat.add_comm]
        refine ⟨1 + n, Nat.add_le_add_left most 1, ?_, fun member => ?_⟩
        · exact Measures.append (one.measures known) measured fun tail follows =>
            (woven_flatten later).head follows
        · rcases List.mem_cons.mp member with same | member
          · exact absurd same.symm known
          · exact Nat.add_lt_add_left (less member) 1

end Characters

section Choices

/-- A group that is being read is no refusal, and its alternatives are equally wide. -/
structure Even (group : Group) (n : Nat) : Prop where
  asserts : group.refusal = false
  alternatives : ∀ r ∈ group.alternatives, HasWidth r n
  parts : HaveWidth group.parts.reverse n

theorem Even.regex {group : Group} {n : Nat} (even : Even group n) : HasWidth group.regex n := by
  have last : HasWidth (seqAll group.parts.reverse) n := even.parts.seqAll
  have body : HasWidth group.body n := by
    have each := even.alternatives
    unfold Group.body
    cases alternatives : group.alternatives with
    | nil => exact last
    | cons first rest =>
      rw [alternatives] at each
      obtain ⟨wide, each⟩ := List.forall_mem_cons.mp each
      refine Regex.hasWidth_altAll wide fun other member => ?_
      rcases List.mem_append.mp member with member | member
      · exact each other member
      · rwa [List.mem_singleton.mp member]
  rw [Group.regex, even.asserts]
  exact body.group

/-- Another alternative as wide as those before it. -/
theorem Even.turn {group : Group} {n : Nat} (even : Even group n) {parts : List Regex}
    (wide : HaveWidth parts n) : Even { group.turn with parts := parts.reverse } n where
  asserts := even.asserts
  alternatives r member := by
    rcases List.mem_append.mp member with member | member
    · exact even.alternatives r member
    · rw [List.mem_singleton.mp member]
      exact even.parts.seqAll
  parts := by rwa [List.reverse_reverse]

/-- The pieces add alternatives to a group, all as wide as those in it. -/
def KeepsEven (n : Nat) (tokens : List Token) : Prop :=
  ∀ group, Even group n → ∃ read, Even read n ∧
    ∀ outer rest, build? group outer (tokens ++ rest) = build? read outer rest

variable {first : List Char} {others : List (List Char)} {n : Nat}

theorem bars_head (others : List (List Char)) {tail : List Char} (greedy : Greedy tail) :
    Greedy (others.flatMap ('|' :: ·) ++ tail) := by
  cases others with
  | nil => exact greedy
  | cons => simp

/-- Further alternatives, each behind a bar. -/
theorem yields_bars (each : ∀ text ∈ others, Measures Greedy text n) :
    Yields Greedy (others.flatMap ('|' :: ·)) (KeepsEven n) := by
  induction others with
  | nil => exact .inl ⟨[], fun _ _ => .done, fun group even => ⟨group, even, fun _ _ => rfl⟩⟩
  | cons text others inductionHypothesis =>
    obtain ⟨measured, each⟩ := List.forall_mem_cons.mp each
    have inside : Yields Greedy (text ++ others.flatMap ('|' :: ·))
        fun tokens => KeepsEven n (.bar :: tokens) := by
      refine Yields.append measured (inductionHypothesis each) (fun tail greedy => ?_) ?_
      · exact bars_head others greedy
      · rintro tokens more ⟨parts, wide, built⟩ keeps group even
        obtain ⟨read, readEven, same⟩ := keeps { group.turn with parts := parts.reverse }
          (even.turn wide)
        refine ⟨read, readEven, fun outer rest => ?_⟩
        rw [List.cons_append, List.append_assoc, build?, built, ← same]
        simp [Group.turn]
    exact @Yields.cons Greedy '|' [] _ _ _ (fun _ => rfl) inside

/-- A choice between alternatives that are equally wide is as wide as they are. -/
theorem measures_choice {alternatives : List (List Char)} (nonempty : alternatives ≠ [])
    (each : ∀ text ∈ alternatives, Measures Greedy text n) :
    Measures Greedy (GroupKind.one.wrap (joinBars alternatives)) n := by
  obtain ⟨first, others, rfl⟩ := List.exists_cons_of_ne_nil nonempty
  obtain ⟨measured, each⟩ := List.forall_mem_cons.mp each
  have choice : Yields Greedy (first ++ others.flatMap ('|' :: ·)) fun tokens =>
      ∃ read, Even read n ∧
        ∀ outer rest, build? (.new false) outer (tokens ++ rest) = build? read outer rest := by
    refine Yields.append measured (yields_bars each) (fun tail => bars_head others) ?_
    rintro tokens more ⟨parts, wide, built⟩ keeps
    obtain ⟨read, even, same⟩ := keeps { Group.new false with parts := parts.reverse }
      ⟨rfl, by simp [Group.new], by rwa [List.reverse_reverse]⟩
    refine ⟨read, even, fun outer rest => ?_⟩
    rw [List.append_assoc, built, ← same]
    simp [Group.new]
  have close : Yields Greedy [')'] (· = [.closing]) :=
    .inl ⟨_, fun tail _ => @Scans.one tail ')' [] _ rfl, rfl⟩
  have inside : Yields Greedy (first ++ others.flatMap ('|' :: ·) ++ [')']) fun tokens =>
      BuildsWide n (.opening false :: tokens) := by
    refine choice.append close (fun tail _ => by simp) ?_
    rintro tokens _ ⟨read, even, built⟩ rfl
    refine ⟨[read.regex], .one even.regex, fun inner outer rest => ?_⟩
    rw [List.cons_append, List.append_assoc, build?, built, List.singleton_append, build?]
    rfl
  rw [wrap_eq (by decide), joinBars_cons, List.append_assoc]
  exact @Yields.cons Greedy '(' ['?', ':'] _ _ _ (fun _ => rfl) inside

end Choices

section Pieces

variable {extended : Bool} {pattern : List Char} {piece : Piece} {m n : Nat}

/-- What is in a bracket of a pattern was found as such. -/
theorem exists_bracket?_of_mem {content : List Char}
    (member : .bracket content ∈ pieces extended pattern) :
    ∃ text after, bracket? text = some (content, after) := by
  obtain ⟨c, rest, same⟩ := exists_headPiece member
  have plain : plainPiece c rest = .bracket content := by
    unfold headPiece at same
    split at same
    · cases grouped : group? c rest with
      | none => rw [same, grouped, Option.getD_none]
      | some piece =>
        -- What is found as a group is no bracket.
        rw [grouped] at same
        unfold group? at grouped
        split at grouped
        · obtain ⟨_, _, rfl⟩ := Option.map_eq_some_iff.mp grouped
          contradiction
        · contradiction
    · exact same.symm
  unfold plainPiece at plain
  split at plain
  · contradiction
  · contradiction
  · contradiction
  · split at plain
    · rename_i inner after found
      cases plain
      exact ⟨_, after, found⟩
    · contradiction
  · contradiction

theorem regexText_head (piece : Piece) (inner : List Char → List Char) (rest : List Char) :
    Greedy (piece.regexText .free inner ++ rest) := by
  cases piece with
  | char c => exact literalText_head c rest
  | escaped c => exact literalText_head c rest
  | anyText => simp [Piece.regexText, Wildcards.free]
  | anyChar => simp [Piece.regexText, Wildcards.free]
  | bracket content =>
    rw [Piece.regexText]
    unfold bracketText
    dsimp only
    split <;> simp
  | group kind body =>
    have opened : "(?:".toList = ['(', '?', ':'] := by decide
    have refused : "(?:(?!".toList = ['(', '?', ':', '(', '?', '!'] := by decide
    rw [Piece.regexText]
    unfold GroupKind.wrap
    rw [opened, refused]
    cases kind <;> simp

/-- A piece that is no group and has a width stands for one character. -/
theorem oneText_of_mem_pieces (member : piece ∈ pieces extended pattern)
    {inner : List Char → Option Nat} (wide : piece.width? inner = some n)
    (single : ∀ kind body, piece ≠ .group kind body) (texts : List Char → List Char) :
    n = 1 ∧ OneText (piece.regexText .free texts) := by
  cases piece with
  | char c => exact ⟨(Option.some.inj wide).symm, .literal c⟩
  | escaped c => exact ⟨(Option.some.inj wide).symm, .literal c⟩
  | anyText => contradiction
  | anyChar => exact ⟨(Option.some.inj wide).symm, .anyChar⟩
  | bracket content =>
    refine ⟨(Option.some.inj wide).symm, ?_⟩
    obtain ⟨text, after, found⟩ := exists_bracket?_of_mem member
    rw [Piece.regexText]
    rcases bracketText_cases found with nothing | any | ⟨members, whole, nonempty, unclosing⟩
    · rw [nothing]
      exact .nothing
    · rw [any]
      exact .anyChar
    · rw [whole]
      exact .set nonempty unclosing
  | group kind body => exact absurd rfl (single kind body)

theorem eq_of_common? {widths : List (Option Nat)} (common : common? widths = some n) :
    ∀ width ∈ widths, width = some n := by
  cases widths with
  | nil => contradiction
  | cons first rest =>
    rw [common?] at common
    split at common
    · rename_i same
      subst common
      simpa using same
    · contradiction

theorem exists_of_total? {first : Option Nat} {rest : List (Option Nat)}
    (total : total? (first :: rest) = some n) :
    ∃ m k, first = some m ∧ total? rest = some k ∧ n = m + k := by
  obtain ⟨m, known, rest⟩ := Option.bind_eq_some_iff.mp total
  obtain ⟨k, restKnown, rfl⟩ := Option.map_eq_some_iff.mp rest
  exact ⟨m, k, known, restKnown, rfl⟩

/-- A piece that is no group leaves a caret alone exactly if its text is that of the set. -/
theorem leavesCaret_iff (single : ∀ kind body, piece ≠ .group kind body) (inner : List Char → Bool)
    (texts : List Char → List Char) :
    piece.leavesCaret inner = true ↔ piece.regexText .free texts = ['[', '^', ']'] := by
  have literal : ∀ c, literalText c ≠ ['[', '^', ']'] := by
    intro c
    unfold literalText
    split <;> simp
  cases piece with
  | char c => exact iff_of_false Bool.false_ne_true (literal c)
  | escaped c => exact iff_of_false Bool.false_ne_true (literal c)
  | anyText => exact iff_of_false Bool.false_ne_true (by simp [Piece.regexText, Wildcards.free])
  | anyChar => exact iff_of_false Bool.false_ne_true (by simp [Piece.regexText, Wildcards.free])
  | bracket content => exact beq_iff_eq
  | group kind body => exact absurd rfl (single kind body)

theorem measures_pieces {pieces : List Piece} {inner : List Char → Option Nat}
    {texts : List Char → List Char}
    (each : ∀ piece ∈ pieces, ∀ {m}, piece.width? inner = some m →
      Measures Greedy (piece.regexText .free texts) m)
    (total : total? (pieces.map (Piece.width? inner)) = some n) :
    Measures Greedy (pieces.flatMap (Piece.regexText .free texts)) n := by
  induction pieces generalizing n with
  | nil =>
    obtain rfl := Option.some.inj total
    exact measures_nil
  | cons piece pieces inductionHypothesis =>
    obtain ⟨m, k, wide, rest, rfl⟩ := exists_of_total? total
    refine Measures.append (each piece List.mem_cons_self wide)
      (inductionHypothesis (fun piece member => each piece (List.mem_cons_of_mem _ member)) rest) ?_
    intro tail greedy
    cases pieces with
    | nil => exact greedy
    | cons next pieces =>
      rw [List.map_cons, List.flatten_cons, List.append_assoc]
      exact regexText_head next texts _

/-- The text for a pattern measures what the pattern is wide, if no caret is left alone. -/
theorem measures_bodyText {depth : Nat} (wide : widthWithin? extended depth pattern = some n)
    (known : leavesCaretWithin extended depth pattern = false) :
    Measures Greedy (bodyText .free extended depth pattern) n := by
  induction depth generalizing pattern n with
  | zero => contradiction
  | succ depth inductionHypothesis =>
    refine measures_pieces (fun piece member m wide => ?_) wide
    have known : piece.leavesCaret (leavesCaretWithin extended depth) = false := by
      simpa using List.any_eq_false.mp known piece member
    by_cases single : ∀ kind body, piece ≠ .group kind body
    · obtain ⟨rfl, one⟩ := oneText_of_mem_pieces member wide single _
      refine one.measures fun caret => ?_
      rw [(leavesCaret_iff single _ _).mpr caret] at known
      contradiction
    · simp only [not_forall, not_not] at single
      obtain ⟨kind, body, rfl⟩ := single
      -- Only a choice has a width, and then all its alternatives have the same.
      cases kind with
      | one =>
        refine measures_choice ?_ fun text among => ?_
        · simp [alternatives, alternativesFrom_ne_nil]
        obtain ⟨alternative, inside, rfl⟩ := List.mem_map.mp among
        refine inductionHypothesis (eq_of_common? wide _ (List.mem_map_of_mem inside)) ?_
        simpa using List.any_eq_false.mp known alternative inside
      | _ => contradiction

theorem eq_length_of_total? {pieces : List Piece} {inner : List Char → Option Nat}
    (each : ∀ piece ∈ pieces, ∀ {m}, piece.width? inner = some m → m = 1)
    (total : total? (pieces.map (Piece.width? inner)) = some n) : n = pieces.length := by
  induction pieces generalizing n with
  | nil => exact (Option.some.inj total).symm
  | cons piece pieces inductionHypothesis =>
    obtain ⟨m, k, wide, rest, rfl⟩ := exists_of_total? total
    obtain rfl := each piece List.mem_cons_self wide
    rw [inductionHypothesis (fun piece member => each piece (List.mem_cons_of_mem _ member)) rest,
      List.length_cons, Nat.add_comm]

theorem width?_of_total? {pieces : List Piece} {inner : List Char → Option Nat}
    (total : total? (pieces.map (Piece.width? inner)) = some n) :
    ∀ piece ∈ pieces, ∃ m, piece.width? inner = some m := by
  induction pieces generalizing n with
  | nil => simp
  | cons piece pieces inductionHypothesis =>
    obtain ⟨m, k, wide, rest, rfl⟩ := exists_of_total? total
    exact List.forall_mem_cons.mpr ⟨⟨m, wide⟩, inductionHypothesis rest⟩

/-- The text for a pattern without groups measures less than the pattern is wide, if a caret is left
alone. -/
theorem exists_measures_bodyText {depth : Nat}
    (ungrouped : ∀ kind body, .group kind body ∉ pieces extended pattern)
    (wide : widthWithin? extended depth pattern = some n)
    (caret : leavesCaretWithin extended depth pattern = true) :
    ∃ m < n, Measures Follows (bodyText .free extended depth pattern) m := by
  cases depth with
  | zero => contradiction
  | succ depth =>
    have single : ∀ piece ∈ pieces extended pattern, ∀ kind body, piece ≠ .group kind body := by
      rintro piece member kind body rfl
      exact ungrouped kind body member
    have size := eq_length_of_total? (fun piece member {_} wide =>
      (oneText_of_mem_pieces member wide (single piece member)
        (bodyText .free extended depth)).1) wide
    have each : ∀ text ∈ (pieces extended pattern).map
        (Piece.regexText .free (bodyText .free extended depth)), OneText text := by
      intro text among
      obtain ⟨piece, member, rfl⟩ := List.mem_map.mp among
      obtain ⟨m, wide⟩ := width?_of_total? wide piece member
      exact (oneText_of_mem_pieces member wide (single piece member) _).2
    obtain ⟨piece, member, alone⟩ := List.any_eq_true.mp caret
    obtain ⟨m, -, measured, less⟩ := exists_measures_flatten each
    have text := (leavesCaret_iff (single piece member) _ (bodyText .free extended depth)).mp alone
    have strictly := less (List.mem_map.mpr ⟨piece, member, text⟩)
    rw [List.length_map, ← size] at strictly
    refine ⟨m, strictly, ?_⟩
    rwa [← List.flatMap_def] at measured

end Pieces

section Matching

variable {mode : Mode} {pattern : List Char} {matcher : Matcher} {n : Nat}

theorem negation?_of_width? {pieces : List Piece} {inner : List Char → Option Nat}
    (wide : ∀ piece ∈ pieces, ∃ m, piece.width? inner = some m) : negation? pieces = none := by
  induction pieces with
  | nil => rfl
  | cons piece pieces inductionHypothesis =>
    obtain ⟨⟨m, pieceWide⟩, wide⟩ := List.forall_mem_cons.mp wide
    rw [negation?, inductionHypothesis wide]
    · rfl
    · rintro body rfl
      contradiction

/-- A pattern that has a width is matched by its regular expression. -/
theorem plain?_of_width? (compiled : compile? mode pattern = some matcher)
    (measured : width? mode.extended pattern = some n) :
    Matcher.plain? mode pattern = some matcher := by
  have unrefused : (if mode.extended then negation? (pieces true pattern) else none) = none := by
    split
    · rename_i extended
      rw [width?, extended] at measured
      exact negation?_of_width? (width?_of_total? measured)
    · rfl
  rwa [compile?, nesting, compileWithin?, unrefused] at compiled

/-- A matcher accepts texts as long as the text of the regular expression measures. -/
theorem length_eq_of_measures {Tail : List Char → Prop} (follows : Tail ['$'])
    (measured : Measures Tail (bodyText .free mode.extended (nesting pattern) pattern) n)
    (compiled : Matcher.plain? mode pattern = some matcher) {text : List Char}
    (accepted : matcher.accepts text = true) : text.length = n := by
  obtain ⟨regex, parsed, rfl⟩ := Option.map_eq_some_iff.mp compiled
  have parsed : (Regex.tokens?
      (bodyText .free mode.extended (nesting pattern) pattern ++ ['$']).length
      (bodyText .free mode.extended (nesting pattern) pattern ++ ['$'])).bind
      (build? (.new false) []) = some regex := parsed
  rcases measured with ⟨tokens, scans, parts, wide, built⟩ | malformed
  · have lexed := (scans _ follows).lexed (.one rfl .nil)
    rw [lexed.tokens? (Nat.le_refl _), Option.bind_some, built, build?, build?] at parsed
    obtain rfl : regex = seqAll (parts ++ [.atEnd]) := by
      simpa [Group.body, Group.push, Group.new] using parsed.symm
    have whole : HasWidth (seqAll (parts ++ [.atEnd])) n := (wide.append (.one .atEnd)).seqAll
    dsimp only at accepted
    split at accepted
    · exact whole.pooled.length_eq accepted
    · exact whole.length_eq accepted
  · rw [malformed _ _ follows] at parsed
    contradiction

/-- The texts that a pattern matches are as long as it is wide, if none of its brackets is left with
a caret alone. If one is and the pattern has no groups, they are shorter. -/
theorem length_of_accepts (compiled : compile? mode pattern = some matcher)
    (measured : width? mode.extended pattern = some n) :
    (leavesCaret mode.extended pattern = false →
      ∀ text, matcher.accepts text = true → text.length = n) ∧
    (leavesCaret mode.extended pattern = true →
      (∀ kind body, .group kind body ∉ pieces mode.extended pattern) →
      ∀ text, matcher.accepts text = true → text.length < n) := by
  have plain := plain?_of_width? compiled measured
  refine ⟨fun known text accepted => ?_, fun caret ungrouped text accepted => ?_⟩
  · have greedy : Greedy ['$'] := by decide
    exact length_eq_of_measures greedy (measures_bodyText measured known) plain accepted
  · obtain ⟨m, less, shorter⟩ := exists_measures_bodyText ungrouped measured caret
    rwa [length_eq_of_measures follows_end shorter plain accepted]

theorem length_of_accepts_choice : ∃ matcher,
    compile? ⟨true, true⟩ "@(ab|[!c]?)[[:digit:]]".toList = some matcher ∧
    width? true "@(ab|[!c]?)[[:digit:]]".toList = some 3 ∧
    matcher.accepts "aB7".toList = true ∧
    ∀ text, matcher.accepts text = true → text.length = 3 := by
  have matched : (compile? ⟨true, true⟩ "@(ab|[!c]?)[[:digit:]]".toList).map
      (·.accepts "aB7".toList) = some true := by decide
  obtain ⟨matcher, compiled, accepted⟩ := Option.map_eq_some_iff.mp matched
  have measured : width? true "@(ab|[!c]?)[[:digit:]]".toList = some 3 := by decide
  exact ⟨matcher, compiled, measured, accepted,
    (length_of_accepts compiled measured).1 (by decide)⟩

/-- Between an unknown class with a caret and another bracket, a character is lost. -/
theorem accepts_shorter_of_caret :
    width? false "[[:x:]^]b[c]".toList = some 3 ∧
    (compile? ⟨false, false⟩ "[[:x:]^]b[c]".toList).map (·.accepts ['a']) = some true := by
  decide

end Matching

end Shell.Glob
