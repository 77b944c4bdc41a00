import Shell.Proofs.Glob.Pattern

/-!
# Reading the text of a pattern

All scanners agree on the text of a pattern: a parenthesis that closes a group is
found behind its last alternative, bars divide the alternatives of a group and of no
group inside it, and the pieces of the text are the atoms.
-/

namespace Shell.Glob

/-- A character that no scanner of groups stops at. -/
def Inert (c : Char) : Prop := c ≠ '\\' ∧ c ≠ '(' ∧ c ≠ ')' ∧ c ≠ '|'

instance (c : Char) : Decidable (Inert c) := inferInstanceAs (Decidable (_ ∧ _))

/-- The text can be passed over when looking for the end of a group, at any depth. -/
def Nests (text : List Char) : Prop :=
  ∀ depth rest, groupFrom? depth (text ++ rest) =
    (groupFrom? depth rest).map fun (body, after) => (text ++ body, after)

theorem nests_nil : Nests [] := by
  intro depth rest
  simp

theorem Nests.append {first second : List Char} (left : Nests first) (right : Nests second) :
    Nests (first ++ second) := by
  intro depth rest
  rw [List.append_assoc, left, right, Option.map_map]
  congr 1
  funext ⟨body, after⟩
  simp

theorem nests_escaped (c : Char) : Nests ['\\', c] := by
  intro depth rest
  rfl

theorem nests_char {c : Char} (backslash : c ≠ '\\') (opening : c ≠ '(') (closing : c ≠ ')') :
    Nests [c] := by
  intro depth rest
  change groupFrom? depth (c :: rest) = _
  rw [groupFrom?]
  · rfl
  · intro _ _ same
    exact absurd same backslash
  · exact opening
  · intro _ same
    exact absurd same closing
  · intro _ _ same
    exact absurd same closing

theorem Inert.nests {c : Char} (inert : Inert c) : Nests [c] :=
  nests_char inert.1 inert.2.1 inert.2.2.1

theorem Nests.parenthesized {body : List Char} (nests : Nests body) :
    Nests ('(' :: body ++ [')']) := by
  intro depth rest
  have whole : '(' :: body ++ [')'] ++ rest = '(' :: (body ++ (')' :: rest)) := by simp
  rw [whole, groupFrom?, nests, groupFrom?, Option.map_map, Option.map_map]
  congr 1
  funext ⟨inner, after⟩
  simp

/-- The end of a group lies behind its body. -/
theorem Nests.groupFrom? {body : List Char} (nests : Nests body) (rest : List Char) :
    groupFrom? 0 (body ++ ')' :: rest) = some (body, rest) := by
  rw [nests, Glob.groupFrom?]
  simp

/-- No bar in the text divides alternatives, when `depth` parentheses are open around it. -/
def Solid (depth : Int) (text : List Char) : Prop :=
  ∀ rest, alternativesFrom depth (text ++ rest) = prepend text (alternativesFrom depth rest)

theorem prepend_prepend (first second : List Char) (texts : List (List Char)) :
    prepend first (prepend second texts) = prepend (first ++ second) texts := by
  cases texts <;> simp [prepend]

theorem solid_nil (depth : Int) : Solid depth [] := by
  intro rest
  cases divided : alternativesFrom depth rest with
  | nil => exact absurd divided (alternativesFrom_ne_nil depth rest)
  | cons first others => simp [prepend, divided]

theorem Solid.append {depth : Int} {first second : List Char} (left : Solid depth first)
    (right : Solid depth second) : Solid depth (first ++ second) := by
  intro rest
  rw [List.append_assoc, left, right, prepend_prepend]

theorem solid_escaped (depth : Int) (c : Char) : Solid depth ['\\', c] := by
  intro rest
  rfl

theorem alternativesFrom_cons {c : Char} (backslash : c ≠ '\\') (depth : Int)
    (rest : List Char) :
    alternativesFrom depth (c :: rest) =
      if c = '(' then prepend [c] (alternativesFrom (depth + 1) rest)
      else if c = ')' then prepend [c] (alternativesFrom (depth - 1) rest)
      else if c = '|' ∧ depth = 0 then [] :: alternativesFrom depth rest
      else prepend [c] (alternativesFrom depth rest) := by
  rw [alternativesFrom]
  intro _ _ same
  exact absurd same backslash

theorem Inert.solid {c : Char} (inert : Inert c) (depth : Int) : Solid depth [c] := by
  obtain ⟨backslash, opening, closing, bar⟩ := inert
  intro rest
  change alternativesFrom depth (c :: rest) = _
  rw [alternativesFrom_cons backslash, if_neg opening, if_neg closing,
    if_neg fun both => bar both.1]

theorem solid_bar {depth : Int} (inside : 0 < depth) : Solid depth ['|'] := by
  intro rest
  change alternativesFrom depth ('|' :: rest) = _
  rw [alternativesFrom_cons (by decide), if_neg (by decide), if_neg (by decide),
    if_neg fun both => by omega]

theorem Solid.parenthesized {depth : Int} {body : List Char} (solid : Solid (depth + 1) body) :
    Solid depth ('(' :: body ++ [')']) := by
  intro rest
  have whole : '(' :: body ++ [')'] ++ rest = '(' :: (body ++ (')' :: rest)) := by simp
  have back : depth + 1 - 1 = depth := by omega
  rw [whole, alternativesFrom_cons (by decide), if_pos rfl, solid,
    alternativesFrom_cons (by decide), if_neg (by decide), if_pos rfl, back, prepend_prepend,
    prepend_prepend]
  rfl

theorem intercalate_cons (mark : Char) (first : List Char) (others : List (List Char)) :
    [mark].intercalate (first :: others) = first ++ others.flatMap (mark :: ·) := by
  induction others generalizing first with
  | nil => simp
  | cons next others inductionHypothesis =>
    have step : [mark].intercalate (first :: next :: others) =
        first ++ mark :: [mark].intercalate (next :: others) := by
      simp [List.intercalate]
    rw [step, inductionHypothesis]
    simp

theorem joinBars_cons (first : List Char) (others : List (List Char)) :
    joinBars (first :: others) = first ++ others.flatMap ('|' :: ·) :=
  intercalate_cons '|' first others

/-- Dividing at the bars undoes joining with bars. -/
theorem alternatives_joinBars {first : List Char} {others : List (List Char)}
    (firstSolid : Solid 0 first) (solid : ∀ text ∈ others, Solid 0 text) :
    alternatives (joinBars (first :: others)) = first :: others := by
  have rest : alternativesFrom 0 (others.flatMap ('|' :: ·)) = [] :: others := by
    clear firstSolid
    induction others with
    | nil => rfl
    | cons text others inductionHypothesis =>
      have following := inductionHypothesis fun text member =>
        solid text (List.mem_cons_of_mem _ member)
      rw [List.flatMap_cons, List.cons_append, alternativesFrom_cons (by decide),
        if_neg (by decide), if_neg (by decide), if_pos ⟨rfl, rfl⟩, solid text (by simp), following]
      simp [prepend]
  rw [alternatives, joinBars_cons, firstSolid, rest]
  simp [prepend]

/-- The text of a pattern, or of several joined with bars inside a group, can be passed over. -/
structure Closed (text : List Char) : Prop where
  nests : Nests text
  solid : ∀ depth : Nat, Solid depth text

theorem closed_nil : Closed [] := ⟨nests_nil, fun _ => solid_nil _⟩

theorem Closed.append {first second : List Char} (left : Closed first) (right : Closed second) :
    Closed (first ++ second) :=
  ⟨left.nests.append right.nests, fun depth => (left.solid depth).append (right.solid depth)⟩

theorem closed_of_inert {text : List Char} (inert : ∀ c ∈ text, Inert c) : Closed text := by
  induction text with
  | nil => exact closed_nil
  | cons c text inductionHypothesis =>
    have first := inert c (by simp)
    have one : Closed [c] := ⟨first.nests, fun _ => first.solid _⟩
    exact one.append (inductionHypothesis fun d member => inert d (List.mem_cons_of_mem _ member))

theorem closed_protect (c : Char) : Closed (protect [c]) := by
  by_cases special : c ∈ patternSpecials
  · have escaped : protect [c] = ['\\', c] := by simp [protect, special]
    rw [escaped]
    exact ⟨nests_escaped c, fun _ => solid_escaped _ c⟩
  · have same : protect [c] = [c] := by simp [protect, special]
    rw [same]
    refine closed_of_inert fun d member => ?_
    obtain rfl := List.mem_singleton.mp member
    simp only [patternSpecials, List.mem_cons, List.not_mem_nil, or_false, not_or] at special
    exact ⟨special.2.2.2.2.1, special.2.2.2.2.2.1, special.2.2.2.2.2.2.1, special.2.2.2.2.2.2.2⟩

/-- Texts that are joined with bars can be passed over inside a group. -/
theorem inside_joinBars {first : List Char} {others : List (List Char)}
    (firstClosed : Closed first) (closed : ∀ text ∈ others, Closed text) :
    Nests (joinBars (first :: others)) ∧
      ∀ depth : Nat, Solid (depth + 1) (joinBars (first :: others)) := by
  have bars : Nests (others.flatMap ('|' :: ·)) ∧
      ∀ depth : Nat, Solid (depth + 1) (others.flatMap ('|' :: ·)) := by
    clear firstClosed
    induction others with
    | nil => exact ⟨nests_nil, fun _ => solid_nil _⟩
    | cons text others inductionHypothesis =>
      obtain ⟨nests, solid⟩ := inductionHypothesis fun text member =>
        closed text (List.mem_cons_of_mem _ member)
      have one := closed text (by simp)
      have bar : Nests ['|'] := nests_char (by decide) (by decide) (by decide)
      refine ⟨(bar.append one.nests).append nests, fun depth => ?_⟩
      exact ((solid_bar (by omega)).append (one.solid (depth + 1))).append (solid depth)
  rw [joinBars_cons]
  exact ⟨firstClosed.nests.append bars.1, fun depth =>
    (firstClosed.solid (depth + 1)).append (bars.2 depth)⟩

theorem closed_group {kind : GroupKind} {first : List Char} {others : List (List Char)}
    (firstClosed : Closed first) (closed : ∀ text ∈ others, Closed text) :
    Closed (kind.sign :: '(' :: joinBars (first :: others) ++ [')']) := by
  have sign : Closed [kind.sign] := by
    refine closed_of_inert fun c member => ?_
    obtain rfl := List.mem_singleton.mp member
    cases kind <;> decide
  obtain ⟨nests, solid⟩ := inside_joinBars firstClosed closed
  have group : Closed ('(' :: joinBars (first :: others) ++ [')']) :=
    ⟨nests.parenthesized, fun depth => (solid depth).parenthesized⟩
  exact sign.append group

/-- A character that has no meaning inside or around brackets. -/
theorem ne_of_isAlphanum {c d : Char} (plain : c.isAlphanum) (other : d.isAlphanum = false) :
    c ≠ d := by
  rintro rfl
  rw [plain] at other
  exact Bool.noConfusion other

theorem Member.mem_text {member : Member} {c : Char} (inside : c ∈ member.text) :
    c.isAlphanum ∨ c = '-' := by
  cases member with
  | one d plain =>
    obtain rfl := List.mem_singleton.mp inside
    exact Or.inl plain
  | range low high lowPlain highPlain _ =>
    simp only [text, List.mem_cons, List.not_mem_nil, or_false] at inside
    rcases inside with rfl | rfl | rfl
    · exact Or.inl lowPlain
    · exact Or.inr rfl
    · exact Or.inl highPlain

namespace Bracket

theorem mem_members {set : Bracket} {c : Char} (inside : c ∈ set.members.flatMap Member.text) :
    c.isAlphanum ∨ c = '-' := by
  obtain ⟨member, _, inText⟩ := List.mem_flatMap.mp inside
  exact member.mem_text inText

theorem plain_of_mem_members {set : Bracket} {c : Char}
    (inside : c ∈ set.members.flatMap Member.text) : c ≠ '\\' ∧ c ≠ '[' ∧ c ≠ ']' := by
  rcases mem_members inside with plain | rfl
  · exact ⟨ne_of_isAlphanum plain (by decide), ne_of_isAlphanum plain (by decide),
      ne_of_isAlphanum plain (by decide)⟩
  · decide

/-- Neither a mark nor a bracket stands at the head of the members. -/
theorem members_eq_cons (set : Bracket) :
    ∃ c rest, set.members.flatMap Member.text = c :: rest ∧ c.isAlphanum := by
  unfold members
  cases set.first with
  | one c plain => exact ⟨c, _, rfl, plain⟩
  | range low high lowPlain _ _ => exact ⟨low, _, rfl, lowPlain⟩

theorem closed_text (set : Bracket) : Closed ('[' :: set.content ++ [']']) := by
  refine closed_of_inert fun c member => ?_
  unfold content at member
  have inside : c ∈ ['[', ']', '!'] ∨ c ∈ set.members.flatMap Member.text := by
    split at member <;> simp at member ⊢ <;> tauto
  rcases inside with mark | inside
  · simp only [List.mem_cons, List.not_mem_nil, or_false] at mark
    rcases mark with rfl | rfl | rfl <;> decide
  · rcases mem_members inside with plain | rfl
    · exact ⟨ne_of_isAlphanum plain (by decide), ne_of_isAlphanum plain (by decide),
        ne_of_isAlphanum plain (by decide), ne_of_isAlphanum plain (by decide)⟩
    · decide

end Bracket

theorem bracketFrom?_plain {c : Char} (plain : c ≠ '\\' ∧ c ≠ '[' ∧ c ≠ ']') (rest : List Char) :
    bracketFrom? false (c :: rest) =
      (bracketFrom? false rest).map fun (content, after) => (c :: content, after) := by
  rw [bracketFrom?]
  · exact fun _ _ same => absurd same plain.1
  · exact plain.2.2
  · exact fun _ same => absurd same plain.2.1

theorem bracketFrom?_append {text : List Char} (rest : List Char)
    (plain : ∀ c ∈ text, c ≠ '\\' ∧ c ≠ '[' ∧ c ≠ ']') :
    bracketFrom? false (text ++ ']' :: rest) = some (text, rest) := by
  induction text with
  | nil => rfl
  | cons c text inductionHypothesis =>
    have others := inductionHypothesis fun d member => plain d (List.mem_cons_of_mem _ member)
    rw [List.cons_append, bracketFrom?_plain (plain c List.mem_cons_self), others]
    rfl

theorem isNegationMark_of_isAlphanum {c : Char} (plain : c.isAlphanum) :
    isNegationMark c = false := by
  simp [isNegationMark, ne_of_isAlphanum plain (d := '!') (by decide),
    ne_of_isAlphanum plain (d := '^') (by decide)]

theorem bracket?_content (set : Bracket) (rest : List Char) :
    bracket? (set.content ++ ']' :: rest) = some (set.content, rest) := by
  have inner : bracketFrom? false (set.members.flatMap Member.text ++ ']' :: rest) =
      some (set.members.flatMap Member.text, rest) :=
    bracketFrom?_append rest fun _ => Bracket.plain_of_mem_members
  obtain ⟨c, tail, members, plain⟩ := set.members_eq_cons
  have closing : c ≠ ']' := ne_of_isAlphanum plain (by decide)
  have unmarked : isNegationMark c = false := isNegationMark_of_isAlphanum plain
  unfold bracket? Bracket.content
  rw [members] at inner ⊢
  cases set.negated with
  | true => simpa [leadingMark, isNegationMark, closing] using inner
  | false => simpa [leadingMark, unmarked, closing] using inner

namespace Atom

mutual

theorem closed_text : (atom : Atom) → Closed atom.text
  | literal c => by
    rw [text]
    exact closed_protect c
  | anyChar => closed_of_inert (by simp [text, Inert])
  | anyText => closed_of_inert (by simp [text, Inert])
  | bracket set => by
    rw [text]
    exact set.closed_text
  | group kind first others => by
    rw [text]
    exact closed_group (closed_textOf first) (closed_textsOf others)

theorem closed_textOf : (pattern : List Atom) → Closed (textOf pattern)
  | [] => closed_nil
  | atom :: rest => by
    rw [textOf]
    exact (closed_text atom).append (closed_textOf rest)

theorem closed_textsOf : (patterns : List (List Atom)) → ∀ text ∈ textsOf patterns, Closed text
  | [], text, member => by simp [textsOf] at member
  | pattern :: rest, text, member => by
    rw [textsOf] at member
    rcases List.mem_cons.mp member with rfl | member
    · exact closed_textOf pattern
    · exact closed_textsOf rest text member

end

theorem textsOf_eq_map (patterns : List (List Atom)) : textsOf patterns = patterns.map textOf := by
  induction patterns with
  | nil => rw [textsOf, List.map_nil]
  | cons pattern patterns inductionHypothesis =>
    rw [textsOf, inductionHypothesis, List.map_cons]

/-- The body of a group. -/
def body (first : List Atom) (others : List (List Atom)) : List Char :=
  joinBars (textOf first :: textsOf others)

theorem nests_body (first : List Atom) (others : List (List Atom)) : Nests (body first others) :=
  (inside_joinBars (closed_textOf first) (closed_textsOf others)).1

theorem alternatives_body (first : List Atom) (others : List (List Atom)) :
    alternatives (body first others) = textOf first :: others.map textOf := by
  rw [body, alternatives_joinBars ((closed_textOf first).solid 0)
    fun text member => (closed_textsOf others text member).solid 0, textsOf_eq_map]

/-- The piece that an atom is read as. -/
def piece : Atom → Piece
  | literal c => if patternSpecials.contains c then .escaped c else .char c
  | anyChar => .anyChar
  | anyText => .anyText
  | bracket set => .bracket set.content
  | group kind first others => .group kind (body first others)

theorem source_piece (atom : Atom) : atom.piece.source = atom.text := by
  cases atom with
  | literal c =>
    by_cases special : c ∈ patternSpecials
    · simp [piece, text, protect, special, Piece.source]
    · simp [piece, text, protect, special, Piece.source]
  | anyChar => rw [piece, text, Piece.source]
  | anyText => rw [piece, text, Piece.source]
  | bracket set => rw [piece, text, Piece.source]
  | group kind first others => rw [piece, text, Piece.source, body]

theorem group?_eq_none {c : Char} {rest : List Char} (unopened : rest.head? ≠ some '(') :
    group? c rest = none := by
  unfold group?
  split
  · exact absurd rfl unopened
  · rfl

theorem group?_body (kind : GroupKind) (first : List Atom) (others : List (List Atom))
    (rest : List Char) :
    group? kind.sign ('(' :: (body first others ++ ')' :: rest)) =
      some (.group kind (body first others)) := by
  unfold group?
  rw [GroupKind.ofSign?_sign]
  change (groupFrom? 0 (body first others ++ ')' :: rest)).map _ = _
  rw [(nests_body first others).groupFrom?]
  rfl

theorem plainPiece_plain {c : Char} (plain : c ∉ patternSpecials) (rest : List Char) :
    plainPiece c rest = .char c := by
  simp only [patternSpecials, List.mem_cons, List.not_mem_nil, or_false, not_or] at plain
  unfold plainPiece
  split <;> simp_all

theorem plainPiece_bracket (set : Bracket) (rest : List Char) :
    plainPiece '[' (set.content ++ ']' :: rest) = .bracket set.content := by
  simp only [plainPiece, bracket?_content]

/-- The piece at the head of an atom's text is the atom, if no parenthesis follows. -/
theorem headPiece_text (atom : Atom) {rest : List Char} (unopened : rest.head? ≠ some '(') :
    ∃ c tail, atom.text = c :: tail ∧ headPiece true c (tail ++ rest) = atom.piece := by
  cases atom with
  | literal c =>
    by_cases special : c ∈ patternSpecials
    · refine ⟨'\\', [c], by simp [text, protect, special], ?_⟩
      simp [headPiece, group?, GroupKind.ofSign?, GroupKind.sign, plainPiece, piece, special]
    · refine ⟨c, [], by simp [text, protect, special], ?_⟩
      rw [headPiece, if_pos rfl, List.nil_append, group?_eq_none unopened, Option.getD_none,
        plainPiece_plain special]
      simp [piece, special]
  | anyChar =>
    refine ⟨'?', [], by rw [text], ?_⟩
    rw [headPiece, if_pos rfl, List.nil_append, group?_eq_none unopened]
    rfl
  | anyText =>
    refine ⟨'*', [], by rw [text], ?_⟩
    rw [headPiece, if_pos rfl, List.nil_append, group?_eq_none unopened]
    rfl
  | bracket set =>
    refine ⟨'[', set.content ++ [']'], by rw [text]; rfl, ?_⟩
    rw [headPiece, if_pos rfl, List.append_assoc]
    exact plainPiece_bracket set rest
  | group kind first others =>
    refine ⟨kind.sign, '(' :: body first others ++ [')'], by rw [text]; rfl, ?_⟩
    have whole : '(' :: body first others ++ [')'] ++ rest =
        '(' :: (body first others ++ ')' :: rest) := by simp
    rw [headPiece, if_pos rfl, whole, group?_body]
    rfl

theorem pieces_text_append (atom : Atom) {rest : List Char} (unopened : rest.head? ≠ some '(') :
    pieces true (atom.text ++ rest) = atom.piece :: pieces true rest := by
  obtain ⟨c, tail, whole, head⟩ := headPiece_text atom unopened
  have length : atom.piece.source.length - 1 = tail.length := by
    rw [source_piece, whole]
    simp
  rw [whole, List.cons_append, pieces_cons, head, length, List.drop_left]

theorem text_head (atom : Atom) : ∃ c tail, atom.text = c :: tail ∧ c ≠ '(' := by
  cases atom with
  | literal c =>
    by_cases special : c ∈ patternSpecials
    · exact ⟨'\\', [c], by simp [text, protect, special], by decide⟩
    · refine ⟨c, [], by simp [text, protect, special], ?_⟩
      rintro rfl
      exact special (by decide)
  | anyChar => exact ⟨'?', [], by rw [text], by decide⟩
  | anyText => exact ⟨'*', [], by rw [text], by decide⟩
  | bracket set => exact ⟨'[', set.content ++ [']'], by rw [text]; rfl, by decide⟩
  | group kind first others =>
    refine ⟨kind.sign, '(' :: body first others ++ [')'], by rw [text]; rfl, ?_⟩
    cases kind <;> decide

theorem textOf_head (pattern : List Atom) : (textOf pattern).head? ≠ some '(' := by
  cases pattern with
  | nil => simp [textOf]
  | cons atom rest =>
    obtain ⟨c, tail, whole, unopened⟩ := atom.text_head
    rw [textOf, whole]
    simpa using unopened

/-- The pieces of a pattern's text are its atoms. -/
theorem pieces_textOf (pattern : List Atom) : pieces true (textOf pattern) = pattern.map piece := by
  induction pattern with
  | nil => simp [textOf]
  | cons atom rest inductionHypothesis =>
    rw [textOf, pieces_text_append atom (textOf_head rest), inductionHypothesis, List.map_cons]

theorem sourceOf_map_piece (pattern : List Atom) :
    sourceOf (pattern.map piece) = textOf pattern := by
  induction pattern with
  | nil => simp [sourceOf, textOf]
  | cons atom rest inductionHypothesis =>
    rw [textOf, ← inductionHypothesis, ← source_piece]
    simp [sourceOf]

end Atom

end Shell.Glob
