import Shell.Proofs.Glob.Literal
import Shell.Proofs.Regex.Sets
import Shell.Proofs.Text.Backslash

/-!
# Literal text behind a pattern

A pattern may be cut where no backslash is left open, if what comes behind the cut
has no active characters: nothing in front of the cut, be it an unfinished bracket or
the name of a class, reaches past it. The regular expression is then that of the front
with the characters behind it, unless it is malformed with and without them.
-/

namespace Shell.Glob

open Text (endsOpen endsOpen_cons endsOpen_append endsOpen_append_of_plain headInduction)

/-- Characters that are active in a pattern without groups. -/
def activeChars : List Char := ['*', '?', '[', ']', '\\']

/-- A pattern without active characters, and the text that it spells. A backslash at its end stands
for itself. -/
inductive Spells : List Char → List Char → Prop
  | nil : Spells [] []
  | lone : Spells ['\\'] ['\\']
  | escape (c : Char) {source text : List Char} : Spells source text →
      Spells ('\\' :: c :: source) (c :: text)
  | plain {c : Char} {source text : List Char} : c ∉ activeChars → Spells source text →
      Spells (c :: source) (c :: text)

theorem spells_protect (text : List Char) : Spells (protect text) text := by
  induction text with
  | nil => exact .nil
  | cons c text inductionHypothesis =>
    by_cases special : c ∈ patternSpecials
    · have source : protect (c :: text) = '\\' :: c :: protect text := by simp [protect, special]
      rw [source]
      exact .escape c inductionHypothesis
    · have source : protect (c :: text) = c :: protect text := by simp [protect, special]
      have ordinary : c ∉ activeChars := by
        simp only [patternSpecials, activeChars, List.mem_cons, not_or] at special ⊢
        tauto
      rw [source]
      exact .plain ordinary inductionHypothesis

namespace Spells

variable {source text : List Char}

theorem head_ne (spells : Spells source text) : source.head? ≠ some ']' := by
  cases spells with
  | plain ordinary =>
    rintro ⟨⟩
    exact ordinary (by decide)
  | _ => simp

end Spells

section Classes

theorem hasClassEnd_cons {c : Char} {rest : List Char} (apart : c ≠ ':' ∨ rest.head? ≠ some ']') :
    hasClassEnd (c :: rest) = hasClassEnd rest := by
  rw [hasClassEnd]
  rintro more rfl rfl
  simp at apart

theorem exists_of_hasClassEnd {text : List Char} (classed : hasClassEnd text = true) :
    ∃ before after, text = before ++ ':' :: ']' :: after := by
  induction text with
  | nil => contradiction
  | cons c rest inductionHypothesis =>
    by_cases apart : c ≠ ':' ∨ rest.head? ≠ some ']'
    · rw [hasClassEnd_cons apart] at classed
      obtain ⟨before, after, rfl⟩ := inductionHypothesis classed
      exact ⟨c :: before, after, rfl⟩
    · rw [not_or, not_not, not_not] at apart
      obtain ⟨rfl, ends⟩ := apart
      obtain ⟨after, rfl⟩ := List.head?_eq_some_iff.mp ends
      exact ⟨[], after, rfl⟩

/-- Behind the name of a class, a text is open or not whatever comes before. -/
theorem endsOpen_of_hasClassEnd {text : List Char} (classed : hasClassEnd text = true) (c : Char) :
    endsOpen (c :: text) = endsOpen text := by
  obtain ⟨before, after, rfl⟩ := exists_of_hasClassEnd classed
  rw [← List.cons_append, endsOpen_append_of_plain (by decide),
    endsOpen_append_of_plain (by decide)]

theorem hasClassEnd_append_of_head {text tail : List Char} (ordinary : tail.head? ≠ some ']') :
    hasClassEnd (text ++ tail) = (hasClassEnd text || hasClassEnd tail) := by
  induction text with
  | nil => rfl
  | cons c rest inductionHypothesis =>
    by_cases apart : c ≠ ':' ∨ rest.head? ≠ some ']'
    · have still : c ≠ ':' ∨ (rest ++ tail).head? ≠ some ']' := by
        cases rest with
        | nil => exact .inr ordinary
        | cons => exact apart
      rw [List.cons_append, hasClassEnd_cons still, hasClassEnd_cons apart, inductionHypothesis]
    · rw [not_or, not_not, not_not] at apart
      obtain ⟨rfl, ends⟩ := apart
      obtain ⟨after, rfl⟩ := List.head?_eq_some_iff.mp ends
      rfl

end Classes

namespace Spells

variable {source text : List Char}

theorem hasClassEnd (spells : Spells source text) : hasClassEnd source = false := by
  induction spells with
  | nil => rfl
  | lone => rfl
  | escape c spells inductionHypothesis =>
    rw [hasClassEnd_cons (.inl (by decide)), hasClassEnd_cons (.inr spells.head_ne),
      inductionHypothesis]
  | plain ordinary spells inductionHypothesis =>
    rw [hasClassEnd_cons (.inr spells.head_ne), inductionHypothesis]

theorem bracketFrom? (spells : Spells source text) : bracketFrom? false source = none := by
  induction spells with
  | nil => rfl
  | lone => rfl
  | escape c spells inductionHypothesis =>
    rw [Glob.bracketFrom?, inductionHypothesis]
    rfl
  | @plain c source text ordinary spells inductionHypothesis =>
    simp only [activeChars, List.mem_cons, List.not_mem_nil, or_false, not_or] at ordinary
    obtain ⟨-, -, opening, closing, backslash⟩ := ordinary
    rw [Glob.bracketFrom?, inductionHypothesis]
    · rfl
    · simp [backslash]
    · simp [closing]
    · simp [opening]

/-- An opening bracket in front of the text closes nowhere in it, even if it opens a class. -/
theorem bracketFrom?_cons (spells : Spells source text) {c : Char} (plain : c ≠ '\\')
    (closing : c ≠ ']') : Glob.bracketFrom? false (c :: source) = none := by
  by_cases classed : c = '[' ∧ source.head? = some ':'
  · obtain ⟨rfl, head⟩ := classed
    obtain ⟨more, rfl⟩ := List.head?_eq_some_iff.mp head
    cases spells with
    | plain _ later =>
      rw [Glob.bracketFrom?, later.hasClassEnd, later.bracketFrom?]
      rfl
  · rw [Glob.bracketFrom?, spells.bracketFrom?]
    · rfl
    · exact fun _ _ same => absurd same plain
    · exact closing
    · rintro more rfl rfl
      exact classed ⟨rfl, rfl⟩

end Spells

section Brackets

variable {tail meaning : List Char}

theorem bracketFrom?_before (spells : Spells tail meaning) {inClass : Bool} {text : List Char}
    (closed : endsOpen text = false) (classed : inClass = true → hasClassEnd text = true) :
    bracketFrom? inClass (text ++ tail) =
      (bracketFrom? inClass text).map fun (content, after) => (content, after ++ tail) := by
  fun_induction bracketFrom? inClass text with
  | case1 inClass =>
    cases inClass with
    | true => exact absurd (classed rfl) (by decide)
    | false => exact spells.bracketFrom?
  | case2 rest inductionHypothesis =>
    rw [endsOpen_cons (by decide), endsOpen_cons (by decide)] at closed
    rw [List.cons_append, List.cons_append, bracketFrom?, inductionHypothesis closed (by simp)]
    cases bracketFrom? false rest <;> rfl
  | case3 c rest other inductionHypothesis =>
    have apart : c ≠ ':' ∨ rest.head? ≠ some ']' := by
      by_contra both
      rw [not_or, not_not, not_not] at both
      obtain ⟨after, same⟩ := List.head?_eq_some_iff.mp both.2
      exact other after both.1 same
    have later := classed rfl
    rw [hasClassEnd_cons apart] at later
    rw [endsOpen_of_hasClassEnd later] at closed
    rw [List.cons_append, bracketFrom?, inductionHypothesis closed fun _ => later]
    · cases bracketFrom? true rest <;> rfl
    · cases rest with
      | nil => contradiction
      | cons d rest =>
        rintro more rfl same
        obtain ⟨rfl, -⟩ := List.cons.inj same
        exact other rest rfl rfl
  | case4 c rest inductionHypothesis =>
    rw [List.cons_append, List.cons_append, bracketFrom?, inductionHypothesis closed (by simp)]
    cases bracketFrom? false rest <;> rfl
  | case5 rest => rfl
  | case6 rest inductionHypothesis =>
    rw [endsOpen_cons (by decide), endsOpen_cons (by decide)] at closed
    have same : hasClassEnd (rest ++ tail) = hasClassEnd rest := by
      rw [hasClassEnd_append_of_head spells.head_ne, spells.hasClassEnd, Bool.or_false]
    rw [List.cons_append, List.cons_append, bracketFrom?, same, inductionHypothesis closed id]
    cases bracketFrom? (hasClassEnd rest) rest <;> rfl
  | case7 c rest escape closing opening inductionHypothesis =>
    have plain : c ≠ '\\' := by
      rintro rfl
      cases rest with
      | nil => contradiction
      | cons d rest => exact escape d rest rfl rfl
    cases rest with
    | nil => exact spells.bracketFrom?_cons plain closing
    | cons d rest =>
      rw [endsOpen_cons plain] at closed
      rw [List.cons_append, bracketFrom?, inductionHypothesis closed (by simp)]
      · cases bracketFrom? false (d :: rest) <;> rfl
      · exact fun _ _ same => absurd same plain
      · exact closing
      · rintro more rfl same
        obtain ⟨rfl, -⟩ := List.cons.inj same
        exact opening rest rfl rfl

theorem bracket?_of_closing {mark rest : List Char}
    (marked : leadingMark (mark ++ ']' :: rest) = mark) :
    bracket? (mark ++ ']' :: rest) = (bracketFrom? false rest).map fun (content, after) =>
      (mark ++ ']' :: content, after) := by
  simp [bracket?, marked]

theorem bracket?_of_head {mark rest : List Char} (marked : leadingMark (mark ++ rest) = mark)
    (ordinary : rest.head? ≠ some ']') :
    bracket? (mark ++ rest) = (bracketFrom? false rest).map fun (content, after) =>
      (mark ++ content, after) := by
  unfold bracket?
  simp only [marked, List.drop_left]
  split
  · simp at ordinary
  · rfl

theorem isNegationMark_ne {c : Char} (marked : isNegationMark c = true) : c ≠ '\\' := by
  rintro rfl
  contradiction

/-- A text is the mark in front of it and what comes behind the mark. -/
theorem exists_mark (text : List Char) : ∃ mark rest, text = mark ++ rest ∧
    leadingMark (mark ++ rest) = mark ∧ endsOpen (mark ++ rest) = endsOpen rest := by
  cases text with
  | nil => exact ⟨[], [], rfl, rfl, rfl⟩
  | cons c rest =>
    cases marked : isNegationMark c with
    | true =>
      refine ⟨[c], rest, rfl, by simp [leadingMark, marked], ?_⟩
      exact endsOpen_cons (isNegationMark_ne marked) rest
    | false => exact ⟨[], c :: rest, rfl, by simp [leadingMark, marked], rfl⟩

theorem Spells.exists_mark (spells : Spells tail meaning) : ∃ mark rest meaning,
    tail = mark ++ rest ∧ leadingMark (mark ++ rest) = mark ∧ Spells rest meaning := by
  cases spells with
  | nil => exact ⟨[], [], _, rfl, rfl, .nil⟩
  | lone => exact ⟨[], ['\\'], _, rfl, rfl, .lone⟩
  | escape c later => exact ⟨[], _, _, rfl, rfl, .escape c later⟩
  | @plain c source text ordinary later =>
    cases marked : isNegationMark c with
    | true => exact ⟨[c], source, _, rfl, by simp [leadingMark, marked], later⟩
    | false => exact ⟨[], c :: source, _, rfl, by simp [leadingMark, marked], .plain ordinary later⟩

/-- Nothing is in brackets in a text without active characters. -/
theorem Spells.bracket? (spells : Spells tail meaning) : bracket? tail = none := by
  obtain ⟨mark, rest, meaning, rfl, marked, later⟩ := spells.exists_mark
  rw [bracket?_of_head marked later.head_ne, later.bracketFrom?]
  rfl

/-- What is in brackets is the same before a text without active characters. -/
theorem bracket?_before (spells : Spells tail meaning) {text : List Char}
    (closed : endsOpen text = false) :
    bracket? (text ++ tail) =
      (bracket? text).map fun (content, after) => (content, after ++ tail) := by
  by_cases nonempty : text = []
  · subst nonempty
    rw [List.nil_append, spells.bracket?]
    rfl
  obtain ⟨mark, rest, rfl, marked, same⟩ := exists_mark text
  rw [same] at closed
  have stillMarked : leadingMark (mark ++ (rest ++ tail)) = mark := by
    rw [← List.append_assoc]
    generalize mark ++ rest = text at marked nonempty
    cases text with
    | nil => exact absurd rfl nonempty
    | cons => exact marked
  by_cases closing : rest.head? = some ']'
  · obtain ⟨rest, rfl⟩ := List.head?_eq_some_iff.mp closing
    rw [endsOpen_cons (by decide)] at closed
    rw [List.cons_append] at stillMarked
    rw [bracket?_of_closing marked, List.append_assoc, List.cons_append,
      bracket?_of_closing stillMarked, bracketFrom?_before spells closed (by simp)]
    cases bracketFrom? false rest <;> rfl
  · have stillOrdinary : (rest ++ tail).head? ≠ some ']' := by
      cases rest with
      | nil => exact spells.head_ne
      | cons => exact closing
    rw [bracket?_of_head marked closing, List.append_assoc,
      bracket?_of_head stillMarked stillOrdinary, bracketFrom?_before spells closed (by simp)]
    cases bracketFrom? false rest <;> rfl

theorem bracketFrom?_source {inClass : Bool} {text content after : List Char}
    (found : bracketFrom? inClass text = some (content, after)) :
    text = content ++ ']' :: after := by
  fun_induction bracketFrom? inClass text generalizing content with
  | case1 => contradiction
  | case5 rest =>
    cases found
    rfl
  | _ =>
    obtain ⟨⟨inner, left⟩, inside, same⟩ := Option.map_eq_some_iff.mp found
    cases same
    simp_all

/-- What is in brackets is its mark, a closing bracket that stands for itself behind it, and the
rest. -/
theorem bracket?_cut {text content after : List Char}
    (found : bracket? text = some (content, after)) :
    ∃ mark inner rest, leadingMark text = mark ∧ bracketFrom? false rest = some (inner, after) ∧
      (text = mark ++ ']' :: rest ∧ content = mark ++ ']' :: inner ∨
        text = mark ++ rest ∧ content = mark ++ inner) := by
  obtain ⟨mark, rest, rfl, marked, -⟩ := exists_mark text
  by_cases closing : rest.head? = some ']'
  · obtain ⟨rest, rfl⟩ := List.head?_eq_some_iff.mp closing
    rw [bracket?_of_closing marked] at found
    obtain ⟨⟨inner, left⟩, inside, same⟩ := Option.map_eq_some_iff.mp found
    cases same
    exact ⟨mark, inner, rest, marked, inside, .inl ⟨rfl, rfl⟩⟩
  · rw [bracket?_of_head marked closing] at found
    obtain ⟨⟨inner, left⟩, inside, same⟩ := Option.map_eq_some_iff.mp found
    cases same
    exact ⟨mark, inner, rest, marked, inside, .inr ⟨rfl, rfl⟩⟩

theorem bracket?_source {text content after : List Char}
    (found : bracket? text = some (content, after)) : text = content ++ ']' :: after := by
  obtain ⟨mark, inner, rest, -, inside, ⟨rfl, rfl⟩ | ⟨rfl, rfl⟩⟩ := bracket?_cut found
  · simp [bracketFrom?_source inside]
  · simp [bracketFrom?_source inside]

end Brackets

section Pieces

variable {tail meaning : List Char}

/-- A piece at the head of a text is that character alone, or a bracket expression. -/
theorem plainPiece_cases {c : Char} (plain : c ≠ '\\') (rest : List Char) :
    (plainPiece c rest).source = [c] ∨ c = '[' ∧ ∃ content after,
      bracket? rest = some (content, after) ∧ plainPiece c rest = .bracket content := by
  unfold plainPiece
  split
  · exact absurd rfl plain
  · exact .inl rfl
  · exact .inl rfl
  · rename_i opening
    split
    · rename_i content after found
      exact .inr ⟨rfl, content, after, found, rfl⟩
    · exact .inl rfl
  · exact .inl rfl

theorem plainPiece_eq {c : Char} (plain : c ≠ '\\') (opening : c ≠ '[') (rest : List Char) :
    plainPiece c rest = if c = '*' then .anyText else if c = '?' then .anyChar else .char c := by
  unfold plainPiece
  split <;> simp_all

theorem plainPiece_before (spells : Spells tail meaning) {c : Char} (plain : c ≠ '\\')
    {rest : List Char} (closed : endsOpen rest = false) :
    plainPiece c (rest ++ tail) = plainPiece c rest := by
  by_cases opening : c = '['
  · subst opening
    simp only [plainPiece, bracket?_before spells closed]
    cases bracket? rest <;> rfl
  · rw [plainPiece_eq plain opening, plainPiece_eq plain opening]

/-- Pieces are cut in front of a text without active characters, where no backslash is left open. -/
theorem pieces_append (spells : Spells tail meaning) {text : List Char}
    (closed : endsOpen text = false) :
    pieces false (text ++ tail) = pieces false text ++ pieces false tail := by
  induction text using headInduction with
  | nil => rfl
  | lone => contradiction
  | escape c rest inductionHypothesis =>
    have head : ∀ rest, headPiece false '\\' (c :: rest) = .escaped c := fun _ => rfl
    rw [List.cons_append, List.cons_append, pieces_cons, head, pieces_cons, head]
    exact congrArg (List.cons _) (inductionHypothesis closed)
  | plain c rest plain inductionHypothesis =>
    rw [endsOpen_cons plain] at closed
    have head : headPiece false c (rest ++ tail) = plainPiece c rest :=
      plainPiece_before spells plain closed
    have taken : ∃ taken left, rest = taken ++ left ∧ endsOpen left = false ∧
        (plainPiece c rest).source.length - 1 = taken.length := by
      rcases plainPiece_cases plain rest with alone | ⟨rfl, content, after, found, piece⟩
      · exact ⟨[], rest, rfl, closed, by rw [alone]; rfl⟩
      · have whole := bracket?_source found
        refine ⟨content ++ [']'], after, by simp [whole], ?_, by simp [piece, Piece.source]⟩
        rwa [whole, endsOpen_append_of_plain (by decide)] at closed
    obtain ⟨taken, left, rfl, leftClosed, size⟩ := taken
    have same : headPiece false c (taken ++ left) = plainPiece c (taken ++ left) := rfl
    rw [List.cons_append, pieces_cons, pieces_cons, head, same, size, List.append_assoc,
      List.drop_left, List.drop_left]
    exact congrArg (List.cons _) (inductionHypothesis taken left rfl leftClosed)

/-- The text of a regular expression for a piece that is no group. -/
def Piece.written (piece : Piece) : List Char := piece.regexText .free fun _ => []

/-- The regular expression of a pattern without groups. -/
def written (pattern : List Char) : List Char := (pieces false pattern).flatMap Piece.written

theorem Spells.written (spells : Spells tail meaning) :
    written tail = meaning.flatMap literalText := by
  induction spells with
  | nil => rfl
  | lone => rfl
  | escape c spells inductionHypothesis => exact congrArg (literalText c ++ ·) inductionHypothesis
  | @plain c source text ordinary spells inductionHypothesis =>
    simp only [activeChars, List.mem_cons, List.not_mem_nil, or_false, not_or] at ordinary
    obtain ⟨star, question, opening, -, backslash⟩ := ordinary
    have head : headPiece false c source = .char c := by
      change plainPiece c source = _
      rw [plainPiece_eq backslash opening, if_neg star, if_neg question]
    rw [Glob.written, pieces_cons, head]
    exact congrArg (literalText c ++ ·) inductionHypothesis

theorem written_append (spells : Spells tail meaning) {text : List Char}
    (closed : endsOpen text = false) :
    written (text ++ tail) = written text ++ meaning.flatMap literalText := by
  rw [← spells.written, written, pieces_append spells closed, List.flatMap_append]
  rfl

/-- Every piece of a text was cut from its place on. -/
theorem exists_headPiece {extended : Bool} {text : List Char} {piece : Piece}
    (member : piece ∈ pieces extended text) : ∃ c rest, piece = headPiece extended c rest := by
  have among : ∀ skip, piece ∈ piecesAfter extended skip text →
      ∃ c rest, piece = headPiece extended c rest := by
    clear member
    induction text with
    | nil => simp [piecesAfter]
    | cons c rest inductionHypothesis =>
      intro skip member
      cases skip with
      | succ skip => exact inductionHypothesis skip member
      | zero =>
        rcases List.mem_cons.mp member with rfl | later
        · exact ⟨c, rest, rfl⟩
        · exact inductionHypothesis _ later
  exact among 0 member

theorem regexText_of_mem_pieces {text : List Char} {piece : Piece}
    (member : piece ∈ pieces false text)
    (inner : List Char → List Char) : piece.regexText .free inner = piece.written := by
  obtain ⟨c, rest, rfl⟩ := exists_headPiece member
  change (plainPiece c rest).regexText .free inner = (plainPiece c rest).written
  unfold plainPiece Piece.written
  split
  · rfl
  · rfl
  · rfl
  · split <;> rfl
  · rfl

theorem regexText_false (pattern : List Char) :
    regexText false pattern = '^' :: written pattern ++ ['$'] := by
  have body : bodyText .free false (nesting pattern) pattern = written pattern :=
    List.flatMap_congr fun piece member => regexText_of_mem_pieces member _
  rw [regexText, body]

end Pieces

end Shell.Glob
