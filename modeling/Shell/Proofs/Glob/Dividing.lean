import Shell.Glob.Ignore
import Shell.Proofs.Glob.Joining

/-!
# Dividing a list of patterns

The colons of a list divide its patterns, except behind a backslash and inside a bracket. The end
of a bracket is looked for in all that follows, so a pattern keeps its colons only if its brackets
end inside it. Then it is divided nowhere, whatever follows, and dividing undoes joining.
-/

namespace Shell.Glob

section Grammar

/-- Plain characters, and pairs of a backslash and any character. -/
inductive Enclosed : List Char → Prop
  | nil : Enclosed []
  | plain {c : Char} {text : List Char} (ordinary : c ≠ '\\' ∧ c ≠ '[' ∧ c ≠ ']')
      (rest : Enclosed text) : Enclosed (c :: text)
  | escaped (c : Char) {text : List Char} (rest : Enclosed text) : Enclosed ('\\' :: c :: text)

/-- What a bracket lists. A closing bracket that comes first is listed, too. -/
inductive IsListing : List Char → Prop
  | plain {text : List Char} (nonempty : text ≠ []) (enclosed : Enclosed text) : IsListing text
  | closing {text : List Char} (enclosed : Enclosed text) : IsListing (']' :: text)

/-- What stands between two brackets that belong together: a listing, with or without a mark. -/
inductive IsBracket : List Char → Prop
  | unmarked {text : List Char} (head : text.head? ≠ some '!' ∧ text.head? ≠ some '^')
      (listing : IsListing text) : IsBracket text
  | marked {mark : Char} {text : List Char} (isMark : mark = '!' ∨ mark = '^')
      (listing : IsListing text) : IsBracket (mark :: text)

/-- A pattern that can stand in a list: its colons are behind backslashes or inside brackets, and
its brackets end in it. -/
inductive IsEntry : List Char → Prop
  | nil : IsEntry []
  | plain {c : Char} {rest : List Char} (ordinary : c ≠ ':' ∧ c ≠ '\\' ∧ c ≠ '[')
      (entry : IsEntry rest) : IsEntry (c :: rest)
  | escaped (c : Char) {rest : List Char} (entry : IsEntry rest) : IsEntry ('\\' :: c :: rest)
  | bracket {content rest : List Char} (bracket : IsBracket content) (entry : IsEntry rest) :
      IsEntry ('[' :: content ++ ']' :: rest)

end Grammar

section Brackets

variable {content : List Char}

theorem Enclosed.bracketFrom? (enclosed : Enclosed content) (rest : List Char) :
    bracketFrom? false (content ++ ']' :: rest) = some (content, rest) := by
  induction enclosed with
  | nil => rfl
  | plain ordinary enclosed inductionHypothesis =>
    rw [List.cons_append, bracketFrom?_plain ordinary, inductionHypothesis]
    rfl
  | escaped c enclosed inductionHypothesis =>
    rw [List.cons_append, List.cons_append, Glob.bracketFrom?, inductionHypothesis]
    rfl

theorem IsListing.bracket? (listing : IsListing content) {mark : List Char}
    (marked : ∀ rest, leadingMark (mark ++ (content ++ rest)) = mark) (rest : List Char) :
    bracket? (mark ++ (content ++ ']' :: rest)) = some (mark ++ content, rest) := by
  cases listing with
  | plain nonempty enclosed =>
    have head : (content ++ ']' :: rest).head? ≠ some ']' := by
      cases enclosed with
      | nil => contradiction
      | plain ordinary enclosed => simpa using ordinary.2.2
      | escaped c enclosed => simp
    rw [bracket?_of_head (marked _) head, enclosed.bracketFrom?]
    rfl
  | @closing text enclosed =>
    have stillMarked := marked (']' :: rest)
    rw [List.cons_append] at stillMarked ⊢
    rw [bracket?_of_closing stillMarked, enclosed.bracketFrom?]
    rfl

/-- A bracket ends where it should, whatever follows. -/
theorem IsBracket.bracket? (bracket : IsBracket content) (rest : List Char) :
    bracket? (content ++ ']' :: rest) = some (content, rest) := by
  cases bracket with
  | unmarked head listing =>
    have unmarked : ∀ rest, leadingMark ([] ++ (content ++ rest)) = [] := by
      intro rest
      cases content with
      | nil => cases listing; contradiction
      | cons c content =>
        simp only [List.head?_cons, ne_eq, Option.some.injEq] at head
        simp [leadingMark, isNegationMark, head]
    exact listing.bracket? unmarked rest
  | @marked mark content isMark listing =>
    have marked : ∀ rest, leadingMark ([mark] ++ (content ++ rest)) = [mark] := by
      simp [leadingMark, isNegationMark, isMark]
    exact listing.bracket? marked rest

end Brackets

section Dividing

/-- The piece for a character of a pattern that is no bracket and no backslash. -/
def pieceOf (c : Char) : Piece :=
  if c = '*' then .anyText else if c = '?' then .anyChar else .char c

theorem source_pieceOf (c : Char) : (pieceOf c).source = [c] := by
  unfold pieceOf
  split
  · rename_i star
    rw [star]
    rfl
  · split
    · rename_i question
      rw [question]
      rfl
    · rfl

theorem pieceOf_ne_colon {c : Char} (colon : c ≠ ':') : pieceOf c ≠ .char ':' := by
  unfold pieceOf
  split
  · simp
  · split
    · simp
    · simpa using colon

theorem divideAtColons_ne_nil (pieces : List Piece) : divideAtColons pieces ≠ [] := by
  fun_cases divideAtColons pieces <;> simp [prepend_ne_nil]

/-- The list is not divided inside the text, whatever follows the text. -/
def Undivided (text : List Char) : Prop :=
  ∀ rest, divideAtColons (pieces false (text ++ rest)) =
    prepend text (divideAtColons (pieces false rest))

theorem undivided_nil : Undivided [] := by
  intro rest
  obtain ⟨first, others, divided⟩ :=
    List.exists_cons_of_ne_nil (divideAtColons_ne_nil (pieces false rest))
  rw [List.nil_append, divided]
  rfl

theorem Undivided.append {first second : List Char} (left : Undivided first)
    (right : Undivided second) : Undivided (first ++ second) := by
  intro rest
  rw [List.append_assoc, left, right, prepend_prepend]

/-- A text that is one piece, whatever follows it, is not divided. -/
theorem undivided_piece {c : Char} {text : List Char} {piece : Piece}
    (head : ∀ rest, headPiece false c (text ++ rest) = piece) (source : piece.source = c :: text)
    (other : piece ≠ .char ':') : Undivided (c :: text) := by
  intro rest
  rw [List.cons_append, pieces_cons, head, source, List.length_cons, Nat.add_sub_cancel,
    List.drop_left, divideAtColons, source]
  exact other

theorem undivided_char {c : Char} (ordinary : c ≠ ':' ∧ c ≠ '\\' ∧ c ≠ '[') : Undivided [c] :=
  undivided_piece (fun rest => plainPiece_eq ordinary.2.1 ordinary.2.2 rest) (source_pieceOf c)
    (pieceOf_ne_colon ordinary.1)

theorem undivided_escaped (c : Char) : Undivided ['\\', c] :=
  undivided_piece (fun _ => rfl) rfl (by simp)

theorem IsBracket.undivided {content : List Char} (bracket : IsBracket content) :
    Undivided ('[' :: content ++ [']']) := by
  have head : ∀ rest, headPiece false '[' (content ++ [']'] ++ rest) = .bracket content := by
    intro rest
    change plainPiece '[' _ = _
    rw [List.append_assoc, List.singleton_append]
    simp only [plainPiece, bracket.bracket? rest]
  exact undivided_piece head rfl (by simp)

theorem IsEntry.undivided {pattern : List Char} (entry : IsEntry pattern) : Undivided pattern := by
  induction entry with
  | nil => exact undivided_nil
  | plain ordinary entry inductionHypothesis =>
    exact (undivided_char ordinary).append inductionHypothesis
  | escaped c entry inductionHypothesis => exact (undivided_escaped c).append inductionHypothesis
  | bracket bracket entry inductionHypothesis =>
    have whole := bracket.undivided.append inductionHypothesis
    rwa [List.append_assoc, List.singleton_append] at whole

variable {patterns : List (List Char)}

theorem divideAtColons_others (undivided : ∀ pattern ∈ patterns, Undivided pattern) :
    divideAtColons (pieces false (patterns.flatMap (':' :: ·))) = [] :: patterns := by
  induction patterns with
  | nil => rfl
  | cons pattern patterns inductionHypothesis =>
    obtain ⟨whole, undivided⟩ := List.forall_mem_cons.mp undivided
    have colon : ∀ rest, divideAtColons (pieces false (':' :: rest)) =
        [] :: divideAtColons (pieces false rest) := fun _ => rfl
    rw [List.flatMap_cons, List.cons_append, colon, whole, inductionHypothesis undivided, prepend,
      List.append_nil]

/-- Dividing undoes joining where no pattern is divided itself. -/
theorem ignorePatterns_of_undivided (nonempty : ∀ pattern ∈ patterns, pattern ≠ [])
    (undivided : ∀ pattern ∈ patterns, Undivided pattern) :
    ignorePatterns ([':'].intercalate patterns) = patterns := by
  cases patterns with
  | nil => rfl
  | cons first others =>
    obtain ⟨whole, undivided⟩ := List.forall_mem_cons.mp undivided
    have divided : divideAtColons (pieces false ([':'].intercalate (first :: others))) =
        first :: others := by
      rw [intercalate_cons, whole, divideAtColons_others undivided, prepend, List.append_nil]
    rw [ignorePatterns, divided, List.filter_eq_self]
    exact fun pattern member => by simpa using nonempty pattern member

/-- Dividing a list gives back the patterns that were joined with colons. -/
theorem ignorePatterns_joined (nonempty : ∀ pattern ∈ patterns, pattern ≠ [])
    (entries : ∀ pattern ∈ patterns, IsEntry pattern) :
    ignorePatterns ([':'].intercalate patterns) = patterns :=
  ignorePatterns_of_undivided nonempty fun pattern member => (entries pattern member).undivided

/-- Colons in brackets and behind backslashes, and brackets that list closing brackets. -/
theorem ignorePatterns_joined_brackets :
    ignorePatterns ([':'].intercalate
        ["\\:".toList, "a]".toList, "[]:]b".toList, "[!]\\]:]".toList, "[^^:]\\[*".toList]) =
      ["\\:".toList, "a]".toList, "[]:]b".toList, "[!]\\]:]".toList, "[^^:]\\[*".toList] := by
  have colon : Enclosed [':'] := .plain (by decide) .nil
  have pairAndColon : Enclosed ['\\', ']', ':'] := .escaped ']' colon
  have caretAndColon : Enclosed ['^', ':'] := .plain (by decide) colon
  have escapedColon : IsEntry "\\:".toList := .escaped ':' .nil
  have lone : IsEntry "a]".toList := .plain (by decide) (.plain (by decide) .nil)
  have first : IsEntry "[]:]b".toList :=
    .bracket (.unmarked (by decide) (.closing colon)) (.plain (by decide) .nil)
  have behindMark : IsEntry "[!]\\]:]".toList :=
    .bracket (.marked (.inl rfl) (.closing pairAndColon)) .nil
  have twoMarks : IsEntry "[^^:]\\[*".toList :=
    .bracket (.marked (.inr rfl) (.plain (by decide) caretAndColon))
      (.escaped '[' (.plain (by decide) .nil))
  refine ignorePatterns_joined (by decide) ?_
  simp only [List.forall_mem_cons]
  exact ⟨escapedColon, lone, first, behindMark, twoMarks, by simp⟩

end Dividing

end Shell.Glob
