import Shell.Proofs.Glob.Acceptance

/-!
# Protected text matches only itself

A protected text is the text of a pattern of literal characters. It is cut into the
same pieces whether groups are looked for or not, so that both ways of reading it
give the same regular expression, and its language has one text.
-/

namespace Shell.Glob

namespace Atom

theorem textOf_literals (text : List Char) : textOf (text.map literal) = protect text := by
  induction text with
  | nil => rfl
  | cons c text inductionHypothesis =>
    rw [List.map_cons, textOf, Atom.text, inductionHypothesis, ← protect_append,
      List.singleton_append]

theorem languageOf_literals (text : List Char) : languageOf (text.map literal) = {text} := by
  induction text with
  | nil => rfl
  | cons c text inductionHypothesis =>
    rw [List.map_cons, languageOf, language, inductionHypothesis]
    ext word
    rw [Language.mem_mul]
    constructor
    · rintro ⟨first, rfl, second, rfl, rfl⟩
      rfl
    · rintro rfl
      exact ⟨[c], rfl, text, rfl, rfl⟩

theorem positiveAll_literals (text : List Char) : PositiveAll (text.map literal) := by
  induction text with
  | nil => simp [PositiveAll]
  | cons c text inductionHypothesis => simpa [PositiveAll, Positive] using inductionHypothesis

theorem admissibleAll_literals (text : List Char) : AdmissibleAll (text.map literal) := by
  induction text with
  | nil => simp [AdmissibleAll]
  | cons c text inductionHypothesis => simpa [AdmissibleAll, Admissible] using inductionHypothesis

end Atom

theorem pieces_false_protect (text : List Char) :
    pieces false (protect text) = text.map fun c => (Atom.literal c).piece := by
  induction text with
  | nil => rfl
  | cons c text inductionHypothesis =>
    rw [List.map_cons, ← inductionHypothesis]
    by_cases special : c ∈ patternSpecials
    · have source : protect (c :: text) = '\\' :: c :: protect text := by simp [protect, special]
      have piece : (Atom.literal c).piece = .escaped c := by simp [Atom.piece, special]
      rw [source, pieces_cons, piece]
      rfl
    · have source : protect (c :: text) = c :: protect text := by simp [protect, special]
      have piece : (Atom.literal c).piece = .char c := by simp [Atom.piece, special]
      have head : headPiece false c (protect text) = .char c := Atom.plainPiece_plain special _
      rw [source, pieces_cons, head, piece]
      rfl

/-- Whether groups are looked for or not, protected text is cut into characters. -/
theorem pieces_protect (extended : Bool) (text : List Char) :
    pieces extended (protect text) = text.map fun c => (Atom.literal c).piece := by
  cases extended with
  | false => exact pieces_false_protect text
  | true =>
    rw [← Atom.textOf_literals, Atom.pieces_textOf, List.map_map]
    rfl

theorem regexText_protect (extended : Bool) (text : List Char) :
    regexText extended (protect text) = '^' :: text.flatMap literalText ++ ['$'] := by
  have body : bodyText .free extended (nesting (protect text)) (protect text) =
      text.flatMap literalText := by
    rw [nesting, bodyText, pieces_protect, List.flatMap_map]
    congr 1
    funext c
    by_cases special : c ∈ patternSpecials
    · simp [Atom.piece, special, Piece.regexText]
    · simp [Atom.piece, special, Piece.regexText]
  rw [regexText, body]

theorem plain?_protect (extended : Bool) (text : List Char) :
    Decides (Matcher.plain? ⟨extended, false⟩ (protect text)) {text} := by
  have decides := decides_plain? (Atom.positiveAll_literals text)
  rw [Atom.textOf_literals, Atom.languageOf_literals] at decides
  unfold Matcher.plain? at decides ⊢
  rw [regexText_protect] at decides ⊢
  exact decides

theorem compile?_protect (extended : Bool) (text : List Char) :
    Decides (compile? ⟨extended, false⟩ (protect text)) {text} := by
  cases extended with
  | false => exact plain?_protect false text
  | true =>
    have decides := decides_compileWithin? (Atom.admissibleAll_literals text)
      (Nat.lt_succ_self (Atom.textOf (text.map Atom.literal)).length)
    rw [Atom.textOf_literals, Atom.languageOf_literals] at decides
    exact decides

/-- Whether extended patterns are on or not, a protected text matches itself and nothing else. -/
theorem accepts_protect_iff (extended : Bool) (text word : List Char) :
    accepts ⟨extended, false⟩ (protect text) word = true ↔ word = text := by
  obtain ⟨matcher, made, same⟩ := compile?_protect extended text
  rw [accepts, made]
  exact same word

end Shell.Glob
