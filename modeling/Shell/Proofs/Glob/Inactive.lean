import Shell.Expansion.Pattern
import Shell.Proofs.Glob.Adjacency

/-!
# Words that are no patterns

Whether a word is looked up among the paths is decided by a test on its characters alone: it has to
hold a wildcard, an opening bracket, or the sign of a group in front of a parenthesis. A word
without these is cut into single characters, plain ones and those behind a backslash. So its
regular expression is that of its own meaning, and leaving it as it is agrees with matching.
-/

namespace Shell.Glob

open Text (scanInduction)

section Pieces

variable {extended : Bool} {c : Char} {text : List Char}

/-- The character that a piece stands for, if it stands for one alone. -/
def Piece.meaning? : Piece → Option Char
  | char c | escaped c => some c
  | _ => none

theorem Piece.regexText_of_meaning {piece : Piece} (alone : piece.meaning? = some c)
    (wildcards : Wildcards) (inner : List Char → List Char) :
    piece.regexText wildcards inner = literalText c := by
  cases piece <;> cases alone <;> rfl

theorem isPattern_of_tail (active : isPattern extended text = true) (c : Char) :
    isPattern extended (c :: text) = true := by
  simp only [isPattern, Bool.or_eq_true, Bool.and_eq_true] at active ⊢
  rcases active with wildcard | ⟨isExtended, announces⟩
  · exact .inl (by rw [List.any_cons, wildcard, Bool.or_true])
  · exact .inr ⟨isExtended, by rw [announcesGroup, announces, Bool.or_true]⟩

theorem inactive_tail (inactive : isPattern extended (c :: text) = false) :
    isPattern extended text = false := by
  by_contra active
  rw [isPattern_of_tail (by simpa using active)] at inactive
  contradiction

/-- No sign in front of a parenthesis, no group. -/
theorem group?_eq_none (unannounced : announcesGroup (c :: text) = false) :
    group? c text = none := by
  rw [announcesGroup, Bool.or_eq_false_iff, Bool.and_eq_false_iff] at unannounced
  unfold group?
  split
  · rename_i kind rest signed
    simp [signed] at unannounced
  · rfl

theorem headPiece_of_inactive (inactive : isPattern extended (c :: text) = false)
    (plain : c ≠ '\\') : headPiece extended c text = .char c := by
  rw [isPattern, Bool.or_eq_false_iff] at inactive
  obtain ⟨wildcards, unannounced⟩ := inactive
  have ordinary : c ≠ '*' ∧ c ≠ '?' ∧ c ≠ '[' := by
    simpa [and_assoc] using (Bool.or_eq_false_iff.mp ((List.any_cons ..).symm.trans wildcards)).1
  obtain ⟨star, question, opening⟩ := ordinary
  have alone : plainPiece c text = .char c := by
    rw [plainPiece_eq plain opening, if_neg star, if_neg question]
  cases extended with
  | false => exact alone
  | true => rw [headPiece, if_pos rfl, group?_eq_none unannounced, Option.getD_none, alone]

/-- The pieces of a word that is no pattern stand for the characters that are left when protection
is dropped. -/
theorem meanings_of_inactive (inactive : isPattern extended text = false) :
    (pieces extended text).map Piece.meaning? = (unprotect text).map some := by
  induction text using scanInduction with
  | nil => rfl
  | lone => cases extended <;> rfl
  | escape c rest inductionHypothesis =>
    have head : headPiece extended '\\' (c :: rest) = .escaped c := by cases extended <;> rfl
    have size : (Piece.escaped c).source.length - 1 = 1 := rfl
    rw [pieces_cons, head, size, List.drop_one, List.tail_cons, List.map_cons,
      inductionHypothesis (inactive_tail (inactive_tail inactive))]
    rfl
  | plain c rest plain inductionHypothesis =>
    have size : (Piece.char c).source.length - 1 = 0 := rfl
    rw [pieces_cons, headPiece_of_inactive inactive plain, size, List.drop_zero, List.map_cons,
      inductionHypothesis (inactive_tail inactive), unprotect_cons plain]
    rfl

theorem exists_meaning (inactive : isPattern extended text = false) {piece : Piece}
    (member : piece ∈ pieces extended text) : ∃ c, piece.meaning? = some c := by
  have inMeanings := List.mem_map_of_mem (f := Piece.meaning?) member
  rw [meanings_of_inactive inactive] at inMeanings
  obtain ⟨c, -, alone⟩ := List.mem_map.mp inMeanings
  exact ⟨c, alone.symm⟩

end Pieces

section Expression

variable {extended : Bool} {word : List Char}

theorem flatMap_regexText {pieces : List Piece} {meaning : List Char}
    (same : pieces.map Piece.meaning? = meaning.map some) (wildcards : Wildcards)
    (inner : List Char → List Char) :
    pieces.flatMap (Piece.regexText wildcards inner) = meaning.flatMap literalText := by
  induction pieces generalizing meaning with
  | nil =>
    obtain rfl : meaning = [] := by simpa using same.symm
    rfl
  | cons piece pieces inductionHypothesis =>
    cases meaning with
    | nil => contradiction
    | cons c meaning =>
      obtain ⟨alone, others⟩ := List.cons.inj same
      rw [List.flatMap_cons, List.flatMap_cons, Piece.regexText_of_meaning alone,
        inductionHypothesis others]

theorem regexText_of_inactive (inactive : isPattern extended word = false) :
    regexText extended word = regexText extended (protect (unprotect word)) := by
  have body : bodyText .free extended (nesting word) word =
      (unprotect word).flatMap literalText := by
    rw [nesting, bodyText, flatMap_regexText (meanings_of_inactive inactive)]
  rw [regexText_protect, regexText, body]

/-- Nothing is refused in a word that is no pattern. -/
theorem negation?_of_inactive (inactive : isPattern extended word = false) :
    negation? (pieces extended word) = none := by
  have each : ∀ piece ∈ pieces extended word, ∃ c, piece.meaning? = some c :=
    fun _ => exists_meaning inactive
  generalize pieces extended word = all at each ⊢
  induction all with
  | nil => rfl
  | cons piece others inductionHypothesis =>
    obtain ⟨⟨c, alone⟩, each⟩ := List.forall_mem_cons.mp each
    rw [negation?]
    · rw [inductionHypothesis each]
      rfl
    · rintro body rfl
      contradiction

theorem compile?_of_inactive (inactive : isPattern extended word = false) :
    Decides (compile? ⟨extended, false⟩ word) {unprotect word} := by
  have plain : compile? ⟨extended, false⟩ word = Matcher.plain? ⟨extended, false⟩ word := by
    rw [compile?, nesting, compileWithin?]
    cases extended with
    | false => rfl
    | true => rw [if_pos rfl, negation?_of_inactive inactive]
  have same := plain?_protect extended (unprotect word)
  unfold Matcher.plain? at plain same
  rw [plain]
  rwa [← regexText_of_inactive inactive] at same

/-- A word that is no pattern matches its own meaning and nothing else. -/
theorem accepts_of_inactive_iff (inactive : isPattern extended word = false) (text : List Char) :
    accepts ⟨extended, false⟩ word text = true ↔ text = unprotect word := by
  obtain ⟨matcher, made, same⟩ := compile?_of_inactive inactive
  rw [accepts, made]
  exact same text

end Expression

end Shell.Glob

namespace Shell.State

open Glob (accepts isPattern unprotect)

/-- A word that is no pattern is literal, whether patterns are extended or not. So a word that is
not looked up among the paths matches its own meaning only, unless looking up is turned off. -/
theorem inactive_word_is_literal (word : String) :
    (∀ extended, isPattern extended word.toList = false →
      ∀ text, accepts ⟨extended, false⟩ word.toList text = true ↔ text = unprotect word.toList) ∧
    ∀ state : State, state.isPathPattern word = false →
      state.options.noglob = true ∨
        ∀ text, accepts ⟨state.shopt "extglob", false⟩ word.toList text = true ↔
          text = unprotect word.toList := by
  refine ⟨fun extended => Glob.accepts_of_inactive_iff, fun state skipped => ?_⟩
  rw [isPathPattern, Bool.and_eq_false_iff, Bool.not_eq_false'] at skipped
  exact skipped.imp_right Glob.accepts_of_inactive_iff

/-- Extended patterns are on. -/
def extendedState : State := { shopts := (∅ : Table Bool).insert "extglob" true }

/-- A group without a sign, characters that a regular expression reads, and a backslash at the
end. -/
theorem extendedState_spells :
    accepts ⟨true, false⟩ "(a|b)\\c^+$.\\".toList "(a|b)c^+$.\\".toList = true ∧
      ∀ text, accepts ⟨extendedState.shopt "extglob", false⟩ "(a|b)\\c^+$.\\".toList text = true ↔
        text = unprotect "(a|b)\\c^+$.\\".toList := by
  obtain ⟨each, skips⟩ := inactive_word_is_literal "(a|b)\\c^+$.\\"
  refine ⟨(each true (by decide) _).mpr (by decide), ?_⟩
  exact (skips extendedState (by decide +kernel)).resolve_left (by decide)

end Shell.State
