import Shell.Expansion.Pattern
import Shell.Proofs.Glob.Adjacency
import Shell.Proofs.Glob.Dividing

/-!
# Which paths are ignored

A list of patterns, divided by colons, says which paths are left out: those that a pattern fits
as a whole, where wildcards do not go beyond a slash, and those that end in a dot segment. The
expression of a pattern ends with the mark for the end of a text, which also stands before a
newline at the end. So a path is left out, too, if a pattern fits what is in front of that
newline, and the filter is exact as long as no such path is given.
-/

namespace Shell.Glob

open Regex (seqAll)

/-- The words that a character of a pattern stands for. -/
def Covers (c : Char) (word : List Char) : Prop :=
  if c = '*' then '/' ∉ word
  else if c = '?' then ∃ d, d ≠ '/' ∧ word = [d]
  else word = [c]

/-- A pattern fits a text as a whole. -/
inductive Fits : List Char → List Char → Prop
  | nil : Fits [] []
  | cons {c : Char} {pattern word text : List Char} (covers : Covers c word)
      (rest : Fits pattern text) : Fits (c :: pattern) (word ++ text)

/-- The path leads to the directory itself or to the one above it. -/
def EndsInDots (path : List Char) : Prop :=
  ∃ front, (front = [] ∨ ∃ before, front = before ++ ['/']) ∧
    (path = front ++ ['.'] ∨ path = front ++ ['.', '.'])

/-- A path that is to be left out. -/
def Ignored (patterns : List (List Char)) (path : List Char) : Prop :=
  EndsInDots path ∨ ∃ pattern ∈ patterns, Fits pattern path

/-- A newline ends the path, and a pattern fits what is in front of it. -/
def FitsLine (patterns : List (List Char)) (path : List Char) : Prop :=
  ∃ pattern ∈ patterns, ∃ line, Fits pattern line ∧ path = line ++ ['\n']

section Fitting

variable {c : Char} {pattern text : List Char}

theorem fits_nil_iff : Fits [] text ↔ text = [] := by
  constructor
  · intro fits
    cases fits
    rfl
  · rintro rfl
    exact .nil

theorem fits_cons_iff : Fits (c :: pattern) text ↔
    ∃ word rest, Covers c word ∧ Fits pattern rest ∧ text = word ++ rest := by
  constructor
  · intro fits
    cases fits with
    | cons covers fits => exact ⟨_, _, covers, fits, rfl⟩
  · rintro ⟨word, rest, covers, fits, rfl⟩
    exact .cons covers fits

theorem fits_cons_iff_cut : Fits (c :: pattern) text ↔
    ∃ i ∈ cutPoints text, Covers c (text.take i) ∧ Fits pattern (text.drop i) := by
  rw [fits_cons_iff]
  constructor
  · rintro ⟨word, rest, covers, fits, rfl⟩
    exact ⟨word.length, by simp, by simpa using covers, by simpa using fits⟩
  · rintro ⟨i, -, covers, fits⟩
    exact ⟨_, _, covers, fits, (List.take_append_drop i text).symm⟩

theorem covers_question_iff {word : List Char} :
    (∃ d, d ≠ '/' ∧ word = [d]) ↔ word.length = 1 ∧ '/' ∉ word := by
  rw [List.length_eq_one_iff]
  constructor
  · rintro ⟨d, ordinary, rfl⟩
    exact ⟨⟨d, rfl⟩, by simpa using ordinary.symm⟩
  · rintro ⟨⟨d, rfl⟩, ordinary⟩
    exact ⟨d, by simpa [eq_comm] using ordinary, rfl⟩

instance decidableSingle (word : List Char) : Decidable (∃ d, d ≠ '/' ∧ word = [d]) :=
  decidable_of_iff _ covers_question_iff.symm

instance decidableCovers (c : Char) (word : List Char) : Decidable (Covers c word) :=
  have := decidableSingle word
  inferInstanceAs (Decidable (ite _ _ _))

instance decidableFits : (pattern text : List Char) → Decidable (Fits pattern text)
  | [], _ => decidable_of_iff _ fits_nil_iff.symm
  | _ :: pattern, _ =>
    have (rest : List Char) : Decidable (Fits pattern rest) := decidableFits pattern rest
    decidable_of_iff _ fits_cons_iff_cut.symm

end Fitting

section Reading

/-- What is written for a character where wildcards stay within a segment. -/
def segmentText (c : Char) : List Char :=
  if c = '*' then ['[', '^', '/', ']', '*'] else if c = '?' then ['[', '^', '/', ']']
  else literalText c

/-- The expression that is read. -/
def segmentPart (c : Char) : Regex :=
  if c = '*' then .star (.char 47 true) else if c = '?' then .char 47 true
  else .char c.toNat false

def segmentRegex (pattern : List Char) : Regex := seqAll (pattern.map segmentPart ++ [.atEnd])

theorem regexText_pieceOf (c : Char) (inner : List Char → List Char) :
    (pieceOf c).regexText .withinSegment inner = segmentText c := by
  unfold pieceOf segmentText
  split
  · rfl
  · split <;> rfl

variable {pattern : List Char}

theorem pieces_of_ordinary {text : List Char} (ordinary : ∀ c ∈ text, c ≠ '\\' ∧ c ≠ '[') :
    pieces false text = text.map pieceOf := by
  induction text with
  | nil => rfl
  | cons c text inductionHypothesis =>
    obtain ⟨⟨backslash, opening⟩, ordinary⟩ := List.forall_mem_cons.mp ordinary
    have head : headPiece false c text = pieceOf c := plainPiece_eq backslash opening text
    rw [pieces_cons, head, source_pieceOf, List.length_singleton, Nat.sub_self, List.drop_zero,
      inductionHypothesis ordinary, List.map_cons]

theorem segmentRegexText_eq (ordinary : ∀ c ∈ pattern, c ≠ '\\' ∧ c ≠ '[') :
    segmentRegexText pattern = '^' :: pattern.flatMap segmentText ++ ['$'] := by
  rw [segmentRegexText, nesting, bodyText, pieces_of_ordinary ordinary, List.flatMap_map]
  simp only [regexText_pieceOf]

/-- The words that a character of a pattern stands for, as a language. -/
def covered (c : Char) : Language Char := {word | Covers c word}

/-- The texts that a pattern fits. -/
def fitted (pattern : List Char) : Language Char := {text | Fits pattern text}

theorem mem_covered {c : Char} {word : List Char} : word ∈ covered c ↔ Covers c word := Iff.rfl

theorem fitted_nil : fitted [] = 1 := Language.ext fun _ => fits_nil_iff

theorem fitted_cons (c : Char) (pattern : List Char) :
    fitted (c :: pattern) = covered c * fitted pattern := by
  refine Language.ext fun text => ?_
  change Fits (c :: pattern) text ↔ _
  rw [fits_cons_iff, Language.mem_mul]
  constructor
  · rintro ⟨word, rest, covers, fits, rfl⟩
    exact ⟨word, covers, rest, fits, rfl⟩
  · rintro ⟨word, covers, rest, fits, rfl⟩
    exact ⟨word, rest, covers, fits, rfl⟩

/-- A run within a segment is put together from characters that are no slash. -/
theorem kstar_covered : KStar.kstar (covered '?') = covered '*' := by
  have single : ∀ word, word ∈ covered '?' ↔ ∃ c, c ≠ '/' ∧ word = [c] := fun _ => Iff.rfl
  refine Language.ext fun run => ?_
  rw [mem_kstar_singles single, mem_covered, Covers, if_pos rfl]
  exact ⟨fun ordinary member => ordinary _ member rfl, fun absent c member same =>
    absent (same ▸ member)⟩

theorem readsPart_withinSegment : ReadsPart ['[', '^', '/', ']'] [.atom (.char 47 true)]
    (.char 47 true) (covered '?') := by
  have reads := @readsPart_set ['^', '/'] true [.code 47] fun _ => rfl
  have passes : ∀ c : Char, (Regex.CharSet.found false [.code 47] c != true) = true ↔ c ≠ '/' := by
    intro c
    simp [Regex.CharSet.found, Regex.Item.has, ← Char.toNat_inj]
  simp only [passes] at reads
  exact reads

theorem exists_readsPart (c : Char) :
    ∃ tokens, ReadsPart (segmentText c) tokens (segmentPart c) (covered c) := by
  unfold segmentText segmentPart
  split
  · rename_i star
    subst star
    rw [← kstar_covered]
    exact ⟨_, readsPart_withinSegment.star fun _ => rfl⟩
  · rename_i star
    split
    · rename_i question
      subst question
      exact ⟨_, readsPart_withinSegment⟩
    · rename_i question
      have alone : covered c = (Atom.literal c).language := by
        refine Language.ext fun word => ?_
        rw [mem_covered, Covers, if_neg star, if_neg question, Atom.language]
        rfl
      rw [alone]
      exact ⟨_, readsPart_literal c⟩

theorem segmentText_head (pattern : List Char) {tail : List Char} (follows : Follows tail) :
    (pattern.flatMap segmentText ++ tail).head? ≠ some '?' := by
  cases pattern with
  | nil => exact follows.greedy
  | cons c pattern =>
    rw [List.flatMap_cons, List.append_assoc, segmentText]
    split
    · simp
    · split
      · simp
      · exact literalText_head c _

theorem exists_reads (pattern : List Char) : ∃ tokens,
    Reads (pattern.flatMap segmentText) tokens (pattern.map segmentPart) (fitted pattern) := by
  induction pattern with
  | nil =>
    rw [fitted_nil]
    exact ⟨[], fun _ => .done, fun _ _ _ => rfl, Regex.recognizes_empty⟩
  | cons c pattern inductionHypothesis =>
    obtain ⟨first, reads⟩ := exists_readsPart c
    obtain ⟨tokens, others⟩ := inductionHypothesis
    rw [fitted_cons]
    exact ⟨_, .prepend reads (segmentText_head pattern) others⟩

/-- A pattern is read as the parts of its characters. -/
theorem parse?_segmentRegexText (ordinary : ∀ c ∈ pattern, c ≠ '\\' ∧ c ≠ '[') :
    Regex.parse? (segmentRegexText pattern) = some (segmentRegex pattern) := by
  obtain ⟨tokens, reads⟩ := exists_reads pattern
  rw [segmentRegexText_eq ordinary, reads.parse?, segmentRegex]

/-- A path matches from its start if the pattern fits it, or what is in front of its last newline.
-/
theorem matchesStart_segmentRegex {path : List Char} :
    (segmentRegex pattern).matchesStart false path = true ↔
      ∃ line, Fits pattern line ∧ (path = line ∨ path = line ++ ['\n']) := by
  obtain ⟨tokens, reads⟩ := exists_reads pattern
  exact reads.recognizes.matchesStart_iff path

end Reading

section Dividing

/-- A pattern of a list: not empty, and without colons, backslashes and opening brackets. -/
structure IsListed (pattern : List Char) : Prop where
  nonempty : pattern ≠ []
  undivided : ':' ∉ pattern
  ordinary : ∀ c ∈ pattern, c ≠ '\\' ∧ c ≠ '['

theorem isListed_iff {pattern : List Char} :
    IsListed pattern ↔
      pattern ≠ [] ∧ (pattern.all fun c => c != ':' && c != '\\' && c != '[') = true := by
  constructor
  · rintro ⟨nonempty, undivided, ordinary⟩
    refine ⟨nonempty, List.all_eq_true.mpr fun c member => ?_⟩
    have colon : c ≠ ':' := by
      rintro rfl
      exact undivided member
    simp [colon, ordinary c member]
  · rintro ⟨nonempty, each⟩
    simp only [List.all_eq_true, Bool.and_eq_true, bne_iff_ne] at each
    exact ⟨nonempty, fun member => (each ':' member).1.1 rfl,
      fun c member => ⟨(each c member).1.2, (each c member).2⟩⟩

instance (pattern : List Char) : Decidable (IsListed pattern) :=
  decidable_of_iff _ isListed_iff.symm

variable {patterns : List (List Char)}

theorem isEntry_of_ordinary {text : List Char} (undivided : ':' ∉ text)
    (ordinary : ∀ c ∈ text, c ≠ '\\' ∧ c ≠ '[') : IsEntry text := by
  induction text with
  | nil => exact .nil
  | cons c text inductionHypothesis =>
    obtain ⟨colon, undivided⟩ := not_or.mp (mt List.mem_cons.mpr undivided)
    obtain ⟨head, ordinary⟩ := List.forall_mem_cons.mp ordinary
    exact .plain ⟨Ne.symm colon, head⟩ (inductionHypothesis undivided ordinary)

/-- Dividing a list at its colons gives back its patterns. -/
theorem ignorePatterns_intercalate (listed : ∀ pattern ∈ patterns, IsListed pattern) :
    ignorePatterns ([':'].intercalate patterns) = patterns := by
  refine ignorePatterns_of_undivided (fun pattern member => (listed pattern member).nonempty)
    fun pattern member => ?_
  have whole := listed pattern member
  exact (isEntry_of_ordinary whole.undivided whole.ordinary).undivided

end Dividing

section Segments

variable {path : List Char}

theorem lastSegment_append {front segment : List Char}
    (divided : front = [] ∨ ∃ before, front = before ++ ['/']) (whole : '/' ∉ segment) :
    lastSegment (front ++ segment) = segment := by
  have stops : front.reverse.takeWhile (· ≠ '/') = [] := by
    rcases divided with rfl | ⟨before, rfl⟩
    · rfl
    · simp
  rw [lastSegment, List.reverse_append, List.takeWhile_append_of_pos, stops, List.append_nil,
    List.reverse_reverse]
  intro c member
  have other : c ≠ '/' := by
    rintro rfl
    exact whole (List.mem_reverse.mp member)
  simpa using other

theorem exists_front (path : List Char) : ∃ front, path = front ++ lastSegment path ∧
    (front = [] ∨ ∃ before, front = before ++ ['/']) := by
  refine ⟨(path.reverse.dropWhile (· ≠ '/')).reverse, ?_, ?_⟩
  · rw [lastSegment, ← List.reverse_append, List.takeWhile_append_dropWhile, List.reverse_reverse]
  · have head := List.head?_dropWhile_not (· ≠ '/') path.reverse
    cases rest : path.reverse.dropWhile (· ≠ '/') with
    | nil => exact .inl rfl
    | cons c before =>
      rw [rest] at head
      obtain rfl : c = '/' := by simpa using head
      exact .inr ⟨before.reverse, by rw [List.reverse_cons]⟩

/-- A dot segment comes last exactly if the path ends in one, alone or behind a slash. -/
theorem isDotSegment_lastSegment_iff :
    isDotSegment (lastSegment path) = true ↔ EndsInDots path := by
  unfold isDotSegment
  rw [Bool.or_eq_true, decide_eq_true_eq, decide_eq_true_eq]
  constructor
  · intro dots
    obtain ⟨front, whole, divided⟩ := exists_front path
    refine ⟨front, divided, ?_⟩
    rcases dots with dots | dots <;> rw [dots] at whole
    · exact .inl whole
    · exact .inr whole
  · rintro ⟨front, divided, rfl | rfl⟩
    · exact .inl (lastSegment_append divided (by decide))
    · exact .inr (lastSegment_append divided (by decide))

instance (path : List Char) : Decidable (EndsInDots path) :=
  decidable_of_iff _ isDotSegment_lastSegment_iff

end Segments

section Filtering

variable {patterns : List (List Char)}

instance (path : List Char) : Decidable (Ignored patterns path) :=
  inferInstanceAs (Decidable (_ ∨ _))

theorem fitsLine_iff {path : List Char} : FitsLine patterns path ↔
    path.getLast? = some '\n' ∧ ∃ pattern ∈ patterns, Fits pattern path.dropLast := by
  constructor
  · rintro ⟨pattern, member, line, fits, rfl⟩
    exact ⟨by simp, pattern, member, by simpa using fits⟩
  · rintro ⟨last, pattern, member, fits⟩
    obtain ⟨line, rfl⟩ := List.getLast?_eq_some_iff.mp last
    exact ⟨pattern, member, line, by simpa using fits, rfl⟩

instance (path : List Char) : Decidable (FitsLine patterns path) :=
  decidable_of_iff _ fitsLine_iff.symm

/-- A path is kept if it is not to be left out and no newline at its end misleads a pattern. -/
theorem isKept_iff {path : List Char} : isKept (patterns.map segmentRegex) path = true ↔
    ¬ Ignored patterns path ∧ ¬ FitsLine patterns path := by
  have matched : (patterns.map segmentRegex).any (·.matchesStart false path) = true ↔
      (∃ pattern ∈ patterns, Fits pattern path) ∨ FitsLine patterns path := by
    rw [List.any_map, List.any_eq_true]
    simp only [Function.comp_apply, matchesStart_segmentRegex]
    constructor
    · rintro ⟨pattern, member, line, fits, rfl | rfl⟩
      · exact .inl ⟨pattern, member, fits⟩
      · exact .inr ⟨pattern, member, line, fits, rfl⟩
    · rintro (⟨pattern, member, fits⟩ | ⟨pattern, member, line, fits, rfl⟩)
      · exact ⟨pattern, member, path, fits, .inl rfl⟩
      · exact ⟨pattern, member, line, fits, .inr rfl⟩
  rw [isKept, Bool.and_eq_true, Bool.not_eq_true', Bool.not_eq_true', ← Bool.not_eq_true,
    ← Bool.not_eq_true, matched, isDotSegment_lastSegment_iff, not_or, ← and_assoc, ← not_or]
  rfl

theorem ignoreRegexes?_eq (listed : ∀ pattern ∈ patterns, IsListed pattern) :
    ignoreRegexes? patterns = some (patterns.map segmentRegex) := by
  induction patterns with
  | nil => rfl
  | cons pattern patterns inductionHypothesis =>
    obtain ⟨first, others⟩ := List.forall_mem_cons.mp listed
    have rest := inductionHypothesis others
    unfold ignoreRegexes? at rest ⊢
    rw [List.mapM_cons, parse?_segmentRegexText first.ordinary, rest]
    rfl

/-- A list of patterns keeps the paths that its expressions keep. -/
theorem keep?_intercalate (nonempty : patterns ≠ [])
    (listed : ∀ pattern ∈ patterns, IsListed pattern) (paths : List (List Char)) :
    keep? ([':'].intercalate patterns) paths =
      some (paths.filter (isKept (patterns.map segmentRegex))) := by
  rw [keep?, ignorePatterns_intercalate listed]
  split
  · contradiction
  · rw [ignoreRegexes?_eq listed]
    rfl

end Filtering

end Shell.Glob

namespace Shell.State

open Glob (IsListed Ignored FitsLine)

variable {state : State} {patterns : List String}

theorem keptPaths_eq (nonempty : patterns ≠ [])
    (listed : ∀ pattern ∈ patterns, IsListed pattern.toList)
    (set : state.store.get? "GLOBIGNORE" = some (":".intercalate patterns)) (paths : List String) :
    state.keptPaths paths = .ok (paths.filter fun path =>
      Glob.isKept ((patterns.map String.toList).map Glob.segmentRegex) path.toList) := by
  have divided := @Glob.keep?_intercalate (patterns.map String.toList) (by simpa using nonempty)
    (by simpa using listed) (paths.map String.toList)
  have joined : ((some (":".intercalate patterns)).getD "").toList =
      [':'].intercalate (patterns.map String.toList) := String.toList_intercalate
  rw [keptPaths, set, joined, divided]
  simp [List.filter_map, Function.comp_def]

/-- Ignoring paths leaves exactly the paths that are not to be left out, in their order, if and only
if no other path fits a pattern but for a newline at its end. -/
theorem keptPaths_exact_iff (nonempty : patterns ≠ [])
    (listed : ∀ pattern ∈ patterns, IsListed pattern.toList)
    (set : state.store.get? "GLOBIGNORE" = some (":".intercalate patterns)) (paths : List String) :
    state.keptPaths paths =
        .ok (paths.filter fun path => ¬ Ignored (patterns.map String.toList) path.toList) ↔
      ∀ path ∈ paths, FitsLine (patterns.map String.toList) path.toList →
        Ignored (patterns.map String.toList) path.toList := by
  rw [keptPaths_eq nonempty listed set, Except.ok.injEq]
  constructor
  · intro same path member fits
    by_contra kept
    have inside : path ∈ paths.filter fun path =>
        ¬ Ignored (patterns.map String.toList) path.toList :=
      List.mem_filter.mpr ⟨member, by simpa using kept⟩
    rw [← same] at inside
    exact (Glob.isKept_iff.mp (List.mem_filter.mp inside).2).2 fits
  · intro misled
    refine List.filter_congr fun path member => ?_
    rw [Bool.eq_iff_iff, Glob.isKept_iff, decide_eq_true_eq, and_iff_left_iff_imp]
    exact fun kept fits => kept (misled path member fits)

/-- Wildcards at all places, and a slash. -/
def ignoringState : State :=
  { store := ({} : Store).put "GLOBIGNORE" "*.o:d/?:b*" }

theorem ignoringState_keeps_exactly :
    ignoringState.keptPaths ["x\ny.o", "d/x.o", "d/x", "d//", "b", "bc\n", "e/..", "...",
      "d/x\nz"] =
      .ok ["d/x.o", "d//", "...", "d/x\nz"] := by
  have filters := @keptPaths_exact_iff ignoringState ["*.o", "d/?", "b*"] (by decide) (by decide)
    (by decide)
    ["x\ny.o", "d/x.o", "d/x", "d//", "b", "bc\n", "e/..", "...", "d/x\nz"]
  exact (filters.mpr (by decide)).trans (congrArg Except.ok (by decide))

/-- A path that ends in a newline is left out, although the pattern fits only what is in front of
it. -/
theorem newline_is_disregarded : ¬ ∀ (state : State) (patterns : List String), patterns ≠ [] →
    (∀ pattern ∈ patterns, IsListed pattern.toList) →
    state.store.get? "GLOBIGNORE" = some (":".intercalate patterns) →
    ∀ paths, state.keptPaths paths =
      .ok (paths.filter fun path => ¬ Ignored (patterns.map String.toList) path.toList) := by
  intro filters
  have kept := filters { store := ({} : Store).put "GLOBIGNORE" "a" } ["a"] (by decide) (by decide)
    (by decide) ["a\n", "b"]
  have dropped : State.keptPaths { store := ({} : Store).put "GLOBIGNORE" "a" } ["a\n", "b"] =
      .ok ["b"] := by decide
  rw [dropped] at kept
  exact absurd (Except.ok.inj kept) (by decide)

end Shell.State
