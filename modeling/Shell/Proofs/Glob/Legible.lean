import Shell.Proofs.Glob.Ignoring
import Shell.Proofs.Regex.SetGrammar

/-!
# Malformed patterns in a list

A pattern of a list becomes a regular expression, and nothing but the character sets in that
expression can be malformed. A set is written for every wildcard and for every bracket that has
members. One that consists of a mark alone takes the bracket that should close it as its first
member, and runs on to the end of the next set. If all sets of all patterns end and are well formed,
the list leaves some of the paths, in their order; otherwise it fails, whatever the paths are.
-/

namespace Shell.Glob

open Regex (IsSet ofItems Token)

section Sets

/-- What is written for a piece where wildcards stay within a segment. -/
def Piece.segmentText (piece : Piece) : List Char := piece.regexText .withinSegment fun _ => []

/-- What stands between the brackets of the set that is written for a piece, if one is. -/
def Piece.set? : Piece → Option (List Char)
  | anyText | anyChar => some ['^', '/']
  | bracket content =>
    let mark := leadingMark content
    let members := membersFrom none (content.drop mark.length)
    if members = [] then none else some (if mark = [] then members else '^' :: members)
  | _ => none

/-- The sets that are written for pieces. `begun` is what was read of a set that begins with a mark
and a closing bracket; there are none if it never ends. -/
def setsFrom? : (begun : Option (List Char)) → List Piece → Option (List (List Char))
  | none, [] => some []
  | some _, [] => none
  | none, piece :: rest =>
    match piece.set? with
    | none => setsFrom? none rest
    | some ['^'] => setsFrom? (some []) rest
    | some text => (setsFrom? none rest).map (text :: ·)
  | some begun, piece :: rest =>
    match piece.set? with
    | none => setsFrom? (some (begun ++ piece.segmentText)) rest
    | some text => (setsFrom? none rest).map (('^' :: ']' :: (begun ++ '[' :: text)) :: ·)

/-- All sets end and are well formed. -/
def AreSets (texts : Option (List (List Char))) : Prop :=
  ∃ sets, texts = some sets ∧ ∀ text ∈ sets, IsSet text

/-- The sets that are written for a pattern end and are well formed. -/
def Legible (pattern : List Char) : Prop := AreSets (setsFrom? none (pieces false pattern))

theorem not_areSets_none : ¬ AreSets none := by
  rintro ⟨sets, same, -⟩
  contradiction

theorem areSets_map_cons {text : List Char} {texts : Option (List (List Char))} :
    AreSets (texts.map (text :: ·)) ↔ IsSet text ∧ AreSets texts := by
  cases texts with
  | none => simp [AreSets]
  | some sets => simp [AreSets]

instance (texts : Option (List (List Char))) : Decidable (AreSets texts) :=
  match texts with
  | none => isFalse not_areSets_none
  | some sets => decidable_of_iff (∀ text ∈ sets, IsSet text) (by simp [AreSets])

instance (pattern : List Char) : Decidable (Legible pattern) :=
  inferInstanceAs (Decidable (AreSets _))

end Sets

section Writing

/-- How a piece is written: as a part that is always read, or as a set, which a star may repeat. -/
inductive Written (piece : Piece) : Prop
  | part {tokens : List Token} {part : Regex} {language : Language Char}
      (bare : piece.set? = none) (unclosing : Unclosing piece.segmentText)
      (head : ∀ rest, (piece.segmentText ++ rest).head? ≠ some '?')
      (reads : ReadsPart piece.segmentText tokens part language)
  | set {text star : List Char} (written : piece.set? = some text)
      (same : piece.segmentText = '[' :: (text ++ ']' :: star))
      (repeated : star = [] ∨ star = ['*'] ∧ text ≠ ['^']) (nonempty : text ≠ [])
      (unclosing : Unclosing text)

theorem written_literal {piece : Piece} {c : Char} (bare : piece.set? = none)
    (same : piece.segmentText = literalText c) : Written piece := by
  refine .part bare ?_ ?_ (same ▸ readsPart_literal c)
  · rw [same]
    exact unclosing_literalText c
  · rw [same]
    exact literalText_head c

theorem unclosing_slash : Unclosing ['^', '/'] := ⟨by decide, by decide⟩

theorem bracketText_of_set {content text : List Char}
    (written : (Piece.bracket content).set? = some text) :
    bracketText content = '[' :: (text ++ [']']) := by
  unfold Piece.set? at written
  unfold bracketText
  dsimp only at written ⊢
  split at written
  · contradiction
  · rename_i nonempty
    obtain rfl := Option.some.inj written
    split <;> simp_all

theorem bracketText_of_bare {content : List Char} (bare : (Piece.bracket content).set? = none) :
    bracketText content = "(?!)".toList ∨ bracketText content = ['.'] := by
  unfold Piece.set? at bare
  unfold bracketText
  dsimp only at bare ⊢
  split at bare
  · split <;> simp_all
  · contradiction

theorem written_bracket {rest content after : List Char}
    (found : bracket? rest = some (content, after)) : Written (.bracket content) := by
  have text : (Piece.bracket content).segmentText = bracketText content := rfl
  cases written : (Piece.bracket content).set? with
  | none =>
    rcases bracketText_of_bare written with nothing | any
    · have same : (Piece.bracket content).segmentText = ['(', '?', '!', ')'] := text.trans nothing
      exact .part written (same ▸ ⟨by decide, by decide⟩) (by simp [same])
        (same ▸ readsPart_nothing)
    · have same : (Piece.bracket content).segmentText = ['.'] := text.trans any
      exact .part written (same ▸ ⟨by decide, by decide⟩) (by simp [same])
        (same ▸ readsPart_anyChar)
  | some members =>
    have whole := bracketText_of_set written
    rcases bracketText_cases found with nothing | any | ⟨others, same, nonempty, unclosing⟩
    · simp [nothing] at whole
    · simp [any] at whole
    · obtain rfl : others = members := by simpa using same.symm.trans whole
      exact .set written whole (.inl rfl) nonempty unclosing

theorem written_plainPiece (c : Char) (rest : List Char) : Written (plainPiece c rest) := by
  unfold plainPiece
  split
  · exact written_literal rfl rfl
  · exact .set rfl rfl (.inr ⟨rfl, by simp⟩) (by simp) unclosing_slash
  · exact .set rfl rfl (.inl rfl) (by simp) unclosing_slash
  · split
    · rename_i content after found
      exact written_bracket found
    · exact written_literal (c := '[') rfl rfl
  · exact written_literal rfl rfl

theorem written_of_mem_pieces {pattern : List Char} {piece : Piece}
    (member : piece ∈ pieces false pattern) : Written piece := by
  obtain ⟨c, rest, rfl⟩ := exists_headPiece member
  exact written_plainPiece c rest

theorem Written.head {piece : Piece} (written : Written piece) (rest : List Char) :
    (piece.segmentText ++ rest).head? ≠ some '?' := by
  cases written with
  | part _ _ head _ => exact head rest
  | set _ same => simp [same]

/-- What is written for pieces in a row. -/
def segmentTexts (pieces : List Piece) : List Char := pieces.flatMap Piece.segmentText

theorem segmentTexts_cons (piece : Piece) (pieces : List Piece) :
    segmentTexts (piece :: pieces) = piece.segmentText ++ segmentTexts pieces := List.flatMap_cons

theorem segmentTexts_head {pieces : List Piece} (written : ∀ piece ∈ pieces, Written piece)
    {tail : List Char} (follows : Follows tail) :
    (segmentTexts pieces ++ tail).head? ≠ some '?' := by
  cases pieces with
  | nil => exact follows.greedy
  | cons piece pieces =>
    rw [segmentTexts_cons, List.append_assoc]
    exact (written piece List.mem_cons_self).head _

theorem segmentRegexText_eq_segmentTexts (pattern : List Char) :
    segmentRegexText pattern = '^' :: segmentTexts (pieces false pattern) ++ ['$'] := by
  have each : ∀ inner, ∀ piece ∈ pieces false pattern,
      piece.regexText .withinSegment inner = piece.segmentText := by
    intro inner piece member
    obtain ⟨c, rest, rfl⟩ := exists_headPiece member
    change (plainPiece c rest).regexText .withinSegment inner = (plainPiece c rest).segmentText
    unfold plainPiece Piece.segmentText
    split
    · rfl
    · rfl
    · rfl
    · split <;> rfl
    · rfl
  have body : bodyText .withinSegment false (nesting pattern) pattern =
      segmentTexts (pieces false pattern) := List.flatMap_congr (each _)
  rw [segmentRegexText, body]

end Writing

section Judging

variable {front rest : List Char} {legible : Prop}

/-- The text is read in front of every literal text if it is legible, and otherwise in front of
none. -/
structure Judged (legible : Prop) (text : List Char) : Prop where
  reads : legible → ∃ tokens parts language, Reads text tokens parts language
  malformed : ¬ legible → Malformed text

theorem Judged.prepend {tokens : List Token} {part : Regex} {language : Language Char}
    (reads : ReadsPart front tokens part language)
    (head : ∀ {tail}, Follows tail → (rest ++ tail).head? ≠ some '?')
    (judged : Judged legible rest) : Judged legible (front ++ rest) where
  reads holds := by
    obtain ⟨others, parts, inner, reading⟩ := judged.reads holds
    exact ⟨_, _, _, .prepend reads head reading⟩
  malformed fails tail fuel follows := by
    rw [List.append_assoc]
    exact (reads.scans (head follows)).tokens?_eq_none
      (fun fuel => judged.malformed fails tail fuel follows) fuel

/-- A set is read as one part, whether a star repeats it or not. -/
theorem exists_readsPart_set {text star : List Char} (isSet : IsSet text)
    (repeated : star = [] ∨ star = ['*']) :
    ∃ tokens part language, ReadsPart ('[' :: (text ++ ']' :: star)) tokens part language := by
  obtain ⟨negated, items, read⟩ := isSet.bracket?
  have reads := readsPart_set read
  rcases repeated with rfl | rfl
  · exact ⟨_, _, _, reads⟩
  · have repeats : ∀ inner : Regex.Group, (inner.push (ofItems negated items)).repeat? .any =
        some (inner.push (.star (ofItems negated items))) := by
      intro inner
      unfold ofItems
      split <;> rfl
    have starred := reads.star repeats
    rw [List.cons_append, List.append_assoc, List.singleton_append] at starred
    exact ⟨_, _, _, starred⟩

/-- A set in front of other text. -/
theorem Judged.set {text star : List Char} (repeated : star = [] ∨ star = ['*'])
    (unread : ¬ IsSet text → ∀ tail, Regex.bracket? (text ++ ']' :: tail) = none)
    (head : ∀ {tail}, Follows tail → (rest ++ tail).head? ≠ some '?')
    (judged : Judged legible rest) :
    Judged (IsSet text ∧ legible) ('[' :: (text ++ ']' :: star) ++ rest) := by
  by_cases isSet : IsSet text
  · obtain ⟨tokens, part, language, reads⟩ := exists_readsPart_set isSet repeated
    have whole := judged.prepend reads head
    exact ⟨fun holds => whole.reads holds.2, fun fails => whole.malformed fun holds =>
      fails ⟨isSet, holds⟩⟩
  · refine ⟨fun holds => absurd holds.1 isSet, fun _ tail fuel _ => ?_⟩
    have whole : '[' :: (text ++ ']' :: star) ++ rest ++ tail =
        '[' :: (text ++ ']' :: (star ++ (rest ++ tail))) := by simp
    rw [whole]
    exact tokens?_set_eq_none (unread isSet _) fuel

theorem judged_nil : Judged (AreSets (setsFrom? none [])) [] :=
  ⟨fun _ => ⟨[], [], 1, fun _ => .done, fun _ _ _ => rfl, Regex.recognizes_empty⟩,
    fun fails => absurd ⟨[], rfl, by simp⟩ fails⟩

/-- A set that nothing closes, neither its own text nor what follows it. -/
theorem judged_unclosed {begun : List Char} (unclosing : Unclosing begun) :
    Judged (AreSets (setsFrom? (some begun) [])) ('[' :: '^' :: ']' :: begun) := by
  refine ⟨fun holds => absurd holds not_areSets_none, fun _ tail fuel follows => ?_⟩
  have sealed : Regex.hasCloser (begun ++ tail) = false := by
    rw [Regex.hasCloser_append unclosing.closed, unclosing.sealed, follows.sealed]
    rfl
  refine tokens?_set_eq_none ?_ fuel
  change Regex.bracket? ('^' :: ']' :: (begun ++ tail)) = none
  rw [Regex.bracket?_closing]
  exact Regex.bracket?_of_unclosed sealed

theorem judged_segmentTexts {pieces : List Piece} (written : ∀ piece ∈ pieces, Written piece) :
    Judged (AreSets (setsFrom? none pieces)) (segmentTexts pieces) ∧
      ∀ begun, Unclosing begun → Judged (AreSets (setsFrom? (some begun) pieces))
        ('[' :: '^' :: ']' :: (begun ++ segmentTexts pieces)) := by
  induction pieces with
  | nil =>
    refine ⟨judged_nil, fun begun unclosing => ?_⟩
    rw [segmentTexts, List.flatMap_nil, List.append_nil]
    exact judged_unclosed unclosing
  | cons piece pieces inductionHypothesis =>
    obtain ⟨first, others⟩ := List.forall_mem_cons.mp written
    obtain ⟨judged, running⟩ := inductionHypothesis others
    have head : ∀ {tail}, Follows tail → (segmentTexts pieces ++ tail).head? ≠ some '?' :=
      fun follows => segmentTexts_head others follows
    rw [segmentTexts_cons]
    cases first with
    | part bare unclosing greedy reads =>
      refine ⟨?_, fun begun begunUnclosing => ?_⟩
      · have same : setsFrom? none (piece :: pieces) = setsFrom? none pieces := by
          rw [setsFrom?, bare]
        rw [same]
        exact judged.prepend reads head
      · have same : setsFrom? (some begun) (piece :: pieces) =
            setsFrom? (some (begun ++ piece.segmentText)) pieces := by
          rw [setsFrom?, bare]
        rw [same, ← List.append_assoc]
        exact running _ (begunUnclosing.append unclosing)
    | @set text star set same repeated nonempty unclosing =>
      have starred : star = [] ∨ star = ['*'] := repeated.imp_right And.left
      rw [same]
      refine ⟨?_, fun begun begunUnclosing => ?_⟩
      · by_cases marked : text = ['^']
        · subst marked
          have begins : setsFrom? none (piece :: pieces) = setsFrom? (some []) pieces := by
            rw [setsFrom?, set]
            rfl
          obtain rfl : star = [] := repeated.resolve_right fun starred => starred.2 rfl
          rw [begins]
          exact running [] .nil
        · have next : setsFrom? none (piece :: pieces) =
              (setsFrom? none pieces).map (text :: ·) := by
            rw [setsFrom?, set]
            split <;> simp_all
          rw [next, areSets_map_cons]
          exact judged.set starred
            (Regex.bracket?_of_not_isSet unclosing.closed unclosing.sealed nonempty marked) head
      · have next : setsFrom? (some begun) (piece :: pieces) =
            (setsFrom? none pieces).map (('^' :: ']' :: (begun ++ '[' :: text)) :: ·) := by
          rw [setsFrom?, set]
        have inner : Unclosing (begun ++ '[' :: text) :=
          begunUnclosing.append (unclosing.cons (by decide) (by decide))
        have whole := judged.set starred
          (fun malformed tail =>
            Regex.bracket?_of_not_isSet_closing inner.closed inner.sealed malformed tail) head
        rw [next, areSets_map_cons]
        simpa using whole

end Judging

section Filtering

variable {pattern : List Char} {patterns : List (List Char)}

/-- A legible pattern becomes a regular expression, and no other does. -/
theorem isSome_parse?_iff :
    (Regex.parse? (segmentRegexText pattern)).isSome = true ↔ Legible pattern := by
  have judged : Judged (Legible pattern) (segmentTexts (pieces false pattern)) :=
    (judged_segmentTexts fun _ => written_of_mem_pieces).1
  rw [segmentRegexText_eq_segmentTexts]
  by_cases legible : Legible pattern
  · obtain ⟨tokens, parts, language, reads⟩ := judged.reads legible
    rw [reads.parse?]
    exact iff_of_true rfl legible
  · rw [parse?_between, judged.malformed legible _ _ follows_end]
    simp [legible]

/-- An unknown class leaves a caret alone, and its set runs on into that of the wildcard. -/
example : Legible "[[:unknown:]^]z*".toList ∧ ¬ Legible "[[:unknown:]^]z".toList := by decide

theorem isSome_ignoreRegexes?_iff :
    (ignoreRegexes? patterns).isSome = true ↔ ∀ pattern ∈ patterns, Legible pattern := by
  induction patterns with
  | nil => simp [ignoreRegexes?]
  | cons pattern patterns inductionHypothesis =>
    unfold ignoreRegexes? at inductionHypothesis ⊢
    rw [List.forall_mem_cons, ← inductionHypothesis, ← isSome_parse?_iff, List.mapM_cons]
    cases Regex.parse? (segmentRegexText pattern) with
    | none => simp
    | some regex =>
      cases patterns.mapM fun pattern => Regex.parse? (segmentRegexText pattern) <;> simp

theorem exists_keep? {list : List Char} (legible : ∀ pattern ∈ ignorePatterns list, Legible pattern)
    (paths : List (List Char)) : ∃ kept, keep? list paths = some kept ∧ kept.Sublist paths := by
  unfold keep?
  split
  · exact ⟨paths, rfl, .refl paths⟩
  · obtain ⟨regexes, made⟩ := Option.isSome_iff_exists.mp (isSome_ignoreRegexes?_iff.mpr legible)
    exact ⟨_, by rw [made]; rfl, List.filter_sublist⟩

theorem keep?_eq_none {list : List Char}
    (illegible : ¬ ∀ pattern ∈ ignorePatterns list, Legible pattern) (paths : List (List Char)) :
    keep? list paths = none := by
  unfold keep?
  split
  · rename_i empty
    simp [empty] at illegible
  · rw [← isSome_ignoreRegexes?_iff, Option.not_isSome_iff_eq_none] at illegible
    rw [illegible]
    rfl

end Filtering

end Shell.Glob

namespace Shell.State

open Glob (Legible ignorePatterns)

/-- The list of patterns for paths that are left out. -/
def ignoredPatterns (state : State) : List (List Char) :=
  ignorePatterns ((state.store.get? "GLOBIGNORE").getD "").toList

/-- Ignoring paths leaves some of them, in their order, if all patterns are legible. Otherwise it
fails, whatever the paths are. -/
theorem keptPaths_sublist_iff (state : State) (paths : List String) :
    ((∃ kept, state.keptPaths paths = .ok kept ∧ kept.Sublist paths) ↔
      ∀ pattern ∈ state.ignoredPatterns, Legible pattern) ∧
    (state.keptPaths paths = .error .badPattern ↔
      ∃ pattern ∈ state.ignoredPatterns, ¬ Legible pattern) := by
  by_cases legible : ∀ pattern ∈ state.ignoredPatterns, Legible pattern
  · obtain ⟨kept, ran, sublist⟩ := Glob.exists_keep? legible (paths.map String.toList)
    have whole : state.keptPaths paths = .ok (kept.map String.ofList) := by rw [keptPaths, ran]
    have strings := sublist.map String.ofList
    rw [List.map_map] at strings
    refine ⟨iff_of_true ⟨_, whole, by simpa using strings⟩ legible, iff_of_false ?_ ?_⟩
    · simp [whole]
    · simpa using legible
  · have failed : state.keptPaths paths = .error .badPattern := by
      rw [keptPaths, Glob.keep?_eq_none legible]
    refine ⟨iff_of_false ?_ legible, iff_of_true failed ?_⟩
    · simp [failed]
    · simpa using legible

/-- A range in the wrong order. -/
def reversedState : State := { store := ({} : Store).put "GLOBIGNORE" "[z-a]" }

/-- Ignoring paths fails at a range in the wrong order. -/
theorem reversed_range_fails : ¬ ∀ (state : State) (paths : List String),
    ∃ kept, state.keptPaths paths = .ok kept ∧ kept.Sublist paths := by
  intro filters
  obtain ⟨kept, ran, -⟩ := filters reversedState ["a", "b"]
  have failed : reversedState.keptPaths ["a", "b"] = .error .badPattern := by decide
  rw [failed] at ran
  contradiction

end Shell.State
