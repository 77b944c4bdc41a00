import Shell.Proofs.Expansion.Quoting
import Shell.Proofs.Glob.Adjacency
import Shell.Proofs.Variable.ElementZero

/-!
# Quoted text beside unquoted text

In a pattern, the value of an unquoted variable is active, and that of a quoted one
behind it is protected. The pattern matches what the first value matches, followed by
the second value, unless the first value leaves a backslash open.
-/

namespace Shell.Word

open Text

/-- A variable, and another one in double quotes right behind it. -/
def besideQuoted (first second : String) : String :=
  String.ofList ('$' :: (first.toList ++ '\x22' :: '$' :: (second.toList ++ ['\x22'])))

section Scanning

theorem continuesName_of_isNameChar {c : Char} (named : isNameChar c = true) :
    continuesName c = true := by
  unfold isNameChar at named
  unfold continuesName isAlphanumeric
  rw [Bool.or_eq_true] at named ⊢
  refine named.imp_left fun plain => ?_
  rw [if_pos (toNat_lt_of_isAlphanum plain), plain]

theorem beginsName_of_isNameStart {c : Char} (named : isNameStart c = true) :
    (isLetter c || c = '_') = true := by
  unfold isNameStart at named
  unfold isLetter
  rw [Bool.or_eq_true] at named ⊢
  refine named.imp_left fun plain => ?_
  have plainer : c.isAlphanum = true := by simp [Char.isAlphanum, plain]
  rw [if_pos (toNat_lt_of_isAlphanum plainer), plain]

/-- A name behind a dollar sign ends where no character continues it. -/
theorem dollar?_name {name rest : List Char} (identifier : isIdentifier name = true)
    (ends : ∀ c, rest.head? = some c → continuesName c = false) :
    dollar? (name ++ rest) = some (.parameter name name) := by
  cases name with
  | nil => contradiction
  | cons c name =>
    have start : isNameStart c = true := by
      unfold isIdentifier at identifier
      simp only [Bool.and_eq_true] at identifier
      exact identifier.1
    have continued : ∀ d ∈ name, continuesName d = true := fun d member =>
      continuesName_of_isNameChar (isNameChar_of_mem identifier (List.mem_cons_of_mem c member))
    have ended : rest.takeWhile continuesName = [] := by
      cases rest with
      | nil => rfl
      | cons d rest => simp [ends d rfl]
    have whole : (name ++ rest).takeWhile continuesName = name := by
      rw [List.takeWhile_append_of_pos continued, ended, List.append_nil]
    have parenthesis : c ≠ '(' := by
      rintro rfl
      contradiction
    have brace : c ≠ '\x7b' := by
      rintro rfl
      contradiction
    rw [List.cons_append, dollar?, if_pos (beginsName_of_isNameStart start), whole]
    · exact fun _ same => absurd same parenthesis
    · exact parenthesis
    · exact brace

theorem tokens_besideQuoted {first second : String}
    (firstNamed : isIdentifier first.toList = true)
    (secondNamed : isIdentifier second.toList = true) :
    tokens (besideQuoted first second).toList =
      [.parameter first.toList false, .parameter second.toList true] := by
  have inner : quotedTokensAfter 0 ('$' :: (second.toList ++ [])) =
      [.parameter second.toList true] ++ quotedTokensAfter 0 [] := by
    refine quotedTokensAfter_cons ?_
    change ((dollar? _).map (Dollar.head true)).getD _ = _
    rw [dollar?_name secondNamed (by simp)]
    rfl
  have quoted : tokensAfter 0 ('\x22' :: (('$' :: (second.toList ++ ['\x22'])) ++ [])) =
      [.parameter second.toList true] ++ tokensAfter 0 [] := by
    have unescaped : ∀ c ∈ '$' :: second.toList, c ≠ '\\' ∧ c ≠ '\x22' := by
      intro c member
      rcases List.mem_cons.mp member with rfl | inName
      · decide
      · exact unescaped_of_identifier secondNamed inName
    have cut : splitUnescaped? '\x22' ('$' :: (second.toList ++ ['\x22'])) =
        some ('$' :: second.toList, []) := by
      have found := splitUnescaped?_append unescaped ['\x22']
      rw [List.cons_append] at found
      rw [found]
      simp [splitUnescaped?]
    refine tokensAfter_cons ?_
    change ((splitUnescaped? '\x22' _).map _).getD _ = _
    rw [List.append_nil, cut, Option.map_some, Option.getD_some]
    dsimp only
    rw [List.append_nil] at inner
    rw [inner]
    simp [quotedTokensAfter]
  have active :
      tokensAfter 0 ('$' :: (first.toList ++ '\x22' :: '$' :: (second.toList ++ ['\x22']))) =
      [.parameter first.toList false] ++
        tokensAfter 0 ('\x22' :: '$' :: (second.toList ++ ['\x22'])) := by
    refine tokensAfter_cons ?_
    change ((dollar? _).map (Dollar.head false)).getD _ = _
    rw [dollar?_name firstNamed (by simp; decide)]
    rfl
  rw [besideQuoted, String.toList_ofList, tokens, active]
  rw [List.append_nil] at quoted
  rw [quoted]
  rfl

end Scanning

end Shell.Word

namespace Shell.State

open Running Word

/-- The name is an identifier, and always reads as the text. -/
structure Holds (state : State) (name text : String) : Prop where
  identifier : Text.isIdentifier name.toList = true
  reads : state.value name = pure text

/-- A scalar variable that is not special holds what is stored for it. -/
theorem holds_of_scalar {state : State} {name text : String}
    (identifier : Text.isIdentifier name.toList = true)
    (direct : state.store.isNameref name = false) (ordinary : isOrdinary name = true)
    (stored : state.store.get? name = some text) : state.Holds name text where
  identifier := identifier
  reads := by
    rw [value_scalar identifier direct ordinary, State.stored, callArray?_of_isOrdinary ordinary,
      stored]
    rfl

theorem expandPattern_besideQuoted {state : State} {first second p q : String}
    (active : state.Holds first p) (quoted : state.Holds second q) :
    state.expandPattern (besideQuoted first second) = pure (p ++ Glob.protectText q) := by
  have plain : ∀ text, protectIf false text = text := fun _ => rfl
  have shielded : protectIf true q = Glob.protectText q := rfl
  rw [expandPattern, tokens_besideQuoted active.identifier quoted.identifier]
  simp [expandToken, active.reads, quoted.reads, plain, shielded]

/-- On strings, the texts that a pattern and protected text behind it should match. -/
theorem matchesApart_iff {state : State} (simple : state.shopt "extglob" = false)
    (regards : state.shopt "nocasematch" = false) (p q : String) :
    (∀ word, state.matchesPattern word (p ++ Glob.protectText q) = true ↔
      ∃ front, word = front ++ q ∧ state.matchesPattern front p = true) ↔
      Glob.MatchesApart p.toList q.toList := by
  have mode : state.globMode = ⟨false, false⟩ := by rw [globMode, simple, regards]
  have pattern : (p ++ Glob.protectText q).toList = p.toList ++ Glob.protect q.toList := by
    simp [Glob.protectText]
  have fronts : ∀ word : String,
      (∃ front, word = front ++ q ∧ state.matchesPattern front p = true) ↔
        ∃ front, word.toList = front ++ q.toList ∧
          Glob.accepts ⟨false, false⟩ p.toList front = true := by
    intro word
    constructor
    · rintro ⟨front, rfl, matched⟩
      rw [matchesPattern, mode] at matched
      exact ⟨front.toList, by simp, matched⟩
    · rintro ⟨front, same, matched⟩
      refine ⟨String.ofList front, ?_, ?_⟩
      · rw [← String.toList_inj, same]
        simp
      · rw [matchesPattern, mode, String.toList_ofList, matched]
  simp only [fronts]
  simp only [matchesPattern, mode, pattern]
  constructor
  · intro apart word
    have same := apart (String.ofList word)
    rwa [String.toList_ofList] at same
  · intro apart word
    exact apart word.toList

/-- The pattern of an unquoted variable and a quoted one right behind it matches what the first
value matches, followed by the second value, if the first value leaves no backslash open or the
second is empty. An open backslash spoils this where an ordinary character follows, unless the first
value matches nothing at all. -/
theorem besideQuoted_matches_apart (state : State) {first second p q : String}
    (active : state.Holds first p) (quoted : state.Holds second q)
    (simple : state.shopt "extglob" = false) (regards : state.shopt "nocasematch" = false)
    (queries : Queries) :
    ∃ pattern, execute (state.expandPattern (besideQuoted first second)) queries =
        (.ok pattern, queries) ∧
      (Text.endsOpen p.toList = false ∨ q = "" → ∀ word,
        state.matchesPattern word pattern = true ↔
          ∃ front, word = front ++ q ∧ state.matchesPattern front p = true) ∧
      (Text.endsOpen p.toList = true →
        (∃ c rest, q.toList = c :: rest ∧ c ∉ Glob.patternSpecials) →
        ((∀ word, state.matchesPattern word pattern = true ↔
            ∃ front, word = front ++ q ∧ state.matchesPattern front p = true) ↔
          ∀ front, state.matchesPattern front p = false)) := by
  refine ⟨p ++ Glob.protectText q, ?_, ?_, ?_⟩
  · rw [expandPattern_besideQuoted active quoted, execute_pure]
  · intro clean
    rw [matchesApart_iff simple regards]
    rcases clean with closed | rfl
    · exact Glob.matchesApart_of_closed closed _
    · exact Glob.matchesApart_nil _
  · rintro isOpen ⟨c, rest, text, ordinary⟩
    have mode : state.globMode = ⟨false, false⟩ := by rw [globMode, simple, regards]
    rw [matchesApart_iff simple regards, text, Glob.matchesApart_iff_of_open isOpen ordinary]
    simp only [matchesPattern, mode]
    constructor
    · exact fun none front => none front.toList
    · intro none front
      have unmatched := none (String.ofList front)
      rwa [String.toList_ofList] at unmatched

/-- A bracket that is open in the first value, and the bracket that would close it in the second. -/
def bracketState : State := { store := (({} : Store).put "p" "*[").put "q" "]" }

theorem bracketState_matches_apart :
    bracketState.Holds "p" "*[" ∧ bracketState.Holds "q" "]" ∧
      bracketState.shopt "extglob" = false ∧ bracketState.shopt "nocasematch" = false ∧
      ∃ pattern, execute (bracketState.expandPattern (besideQuoted "p" "q")) {} =
        (.ok pattern, {}) ∧
        ∀ word, bracketState.matchesPattern word pattern = true ↔
          ∃ front, word = front ++ "]" ∧ bracketState.matchesPattern front "*[" = true := by
  have active : bracketState.Holds "p" "*[" :=
    holds_of_scalar (by decide) (by decide +kernel) (by decide +kernel) (by decide +kernel)
  have quoted : bracketState.Holds "q" "]" :=
    holds_of_scalar (by decide) (by decide +kernel) (by decide +kernel) (by decide +kernel)
  have simple : bracketState.shopt "extglob" = false := by decide +kernel
  have regards : bracketState.shopt "nocasematch" = false := by decide +kernel
  obtain ⟨pattern, ran, closed, -⟩ :=
    besideQuoted_matches_apart bracketState active quoted simple regards {}
  exact ⟨active, quoted, simple, regards, pattern, ran, closed (.inl (by decide))⟩

/-- A backslash in the first value, and a letter in the second. -/
def backslashState : State := { store := (({} : Store).put "p" "\\").put "q" "a" }

/-- The open backslash is lost: the pattern matches the letter, and not the backslash and the
letter. -/
theorem open_backslash_is_lost :
    backslashState.Holds "p" "\\" ∧ backslashState.Holds "q" "a" ∧
      backslashState.shopt "extglob" = false ∧ backslashState.shopt "nocasematch" = false ∧
      ∃ pattern,
        execute (backslashState.expandPattern (besideQuoted "p" "q")) {} = (.ok pattern, {}) ∧
        backslashState.matchesPattern "\\a" pattern = false ∧
        ∃ front, "\\a" = front ++ "a" ∧ backslashState.matchesPattern front "\\" = true := by
  have active : backslashState.Holds "p" "\\" :=
    holds_of_scalar (by decide) (by decide +kernel) (by decide +kernel) (by decide +kernel)
  have quoted : backslashState.Holds "q" "a" :=
    holds_of_scalar (by decide) (by decide +kernel) (by decide +kernel) (by decide +kernel)
  refine ⟨active, quoted, by decide +kernel, by decide +kernel, _,
    by rw [expandPattern_besideQuoted active quoted, execute_pure], ?_, "\\", rfl, ?_⟩
  · decide +kernel
  · decide +kernel

end Shell.State
