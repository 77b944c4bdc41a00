import Mathlib.Data.List.TakeWhile
import Shell.Proofs.Expansion.Quoting
import Shell.Proofs.Text.Backslash
import Shell.Proofs.Variable.Writes

/-!
# Detecting the commands of a pattern

The detector of command substitutions is a scanner of its own. It skips what single
quotes enclose, and knows neither double quotes nor braces: an apostrophe inside of
these counts as an opening quote for it and for nobody else. A command that it misses
stands behind such an apostrophe. A pattern whose commands are not reached expands as
it does without running any.
-/

namespace Shell.Word

open Text

/-- The token is a command to be run. -/
def Token.isCommand : Token → Bool
  | .command _ _ _ => true
  | _ => false

/-- Quoted text or the name of a variable has an apostrophe in it. -/
def Token.hasApostrophe : Token → Bool
  | .literal text => text.contains '\x27'
  | .parameter name _ => name.contains '\x27'
  | _ => false

/-- No apostrophe is in the tokens before the first command. What lies behind the tokens counts if
there is no command among them. -/
def exposes : List Token → (behind : Bool) → Bool
  | [], behind => behind
  | token :: rest, behind => token.isCommand || (!token.hasApostrophe && exposes rest behind)

@[simp]
theorem exposes_append (first second : List Token) (behind : Bool) :
    exposes (first ++ second) behind = exposes first (exposes second behind) := by
  induction first with
  | nil => rfl
  | cons token rest inductionHypothesis => simp [exposes, inductionHypothesis]

theorem exposes_mono {tokens : List Token} {first second : Bool} (implied : first → second)
    (exposed : exposes tokens first = true) : exposes tokens second = true := by
  induction tokens with
  | nil => exact implied exposed
  | cons token rest inductionHypothesis =>
    simp only [exposes, Bool.or_eq_true, Bool.and_eq_true] at exposed ⊢
    exact exposed.imp_right fun ⟨clean, later⟩ => ⟨clean, inductionHypothesis later⟩

theorem exposes_of_inert {tokens : List Token} {behind : Bool}
    (inert : ∀ token ∈ tokens, token.isCommand = false)
    (exposed : exposes tokens behind = true) : behind = true := by
  induction tokens with
  | nil => exact exposed
  | cons token rest inductionHypothesis =>
    simp only [exposes, inert token List.mem_cons_self, Bool.false_or, Bool.and_eq_true] at exposed
    exact inductionHypothesis (fun other member => inert other (List.mem_cons_of_mem _ member))
      exposed.2

/-- An apostrophe is in one of the tokens before a command that is not exposed. -/
theorem exists_hasApostrophe {tokens front back : List Token} {command : Token}
    (hidden : exposes tokens false = false) (split : tokens = front ++ command :: back)
    (runs : command.isCommand = true) : ∃ token ∈ front, token.hasApostrophe = true := by
  induction front generalizing tokens with
  | nil => simp [split, exposes, runs] at hidden
  | cons token front inductionHypothesis =>
    by_cases apostrophe : token.hasApostrophe = true
    · exact ⟨token, List.mem_cons_self, apostrophe⟩
    · have later : exposes (front ++ command :: back) false = false := by
        simp only [split, List.cons_append, exposes, Bool.or_eq_false_iff] at hidden
        simpa [apostrophe] using hidden.2
      obtain ⟨other, member, found⟩ := inductionHypothesis later rfl
      exact ⟨other, List.mem_cons_of_mem _ member, found⟩

/-- The detector gets over the text: what it finds behind the text it also finds with the text in
front. -/
def Passes (text : List Char) : Prop :=
  ∀ rest, runsCommandFrom false rest = true → runsCommandFrom false (text ++ rest) = true

/-- The detector finds what the tokens expose, if they are those of the text. -/
def Sees (found : List Token) (text : List Char) : Prop :=
  ∀ rest, exposes found (runsCommandFrom false rest) = true →
    runsCommandFrom false (text ++ rest) = true

theorem Passes.append {first second : List Char} (passes : Passes first)
    (further : Passes second) : Passes (first ++ second) := by
  intro rest runs
  rw [List.append_assoc]
  exact passes _ (further rest runs)

theorem Sees.append {firstFound secondFound : List Token} {first second : List Char}
    (sees : Sees firstFound first) (further : Sees secondFound second) :
    Sees (firstFound ++ secondFound) (first ++ second) := by
  intro rest exposed
  rw [exposes_append] at exposed
  rw [List.append_assoc]
  exact sees _ (exposes_mono (further rest) exposed)

/-- A token that is no command need not be looked at. -/
theorem Passes.sees {text : List Char} {token : Token} (inert : token.isCommand = false)
    (passes : token.hasApostrophe = false → Passes text) : Sees [token] text := by
  intro rest exposed
  simp only [exposes, inert, Bool.false_or, Bool.and_eq_true, Bool.not_eq_true'] at exposed
  exact passes exposed.1 rest exposed.2

section Passing

theorem passes_escape (c : Char) : Passes ['\\', c] := fun _ runs => runs

theorem passes_char {c : Char} (backslash : c ≠ '\\') (apostrophe : c ≠ '\x27') : Passes [c] := by
  intro rest runs
  rw [List.singleton_append]
  unfold runsCommandFrom
  split <;> simp_all

theorem passes_of_apostrophe_not_mem {text : List Char} (clean : '\x27' ∉ text)
    (closed : endsOpen text = false) : Passes text := by
  induction text using scanInduction with
  | nil => exact fun _ runs => runs
  | lone => exact absurd closed (by decide)
  | escape c rest inductionHypothesis =>
    exact (passes_escape c).append
      (inductionHypothesis (by simp_all) (by simpa using closed))
  | plain c rest backslash inductionHypothesis =>
    rw [List.mem_cons, not_or] at clean
    rw [endsOpen_cons backslash] at closed
    exact (passes_char backslash (Ne.symm clean.1)).append (inductionHypothesis clean.2 closed)

theorem runsCommandFrom_true_append {text : List Char} (clean : '\x27' ∉ text)
    (rest : List Char) :
    runsCommandFrom true (text ++ '\x27' :: rest) = runsCommandFrom false rest := by
  induction text with
  | nil => rfl
  | cons c text inductionHypothesis =>
    rw [List.mem_cons, not_or] at clean
    rw [List.cons_append, runsCommandFrom, decide_eq_true (Ne.symm clean.1),
      inductionHypothesis clean.2]

theorem passes_single {text : List Char} (clean : '\x27' ∉ text) :
    Passes ('\x27' :: text ++ ['\x27']) := by
  intro rest runs
  have closes : (text ++ '\x27' :: rest).contains '\x27' = true := by simp
  suffices runsCommandFrom false ('\x27' :: (text ++ '\x27' :: rest)) = true by simpa
  rw [runsCommandFrom, closes, runsCommandFrom_true_append clean, runs]

/-- Text up to a mark is not open: its last backslash has something behind it. -/
theorem splitUnescaped?_eq_some {mark : Char} {text before after : List Char}
    (found : splitUnescaped? mark text = some (before, after)) :
    text = before ++ mark :: after ∧ endsOpen before = false := by
  induction text using scanInduction generalizing before with
  | nil => simp [splitUnescaped?] at found
  | lone =>
    simp only [splitUnescaped?] at found
    split at found
    next same => simp_all [endsOpen, ← same]
    next => simp at found
  | escape c rest inductionHypothesis =>
    obtain ⟨⟨inner, last⟩, further, same⟩ := Option.map_eq_some_iff.mp found
    obtain ⟨rfl, rfl⟩ := Prod.mk.inj same
    obtain ⟨rfl, closed⟩ := inductionHypothesis further
    exact ⟨rfl, closed⟩
  | plain c rest backslash inductionHypothesis =>
    by_cases here : c = mark
    · rw [splitUnescaped?, if_pos here] at found
      · simp_all [endsOpen]
      · exact fun _ _ same => absurd same backslash
    · rw [splitUnescaped?_cons backslash here] at found
      obtain ⟨⟨inner, last⟩, further, same⟩ := Option.map_eq_some_iff.mp found
      obtain ⟨rfl, rfl⟩ := Prod.mk.inj same
      obtain ⟨rfl, closed⟩ := inductionHypothesis further
      exact ⟨rfl, by rw [endsOpen_cons backslash, closed]⟩

end Passing

/-- The detector finds a command where the text begins, or it sees what the tokens that are taken
off its head expose and goes on behind them. -/
def Meets (head : Head) (c : Char) (rest : List Char) : Prop :=
  (∀ more, runsCommandFrom false (c :: rest ++ more) = true) ∨
    ∃ taken tail, rest = taken ++ tail ∧ head.length = taken.length + 1 ∧
      Sees head.tokens (c :: taken) ∧ endsOpen (c :: taken) = false

section Heads

theorem meets_char {c : Char} {token : Token} (backslash : c ≠ '\\')
    (inert : token.isCommand = false) (clean : token.hasApostrophe = false → c ≠ '\x27')
    (rest : List Char) : Meets ⟨[token], 1⟩ c rest := by
  refine .inr ⟨[], rest, rfl, rfl, ?_, ?_⟩
  · exact Passes.sees inert fun without => passes_char backslash (clean without)
  · rw [endsOpen_cons backslash]
    rfl

theorem meets_parameter {name source : List Char} (quoted : Bool)
    (written : '\x27' ∈ source → '\x27' ∈ name) (closed : endsOpen source = false)
    (tail : List Char) :
    Meets ((Dollar.parameter name source).head quoted) '$' (source ++ tail) := by
  have open' : endsOpen ('$' :: source) = false := by
    rw [endsOpen_cons (by decide), closed]
  refine .inr ⟨source, tail, rfl, rfl, ?_, open'⟩
  refine Passes.sees rfl fun clean => passes_of_apostrophe_not_mem ?_ open'
  simp only [Token.hasApostrophe, List.contains_eq_mem, decide_eq_false_iff_not] at clean
  simpa using fun member => clean (written member)

theorem meets_dollar {token : Token} (quoted : Bool) (inert : token.isCommand = false)
    (rest : List Char) :
    Meets (((dollar? rest).map (Dollar.head quoted)).getD ⟨[token], 1⟩) '$' rest := by
  unfold dollar?
  split
  next => exact meets_char (by decide) inert (by simp) _
  next => exact .inl fun _ => rfl
  next => exact .inl fun _ => rfl
  next rest =>
    cases found : splitAt? '\x7d' rest with
    | none => exact meets_char (by decide) inert (by simp) _
    | some cut =>
      obtain ⟨name, after⟩ := cut
      have source : '\x7b' :: rest = ('\x7b' :: name ++ ['\x7d']) ++ after := by
        simp [splitAt?_eq_some found]
      rw [source]
      apply meets_parameter
      · simp
      · rw [List.cons_append, endsOpen_cons (by decide), endsOpen_append_of_plain (by decide)]
        rfl
  next c rest _ _ _ =>
    split
    next letter =>
      have source : c :: rest =
          (c :: rest.takeWhile continuesName) ++ rest.dropWhile continuesName := by simp
      rw [source]
      refine meets_parameter quoted id (endsOpen_of_not_mem fun member => ?_) _
      rcases List.mem_cons.mp member with same | later
      · rw [← same] at letter
        exact absurd letter (by decide)
      · exact absurd (List.mem_takeWhile_imp later) (by decide)
    next =>
      split
      next special =>
        refine meets_parameter quoted id (endsOpen_of_not_mem fun member => ?_) rest
        rw [← List.mem_singleton.mp member] at special
        exact absurd special (by decide)
      next => exact meets_char (by decide) inert (by simp) _

theorem meets_quotedHead {c : Char} (backslash : c ≠ '\\') (rest : List Char) :
    Meets (quotedHead c rest) c rest := by
  have itself : Meets ⟨[.literal [c]], 1⟩ c rest :=
    meets_char backslash rfl (by simp [Token.hasApostrophe, eq_comm]) rest
  unfold quotedHead
  split
  next => exact absurd rfl backslash
  next => exact meets_dollar true rfl rest
  next => exact .inl fun _ => rfl
  next => exact itself

theorem quotedTokensAfter_backslash (c : Char) (rest : List Char) :
    ∃ found, quotedTokensAfter 0 ('\\' :: c :: rest) = found ++ quotedTokensAfter 0 rest ∧
      ∀ token ∈ found, token.isCommand = false := by
  by_cases special : c ∈ protectedInQuotes
  · have head : quotedHead '\\' ([c] ++ rest) = ⟨[.literal [c]], 2⟩ := by
      simp [quotedHead, special]
    exact ⟨[.literal [c]], quotedTokensAfter_cons head, by simp [Token.isCommand]⟩
  · have head : quotedHead '\\' ([] ++ c :: rest) = ⟨[.literal ['\\']], 1⟩ := by
      simp [quotedHead, special]
    have next : quotedHead c ([] ++ rest) = ⟨[.literal [c]], 1⟩ := quotedHead_plain special rest
    refine ⟨[.literal ['\\'], .literal [c]], ?_, by simp [Token.isCommand]⟩
    rw [show quotedTokensAfter 0 ('\\' :: c :: rest) = _ from quotedTokensAfter_cons head,
      show quotedTokensAfter 0 (c :: rest) = _ from quotedTokensAfter_cons next]
    rfl

end Heads

/-- The detector sees what double quotes expose. -/
theorem sees_quotedTokens (text : List Char) (closed : endsOpen text = false) :
    Sees (quotedTokensAfter 0 text) text := by
  induction text using headInduction with
  | nil => exact fun _ exposed => exposed
  | lone => exact absurd closed (by decide)
  | escape c rest inductionHypothesis =>
    -- The detector skips both characters, also where the backslash protects nothing in quotes.
    obtain ⟨found, scanned, inert⟩ := quotedTokensAfter_backslash c rest
    rw [scanned]
    have head : Sees found ['\\', c] := fun _ exposed => exposes_of_inert inert exposed
    exact head.append (inductionHypothesis closed)
  | plain c rest backslash inductionHypothesis =>
    rcases meets_quotedHead backslash rest with runs | ⟨taken, tail, rfl, length, sees, complete⟩
    · exact fun more _ => runs more
    · have head : quotedHead c (taken ++ tail) =
          ⟨(quotedHead c (taken ++ tail)).tokens, taken.length + 1⟩ := by rw [← length]
      rw [quotedTokensAfter_cons head]
      refine sees.append (inductionHypothesis taken tail rfl ?_)
      rwa [← List.cons_append, endsOpen_append complete] at closed

theorem endsOpen_quoted {mark : Char} (plain : mark ≠ '\\') (text : List Char) :
    endsOpen (mark :: (text ++ [mark])) = false := by
  rw [endsOpen_cons plain, endsOpen_append_of_plain plain]
  rfl

theorem meets_single {rest : List Char} (closes : '\x27' ∈ rest) :
    Meets (plainHead '\x27' rest) '\x27' rest := by
  obtain ⟨text, after, rfl, clean⟩ := List.eq_append_cons_of_mem closes
  have head : plainHead '\x27' (text ++ '\x27' :: after) =
      ⟨[.literal text], text.length + 2⟩ := by
    simp [plainHead, splitAt?_append clean]
  rw [head]
  refine .inr ⟨text ++ ['\x27'], after, by simp, by simp, ?_, endsOpen_quoted (by decide) text⟩
  exact Passes.sees rfl fun _ => passes_single clean

theorem meets_double (rest : List Char) : Meets (plainHead '\x22' rest) '\x22' rest := by
  cases found : splitUnescaped? '\x22' rest with
  | none =>
    have head : plainHead '\x22' rest = ⟨[.raw ['\x22']], 1⟩ := by simp [plainHead, found]
    rw [head]
    exact meets_char (by decide) rfl (by simp) rest
  | some cut =>
    obtain ⟨text, after⟩ := cut
    have head : plainHead '\x22' rest = ⟨quotedTokensAfter 0 text, text.length + 2⟩ := by
      simp [plainHead, found]
    obtain ⟨rfl, closed⟩ := splitUnescaped?_eq_some found
    rw [head]
    refine .inr ⟨text ++ ['\x22'], after, by simp, by simp, ?_, endsOpen_quoted (by decide) text⟩
    have mark : Sees [] ['\x22'] := passes_char (by decide) (by decide)
    simpa using (mark.append (sees_quotedTokens text closed)).append mark

theorem meets_plainHead {c : Char} {rest : List Char} (backslash : c ≠ '\\')
    (closes : c = '\x27' → '\x27' ∈ rest) : Meets (plainHead c rest) c rest := by
  by_cases single : c = '\x27'
  · subst single
    exact meets_single (closes rfl)
  by_cases double : c = '\x22'
  · subst double
    exact meets_double rest
  have itself : Meets ⟨[.raw [c]], 1⟩ c rest := meets_char backslash rfl (fun _ => single) rest
  unfold plainHead
  split
  next => exact absurd rfl single
  next => exact absurd rfl double
  next => exact meets_dollar false rfl rest
  next => exact .inl fun _ => rfl
  next => exact absurd rfl backslash
  next => exact itself

/-- The detector finds a command that no apostrophe hides. -/
theorem runsCommand_of_exposes {text : List Char} (exposed : exposes (tokens text) false = true) :
    runsCommand text = true := by
  rw [tokens] at exposed
  rw [runsCommand]
  induction text using headInduction with
  | nil => exact absurd exposed (by decide)
  | lone => exact absurd exposed (by decide)
  | escape c rest inductionHypothesis =>
    have scanned : tokensAfter 0 ('\\' :: c :: rest) = .raw ['\\', c] :: tokensAfter 0 rest := rfl
    rw [scanned] at exposed
    exact inductionHypothesis
      (by simpa [exposes, Token.isCommand, Token.hasApostrophe] using exposed)
  | plain c rest backslash inductionHypothesis =>
    by_cases stray : c = '\x27' ∧ '\x27' ∉ rest
    · -- A quote that nothing closes stands for itself, also for the detector.
      obtain ⟨rfl, unclosed⟩ := stray
      have head : plainHead '\x27' ([] ++ rest) = ⟨[.raw ['\x27']], 1⟩ := by
        cases found : splitAt? '\x27' rest with
        | none => simp [plainHead, found]
        | some cut => simp [splitAt?_eq_some found] at unclosed
      have scanned : tokensAfter 0 ('\x27' :: rest) = .raw ['\x27'] :: tokensAfter 0 rest :=
        tokensAfter_cons head
      have unquoted : rest.contains '\x27' = false := by simpa using unclosed
      rw [runsCommandFrom, unquoted]
      rw [scanned] at exposed
      apply inductionHypothesis [] rest rfl
      simpa [exposes, Token.isCommand, Token.hasApostrophe] using exposed
    · have closes : c = '\x27' → '\x27' ∈ rest := by simpa using stray
      rcases meets_plainHead backslash closes with runs | ⟨taken, tail, rfl, length, sees, -⟩
      · simpa using runs []
      · have head : plainHead c (taken ++ tail) =
            ⟨(plainHead c (taken ++ tail)).tokens, taken.length + 1⟩ := by rw [← length]
        rw [tokensAfter_cons head, exposes_append] at exposed
        exact sees tail (exposes_mono (inductionHypothesis taken tail rfl) exposed)

end Shell.Word

namespace Shell.State

open Running Word

section Reading

variable {α β : Type}

/-- Two readings in a row are one, since what is drawn does not change what is read. -/
theorem reading_bind (read : State → Draw α) (next : State → α → Draw β)
    (blind : ∀ state queries value,
      next { state with queries := queries } value = next state value) :
    (reading read >>= fun value => reading fun state => next state value) =
      reading fun state => read state >>= next state := by
  funext state
  change execute (reading read >>= fun value => reading fun state => next state value) state =
    execute (reading fun state => read state >>= next state) state
  cases drawn : execute (read state) state.queries with
  | mk result queries =>
    have first := execute_reading_of read drawn
    cases result with
    | error fault =>
      rw [execute_bind_of_error first]
      exact (execute_reading_of (fun state => read state >>= next state)
        (execute_bind_of_error drawn)).symm
    | ok value =>
      rw [execute_bind_of_ok first]
      cases further : execute (next state value) queries with
      | mk result last =>
        have both : execute (read state >>= next state) state.queries = (result, last) := by
          rw [execute_bind_of_ok drawn, further]
        rw [execute_reading_of (fun state => read state >>= next state) both]
        apply execute_reading_of
        rw [blind, further]

theorem reading_map (change : α → β) (read : State → Draw α) :
    change <$> reading read = reading fun state => change <$> read state := by
  have one := reading_bind read (fun _ value => pure (change value)) fun _ _ _ => rfl
  simp only [bind_pure_comp] at one
  rw [← one]
  exact (bind_pure_comp change (reading read)).symm

theorem substitutions_reading (read : State → Draw α) (state : State) :
    (after (reading read) state).substitutions = state.substitutions := by
  rw [after, execute_reading_eq]

end Reading

theorem expandToken_queries (state : State) (queries : Queries) (token : Token) :
    State.expandToken { state with queries := queries } token = state.expandToken token := by
  cases token with
  | parameter name quoted => simp only [expandToken, value_queries]
  | _ => rfl

theorem expandTokenRunning_of_inert (hook : CommandHook) {token : Token}
    (inert : token.isCommand = false) :
    expandTokenRunning hook token = (reading fun state => state.expandToken token).toEffect := by
  cases token with
  | command source body quoted => exact nomatch inert
  | _ => rfl

/-- Tokens without commands expand as they do when commands are left alone. -/
theorem mapM_expandTokenRunning_of_inert (hook : CommandHook) {tokens : List Token}
    (inert : ∀ token ∈ tokens, token.isCommand = false) :
    tokens.mapM (expandTokenRunning hook) =
      (reading fun state => tokens.mapM state.expandToken).toEffect := by
  induction tokens with
  | nil => rfl
  | cons token rest inductionHypothesis =>
    have blind : ∀ (state : State) (queries : Queries) (part : String),
        (List.cons part <$> rest.mapM (State.expandToken { state with queries := queries })) =
          List.cons part <$> rest.mapM state.expandToken := by
      intro state queries part
      rw [funext (expandToken_queries state queries)]
    have later : ∀ part, (List.cons part <$> rest.mapM (expandTokenRunning hook)) =
        (reading fun state => List.cons part <$> rest.mapM state.expandToken).toEffect := by
      intro part
      rw [inductionHypothesis fun other member => inert other (List.mem_cons_of_mem _ member),
        ← toEffect_map, reading_map]
    simp only [List.mapM_cons, bind_pure_comp, later,
      expandTokenRunning_of_inert hook (inert token List.mem_cons_self)]
    rw [← toEffect_bind, reading_bind (fun state => state.expandToken token) _ blind]

/-- A command that is run is on record, whatever it does. -/
theorem substitutions_substitute (hook : CommandHook) (command : String) (state : State) :
    state.substitutions ++ [command] <+:
      (after (substitute hook command) state).substitutions := by
  let noted : State := { state with substitutions := state.substitutions ++ [command] }
  have kept : noted.substitutions <+: (after (hook.run command) noted).substitutions :=
    hook.keeps command noted
  unfold substitute
  rw [after, execute_modify_bind, ← after]
  apply after_bind fun _ last : State => noted.substitutions <+: last.substitutions
  · exact fun _ later => later
  · exact kept
  · intro outcome middle ran
    rw [after_eq_of_execute ran] at kept
    exact kept

/-- What was run by substitution is never forgotten. -/
theorem substitutions_expandTokenRunning (hook : CommandHook) (token : Token) (state : State) :
    state.substitutions <+: (after (expandTokenRunning hook token) state).substitutions := by
  cases token with
  | command source body quoted =>
    rw [expandTokenRunning, after_map]
    exact (List.prefix_append _ _).trans (substitutions_substitute hook (String.ofList body) state)
  | _ =>
    rw [expandTokenRunning_of_inert hook rfl, after, execute_toEffect, substitutions_reading]

theorem substitutions_mapM (hook : CommandHook) (tokens : List Token) (state : State) :
    state.substitutions <+:
      (after (tokens.mapM (expandTokenRunning hook)) state).substitutions := by
  induction tokens generalizing state with
  | nil => exact List.prefix_rfl
  | cons token rest inductionHypothesis =>
    rw [List.mapM_cons]
    apply after_bind fun first second : State => first.substitutions <+: second.substitutions
    · exact List.IsPrefix.trans
    · exact substitutions_expandTokenRunning hook token state
    · intro part middle _
      rw [bind_pure_comp, after_map]
      exact inductionHypothesis middle

theorem substitutions_mapM_of_command (hook : CommandHook) (source body : List Char) (quoted : Bool)
    (back : List Token) (state : State) :
    state.substitutions ++ [String.ofList body] <+:
      (after ((.command source body quoted :: back).mapM (expandTokenRunning hook))
        state).substitutions := by
  have first := substitutions_substitute hook (String.ofList body) state
  rw [List.mapM_cons]
  apply after_bind fun _ last : State => state.substitutions ++ [String.ofList body] <+:
    last.substitutions
  · exact fun _ later => later
  · rw [expandTokenRunning, after_map]
    exact first
  · intro part middle ran
    obtain ⟨output, same, -⟩ := execute_map_eq_ok.mp ran
    rw [after_eq_of_execute same] at first
    rw [bind_pure_comp, after_map]
    exact first.trans (substitutions_mapM hook back middle)

/-- Everything before the first command of the pattern can be read. -/
def ReachesCommand (state : State) (pattern : String) : Prop :=
  ∃ front command back, tokens pattern.toList = front ++ command :: back ∧
    command.isCommand = true ∧ (∀ token ∈ front, token.isCommand = false) ∧
      ∃ parts queries, execute (front.mapM state.expandToken) state.queries = (.ok parts, queries)

theorem substitutions_of_reachesCommand (hook : CommandHook) {state : State} {pattern : String}
    (reached : state.ReachesCommand pattern) :
    (after (expandRunning hook pattern) state).substitutions ≠ state.substitutions := by
  obtain ⟨front, command, back, split, runs, inert, parts, queries, drawn⟩ := reached
  obtain ⟨middle, before, kept⟩ : ∃ middle,
      execute (front.mapM (expandTokenRunning hook)) state = (.ok parts, middle) ∧
        middle.substitutions = state.substitutions := by
    rw [mapM_expandTokenRunning_of_inert hook inert, execute_toEffect, after]
    rw [execute_reading_of _ drawn]
    exact ⟨_, rfl, rfl⟩
  obtain ⟨body, more⟩ : ∃ body, state.substitutions ++ [body] <+:
      (after (expandRunning hook pattern) state).substitutions := by
    rw [expandRunning, split, List.mapM_append, bind_pure_comp, after_map,
      after_bind_of_ok before, bind_pure_comp, after_map, ← kept]
    cases command with
    | command source body quoted =>
      exact ⟨_, substitutions_mapM_of_command hook source body quoted back middle⟩
    | _ => contradiction
  intro same
  have longer := more.length_le
  rw [same, List.length_append, List.length_singleton] at longer
  omega

theorem expandRunning_of_not_reachesCommand (hook : CommandHook) {state : State} {pattern : String}
    (missed : ¬ state.ReachesCommand pattern) :
    execute (expandRunning hook pattern) state =
      execute (reading fun state => state.expandPattern pattern).toEffect state := by
  cases found : (tokens pattern.toList).find? Token.isCommand with
  | none =>
    have inert : ∀ token ∈ tokens pattern.toList, token.isCommand = false := by
      simpa using found
    rw [expandRunning, mapM_expandTokenRunning_of_inert hook inert, bind_pure_comp, ← toEffect_map,
      reading_map]
    simp only [expandPattern, bind_pure_comp]
  | some command =>
    obtain ⟨runs, front, back, split, inert⟩ := List.find?_eq_some_iff_append.mp found
    have inert : ∀ token ∈ front, token.isCommand = false := by simpa using inert
    cases drawn : execute (front.mapM state.expandToken) state.queries with
    | mk result queries =>
      cases result with
      | ok parts =>
        exact absurd ⟨front, command, back, split, runs, inert, parts, queries, drawn⟩ missed
      | error fault =>
        -- Both stop before the command, with the same fault.
        have before : execute (front.mapM (expandTokenRunning hook)) state =
            (.error (.fault fault), { state with queries := queries }) := by
          rw [mapM_expandTokenRunning_of_inert hook inert, execute_toEffect, after,
            execute_reading_of _ drawn]
          rfl
        have stopped : execute (state.expandPattern pattern) state.queries =
            (.error fault, queries) := by
          rw [expandPattern, split, List.mapM_append]
          exact execute_bind_of_error (execute_bind_of_error drawn)
        rw [expandRunning, split, List.mapM_append,
          execute_bind_of_error (execute_bind_of_error before), execute_toEffect, after,
          execute_reading_of (fun state => state.expandPattern pattern) stopped]
        rfl

/-- Where the detector finds no command, the expansion runs none, keeps the status and gives what it
gives without running commands, exactly if no command is reached. Every command that it did not find
stands behind an apostrophe in double quotes or in the name of a variable. -/
theorem undetected_runs_nothing_iff (hook : CommandHook) (state : State) (pattern : String)
    (undetected : runsCommand pattern.toList = false) :
    ((execute (expandRunning hook pattern) state).1 =
          (execute (state.expandPattern pattern) state.queries).1.mapError Stop.fault ∧
        (after (expandRunning hook pattern) state).substitutions = state.substitutions ∧
        (after (expandRunning hook pattern) state).lastStatus = state.lastStatus ↔
      ¬ state.ReachesCommand pattern) ∧
    ∀ front command back, tokens pattern.toList = front ++ command :: back →
      command.isCommand = true → ∃ token ∈ front, token.hasApostrophe = true := by
  refine ⟨⟨?_, ?_⟩, ?_⟩
  · rintro ⟨-, kept, -⟩ reached
    exact substitutions_of_reachesCommand hook reached kept
  · intro missed
    have alike := expandRunning_of_not_reachesCommand hook missed
    rw [after, alike, execute_toEffect, after, execute_reading_eq]
    exact ⟨rfl, rfl, rfl⟩
  · intro front command back split runs
    refine exists_hasApostrophe ?_ split runs
    by_contra exposed
    rw [runsCommand_of_exposes (by simpa using exposed)] at undetected
    contradiction

/-- Commands in single quotes and behind a backslash, beside a variable. -/
def quietPattern : String := "'$(a)'\"\\$(b)\"\x24\x7bx\x7d"

theorem quietPattern_runs_nothing :
    runsCommand quietPattern.toList = false ∧ ¬ State.ReachesCommand {} quietPattern ∧
      ∀ hook : CommandHook,
        (execute (expandRunning hook quietPattern) {}).1 =
            (execute (State.expandPattern {} quietPattern) []).1.mapError Stop.fault ∧
          (after (expandRunning hook quietPattern) {}).substitutions = [] ∧
          (after (expandRunning hook quietPattern) {}).lastStatus = 0 := by
  have undetected : runsCommand quietPattern.toList = false := by decide
  have inert : ∀ token ∈ tokens quietPattern.toList, token.isCommand = false := by decide
  have missed : ¬ State.ReachesCommand {} quietPattern := by
    rintro ⟨front, command, back, split, runs, -⟩
    rw [inert command (by simp [split])] at runs
    contradiction
  exact ⟨undetected, missed, fun hook =>
    (undetected_runs_nothing_iff hook {} quietPattern undetected).1.mpr missed⟩

/-- A command between two apostrophes, in double quotes. -/
def hiddenPattern : String := "\"'$(x)'\""

/-- A command that is not detected is run. -/
theorem undetected_command_runs :
    runsCommand hiddenPattern.toList = false ∧
      ∀ hook : CommandHook,
        ["x"] <+: (after (expandRunning hook hiddenPattern) {}).substitutions := by
  have scanned : tokens hiddenPattern.toList =
      [.literal ['\x27'], .command "$(x)".toList ['x'] true, .literal ['\x27']] := by
    decide +kernel
  refine ⟨by decide +kernel, fun hook => ?_⟩
  have mark : execute (expandTokenRunning hook (.literal ['\x27'])) {} =
      (.ok (String.ofList (Glob.protect ['\x27'])), {}) := rfl
  rw [expandRunning, scanned, bind_pure_comp, after_map, List.mapM_cons, after_bind_of_ok mark,
    bind_pure_comp, after_map]
  exact substitutions_mapM_of_command hook _ ['x'] true [.literal ['\x27']] {}

end Shell.State
