import Mathlib.Data.List.DropRight
import Shell.Proofs.Expansion.Delimiter
import Shell.Proofs.Expansion.Detection

/-!
# Running the commands of a pattern

A command substitution outside quotes is run once, with the whole of its body. Between double
quotes it is run only if its body has no quotation mark of its own: the mark closes the quotes,
whatever it means to the command, and what stands in front of it is text.
-/

namespace Shell.Word

open Text

/-- Characters that begin something else than text in a pattern. -/
def activeMarks : List Char := ['\x27', '\x22', '$', '\x60', '\\']

/-- A quotation mark stands in the text that no backslash protects. -/
def HasBareQuote (text : List Char) : Prop :=
  ∃ front back, text = front ++ '\x22' :: back ∧ endsOpen front = false

section Splitting

variable {mark : Char} {text : List Char}

theorem splitUnescaped?_of_mark {front back : List Char} (plain : mark ≠ '\\')
    (closed : endsOpen front = false) : splitUnescaped? mark (front ++ mark :: back) ≠ none := by
  induction front using scanInduction with
  | nil => simp [splitUnescaped?, plain]
  | lone => exact absurd closed (by decide)
  | escape c rest inductionHypothesis =>
    simpa [splitUnescaped?] using inductionHypothesis closed
  | plain c rest backslash inductionHypothesis =>
    rw [endsOpen_cons backslash] at closed
    by_cases here : c = mark
    · simp [splitUnescaped?, here, plain]
    · simpa [splitUnescaped?_cons backslash here] using inductionHypothesis closed

theorem splitUnescaped?_eq_none_iff :
    splitUnescaped? '\x22' text = none ↔ ¬ HasBareQuote text := by
  constructor
  · rintro missing ⟨front, back, rfl, closed⟩
    exact splitUnescaped?_of_mark (by decide) closed missing
  · intro bare
    apply Option.eq_none_iff_forall_ne_some.mpr
    rintro ⟨front, back⟩ found
    exact bare ⟨front, back, splitUnescaped?_eq_some found⟩

/-- A mark that is found is found whatever follows. -/
theorem splitUnescaped?_append_of_some {front back : List Char} (plain : mark ≠ '\\')
    (found : splitUnescaped? mark text = some (front, back)) (rest : List Char) :
    splitUnescaped? mark (text ++ rest) = some (front, back ++ rest) := by
  induction text using scanInduction generalizing front with
  | nil => contradiction
  | lone => simp [splitUnescaped?, Ne.symm plain] at found
  | escape c text inductionHypothesis =>
    rw [splitUnescaped?] at found
    obtain ⟨⟨inner, last⟩, further, same⟩ := Option.map_eq_some_iff.mp found
    obtain ⟨rfl, rfl⟩ := Prod.mk.inj same
    simp [splitUnescaped?, inductionHypothesis further]
  | plain c text backslash inductionHypothesis =>
    by_cases here : c = mark
    · subst here
      simp_all [splitUnescaped?]
    · rw [splitUnescaped?_cons backslash here] at found
      obtain ⟨⟨inner, last⟩, further, same⟩ := Option.map_eq_some_iff.mp found
      obtain ⟨rfl, rfl⟩ := Prod.mk.inj same
      rw [List.cons_append, splitUnescaped?_cons backslash here, inductionHypothesis further]
      rfl

/-- Behind a text without a mark and one more character the mark is found, even where the text ends
in a backslash. -/
theorem splitUnescaped?_append_of_none {c : Char} (backslash : c ≠ '\\') (other : c ≠ mark)
    (plain : mark ≠ '\\') (missing : splitUnescaped? mark text = none) (rest : List Char) :
    splitUnescaped? mark (text ++ c :: mark :: rest) = some (text ++ [c], rest) := by
  induction text using scanInduction with
  | nil => simp [splitUnescaped?_cons backslash other, splitUnescaped?, plain]
  | lone => simp [splitUnescaped?, plain]
  | escape d text inductionHypothesis =>
    have later : splitUnescaped? mark text = none := by simpa [splitUnescaped?] using missing
    simp [splitUnescaped?, inductionHypothesis later]
  | plain d text unescaped inductionHypothesis =>
    by_cases here : d = mark
    · simp [splitUnescaped?, here, plain] at missing
    · have later : splitUnescaped? mark text = none := by
        simpa [splitUnescaped?_cons unescaped here] using missing
      rw [List.cons_append, splitUnescaped?_cons unescaped here, inductionHypothesis later]
      rfl

end Splitting

section Dollars

variable {body : List Char} (isBody : CommandBody body) (command : body.head? ≠ some '(')

include isBody command

/-- A body that begins with a parenthesis would be read as arithmetic. -/
theorem CommandBody.dollar?_append (rest : List Char) :
    dollar? ('(' :: (body ++ ')' :: rest)) = some (.command body ('(' :: body ++ [')'])) := by
  have found := isBody.command?_append rest
  cases body with
  | nil => simp [dollar?, command?, commandFrom?]
  | cons c body =>
    have other : c ≠ '(' := by simpa using command
    rw [List.cons_append] at found ⊢
    rw [dollar?, found]
    exact fun _ same => absurd (List.cons.inj same).1 other

/-- The beginning of a body is no command by itself. -/
theorem CommandBody.dollar?_of_prefix {front back : List Char} (split : body = front ++ back) :
    dollar? ('(' :: front) = some (.verbatim ('(' :: front)) := by
  have missing := isBody.command?_eq_none_of_prefix split
  cases front with
  | nil => rfl
  | cons c front =>
    have other : c ≠ '(' := by simpa [split] using command
    rw [dollar?, missing]
    exact fun _ same => absurd (List.cons.inj same).1 other

end Dollars

section Tokens

/-- Characters that stand for themselves are tokens by themselves. -/
theorem tokensAfter_plain {text : List Char} (plain : ∀ c ∈ text, c ∉ activeMarks)
    (rest : List Char) :
    tokensAfter 0 (text ++ rest) = text.map (fun c => .raw [c]) ++ tokensAfter 0 rest := by
  induction text with
  | nil => rfl
  | cons c text inductionHypothesis =>
    have head : plainHead c ([] ++ (text ++ rest)) = ⟨[.raw [c]], 1⟩ := by
      have inert := plain c List.mem_cons_self
      simp only [activeMarks, List.mem_cons, List.not_mem_nil, or_false, not_or] at inert
      unfold plainHead
      split <;> simp_all
    have first : tokensAfter 0 (c :: (text ++ rest)) = [.raw [c]] ++ tokensAfter 0 (text ++ rest) :=
      tokensAfter_cons head
    rw [List.cons_append, first,
      inductionHypothesis fun d member => plain d (List.mem_cons_of_mem _ member)]
    rfl

theorem plainHead_double {rest text after : List Char}
    (cut : splitUnescaped? '\x22' rest = some (text, after)) :
    plainHead '\x22' rest = ⟨quotedTokensAfter 0 text, text.length + 2⟩ := by
  simp [plainHead, cut]

variable {body : List Char} (isBody : CommandBody body) (command : body.head? ≠ some '(')

include isBody command

theorem CommandBody.tokens_between {before behind : List Char}
    (plainBefore : ∀ c ∈ before, c ∉ activeMarks) (plainBehind : ∀ c ∈ behind, c ∉ activeMarks) :
    tokens (before ++ '$' :: '(' :: (body ++ ')' :: behind)) =
      before.map (fun c => .raw [c]) ++
        .command ('$' :: '(' :: body ++ [')']) body false :: behind.map (fun c => .raw [c]) := by
  have head : plainHead '$' (('(' :: body ++ [')']) ++ behind) =
      ⟨[.command ('$' :: '(' :: body ++ [')']) body false], ('(' :: body ++ [')']).length + 1⟩ := by
    have found := isBody.dollar?_append command behind
    rw [List.append_assoc, List.singleton_append, List.cons_append]
    simp [plainHead, found, Dollar.head, Dollar.source]
  have last : tokensAfter 0 behind = behind.map (fun c => .raw [c]) := by
    simpa [tokensAfter] using tokensAfter_plain plainBehind []
  have shape : '(' :: (body ++ ')' :: behind) = ('(' :: body ++ [')']) ++ behind := by simp
  rw [tokens, tokensAfter_plain plainBefore, shape, tokensAfter_cons head, last]
  rfl

/-- In double quotes, a body without a quotation mark of its own is one command. -/
theorem CommandBody.tokens_quoted (bare : ¬ HasBareQuote body) :
    tokens ('\x22' :: '$' :: '(' :: (body ++ [')', '\x22'])) =
      [.command ('$' :: '(' :: body ++ [')']) body true] := by
  have cut : splitUnescaped? '\x22' ('$' :: '(' :: (body ++ [')', '\x22'])) =
      some ('$' :: '(' :: (body ++ [')']), []) := by
    rw [splitUnescaped?_cons (by decide) (by decide), splitUnescaped?_cons (by decide) (by decide),
      splitUnescaped?_append_of_none (by decide) (by decide) (by decide)
        (splitUnescaped?_eq_none_iff.mpr bare)]
    rfl
  have inside : quotedTokensAfter 0 ('$' :: (('(' :: (body ++ [')'])) ++ [])) =
      [.command ('$' :: '(' :: body ++ [')']) body true] ++ quotedTokensAfter 0 [] := by
    apply quotedTokensAfter_cons
    rw [List.append_nil]
    simp [quotedHead, isBody.dollar?_append command [], Dollar.head, Dollar.source]
  have head : plainHead '\x22' (('$' :: '(' :: (body ++ [')', '\x22'])) ++ []) =
      ⟨[.command ('$' :: '(' :: body ++ [')']) body true],
        ('$' :: '(' :: (body ++ [')', '\x22'])).length + 1⟩ := by
    rw [List.append_nil] at inside ⊢
    rw [plainHead_double cut, inside]
    simp [quotedTokensAfter]
  have scanned := tokensAfter_cons head
  rw [List.append_nil] at scanned
  rw [tokens, scanned]
  rfl

/-- In double quotes, a body with a quotation mark of its own is cut there: what stands in front of
the mark is text, and what stands behind it is scanned without quotes. -/
theorem CommandBody.tokens_cut {front back : List Char}
    (found : splitUnescaped? '\x22' body = some (front, back)) :
    tokens ('\x22' :: '$' :: '(' :: (body ++ [')', '\x22'])) =
      .literal ('$' :: '(' :: front) :: tokens (back ++ [')', '\x22']) := by
  obtain ⟨split, -⟩ := splitUnescaped?_eq_some found
  have cut : splitUnescaped? '\x22' ('$' :: '(' :: (body ++ [')', '\x22'])) =
      some ('$' :: '(' :: front, back ++ [')', '\x22']) := by
    rw [splitUnescaped?_cons (by decide) (by decide), splitUnescaped?_cons (by decide) (by decide),
      splitUnescaped?_append_of_some (by decide) found]
    rfl
  have inside : quotedTokensAfter 0 ('$' :: (('(' :: front) ++ [])) =
      [.literal ('$' :: '(' :: front)] ++ quotedTokensAfter 0 [] := by
    apply quotedTokensAfter_cons
    rw [List.append_nil]
    simp [quotedHead, isBody.dollar?_of_prefix command split, Dollar.head, Dollar.source]
  have head : plainHead '\x22' (('$' :: '(' :: (front ++ ['\x22'])) ++ (back ++ [')', '\x22'])) =
      ⟨[.literal ('$' :: '(' :: front)], ('$' :: '(' :: (front ++ ['\x22'])).length + 1⟩ := by
    have shape : ('$' :: '(' :: (front ++ ['\x22'])) ++ (back ++ [')', '\x22']) =
        '$' :: '(' :: (body ++ [')', '\x22']) := by simp [split]
    rw [List.append_nil] at inside
    rw [shape, plainHead_double cut, inside]
    simp [quotedTokensAfter]
  have shape : '\x22' :: '$' :: '(' :: (body ++ [')', '\x22']) =
      '\x22' :: (('$' :: '(' :: (front ++ ['\x22'])) ++ (back ++ [')', '\x22'])) := by simp [split]
  rw [tokens, shape, tokensAfter_cons head]
  rfl

end Tokens

section Commands

/-- The commands among the tokens are shorter than the text of so many characters that they are
read from: the marks around them belong to it as well. -/
def FitInto (length : Nat) (tokens : List Token) : Prop :=
  ∀ source body quoted, .command source body quoted ∈ tokens → body.length + 2 ≤ length

theorem FitInto.mono {tokens : List Token} {first second : Nat} (fit : FitInto first tokens)
    (longer : first ≤ second) : FitInto second tokens := by
  intro source body quoted member
  exact (fit source body quoted member).trans longer

theorem FitInto.append {first second : List Token} {length : Nat} (fit : FitInto length first)
    (further : FitInto length second) : FitInto length (first ++ second) := by
  intro source body quoted member
  rcases List.mem_append.mp member with left | right
  · exact fit source body quoted left
  · exact further source body quoted right

theorem fitInto_of_inert {token : Token} (inert : token.isCommand = false) (length : Nat) :
    FitInto length [token] := by
  intro source body quoted member
  rw [← List.mem_singleton.mp member] at inert
  contradiction

/-- A scan takes head after head; what is behind a head is a shorter text. -/
theorem fitInto_of_heads {scan : List Char → List Token} {head : Char → List Char → Head}
    (nil : scan [] = [])
    (cons : ∀ c rest, scan (c :: rest) =
      (head c rest).tokens ++ scan (rest.drop ((head c rest).length - 1)))
    (fits : ∀ c rest, FitInto (rest.length + 1) (head c rest).tokens) (text : List Char) :
    FitInto text.length (scan text) := by
  induction size : text.length using Nat.strongRecOn generalizing text with
  | ind size shorter =>
    cases text with
    | nil => simp [FitInto, nil]
    | cons c rest =>
      rw [cons]
      subst size
      apply (fits c rest).append
      have fewer : (rest.drop ((head c rest).length - 1)).length < (c :: rest).length := by
        simp only [List.length_drop, List.length_cons]
        omega
      exact (shorter _ fewer _ rfl).mono fewer.le

theorem fitInto_dollar (quoted : Bool) {token : Token} (inert : token.isCommand = false)
    (rest : List Char) :
    FitInto (rest.length + 1)
      (((dollar? rest).map (Dollar.head quoted)).getD ⟨[token], 1⟩).tokens := by
  have itself : FitInto (rest.length + 1) [token] := fitInto_of_inert inert _
  unfold dollar?
  split
  next => exact itself
  next => cases quoted <;> exact fitInto_of_inert rfl _
  next rest _ =>
    cases found : command? rest with
    | none => cases quoted <;> exact fitInto_of_inert rfl _
    | some cut =>
      obtain ⟨body, after⟩ := cut
      obtain ⟨rfl, -⟩ := commandFrom?_eq_some_iff.mp found
      intro source other quotation member
      obtain ⟨-, rfl, -⟩ : _ ∧ other = body ∧ _ := by simpa [Dollar.head] using member
      simp
  next rest =>
    cases splitAt? '\x7d' rest with
    | none => exact itself
    | some cut => exact fitInto_of_inert rfl _
  next =>
    split
    next => exact fitInto_of_inert rfl _
    next =>
      split
      next => exact fitInto_of_inert rfl _
      next => exact itself

theorem fitInto_backtick (quoted : Bool) {token : Token} (inert : token.isCommand = false)
    (rest : List Char) :
    FitInto (rest.length + 1) ((backtick? quoted rest).getD ⟨[token], 1⟩).tokens := by
  unfold backtick?
  cases found : splitUnescaped? '\x60' rest with
  | none => exact fitInto_of_inert inert _
  | some cut =>
    obtain ⟨body, after⟩ := cut
    obtain ⟨rfl, -⟩ := splitUnescaped?_eq_some found
    intro source other quotation member
    obtain ⟨-, rfl, -⟩ : _ ∧ other = body ∧ _ := by simpa using member
    simp

theorem fitInto_quotedHead (c : Char) (rest : List Char) :
    FitInto (rest.length + 1) (quotedHead c rest).tokens := by
  have itself : FitInto (rest.length + 1) [.literal [c]] := fitInto_of_inert rfl _
  unfold quotedHead
  split
  next => split <;> exact fitInto_of_inert rfl _
  next => exact fitInto_dollar true rfl rest
  next => exact fitInto_backtick true rfl rest
  next => exact itself

theorem fitInto_quotedTokens (text : List Char) :
    FitInto text.length (quotedTokensAfter 0 text) := by
  apply fitInto_of_heads rfl _ fitInto_quotedHead
  intro c rest
  rw [quotedTokensAfter, quotedTokensAfter_eq_drop]

theorem fitInto_plainHead (c : Char) (rest : List Char) :
    FitInto (rest.length + 1) (plainHead c rest).tokens := by
  have itself : FitInto (rest.length + 1) [.raw [c]] := fitInto_of_inert rfl _
  unfold plainHead
  split
  next =>
    cases splitAt? '\x27' rest with
    | none => exact itself
    | some cut => exact fitInto_of_inert rfl _
  next =>
    cases found : splitUnescaped? '\x22' rest with
    | none => exact itself
    | some cut =>
      obtain ⟨text, after⟩ := cut
      obtain ⟨rfl, -⟩ := splitUnescaped?_eq_some found
      apply (fitInto_quotedTokens text).mono
      simp
      omega
  next => exact fitInto_dollar false rfl rest
  next => exact fitInto_backtick false rfl rest
  next => exact fitInto_of_inert rfl _
  next => exact itself

/-- A pattern is longer than every command in it. -/
theorem fitInto_tokens (text : List Char) : FitInto text.length (tokens text) := by
  apply fitInto_of_heads rfl _ fitInto_plainHead
  intro c rest
  rw [tokens, tokensAfter, tokensAfter_eq_drop]
  rfl

end Commands

end Shell.Word

namespace Shell.State

open Running Word

section Trimming

/-- The text is the other one without the newlines at its end. -/
structure IsTrimmed (kept text : String) : Prop where
  newlines : ∃ count, text.toList = kept.toList ++ List.replicate count '\n'
  last : kept.toList.getLast? ≠ some '\n'

theorem isTrimmed_dropFinalNewlines (text : String) : IsTrimmed (dropFinalNewlines text) text := by
  have shown : (dropFinalNewlines text).toList = text.toList.rdropWhile (· = '\n') := by
    simp [dropFinalNewlines, List.rdropWhile]
  constructor
  · refine ⟨(text.toList.rtakeWhile (· = '\n')).length, ?_⟩
    have newlines : text.toList.rtakeWhile (· = '\n') =
        List.replicate (text.toList.rtakeWhile (· = '\n')).length '\n' := by
      apply List.eq_replicate_of_mem
      intro c member
      simpa using List.mem_rtakeWhile_imp member
    rw [shown, ← newlines, List.rdropWhile_append_rtakeWhile]
  · rw [shown]
    intro last
    obtain ⟨front, split⟩ := List.getLast?_eq_some_iff.mp last
    have nonempty : text.toList.rdropWhile (· = '\n') ≠ [] := by simp [split]
    apply List.rdropWhile_last_not _ _ nonempty
    simp [split]

end Trimming

section Commands

/-- The command is run once, for a pattern that is expanded: `give` makes the result of what it
prints, without the newlines at its end, and its status is the last one. Where the command stops, so
does the expansion. -/
def RunsOnce (hook : CommandHook) (command pattern : String) (give : String → String)
    (state : State) : Prop :=
  match execute (hook.run command)
      { state with substitutions := state.substitutions ++ [command] } with
  | (.ok outcome, last) => ∃ output, IsTrimmed output outcome.stdout ∧
      execute (expandRunning hook pattern) state =
        (.ok (give output), { last with lastStatus := outcome.status })
  | (.error stop, last) => execute (expandRunning hook pattern) state = (.error stop, last)

/-- A pattern whose expansion is one run of a command runs it once. -/
theorem runsOnce_of_substitute {hook : CommandHook} {command pattern : String}
    {give : String → String} {state : State}
    (runs : expandRunning hook pattern = give <$> substitute hook command) :
    RunsOnce hook command pattern give state := by
  unfold RunsOnce
  rw [runs, execute_map, after, substitute, execute_modify_bind, execute_bind]
  rcases execute (hook.run command) _ with ⟨stop | outcome, last⟩
  · rfl
  · exact ⟨_, isTrimmed_dropFinalNewlines _, rfl⟩

/-- A command that is run is on record. -/
theorem RunsOnce.recorded {hook : CommandHook} {command pattern : String} {give : String → String}
    {state : State} (runs : RunsOnce hook command pattern give state) :
    state.substitutions ++ [command] <+:
      (after (expandRunning hook pattern) state).substitutions := by
  let noted : State := { state with substitutions := state.substitutions ++ [command] }
  have kept : noted.substitutions <+: (execute (hook.run command) noted).2.substitutions :=
    hook.keeps command noted
  unfold RunsOnce at runs
  generalize execute (hook.run command) _ = ran at runs kept
  rcases ran with ⟨stop | outcome, last⟩
  · rw [after_eq_of_execute runs]
    exact kept
  · obtain ⟨output, -, expanded⟩ := runs
    rw [after_eq_of_execute expanded]
    exact kept

theorem mapM_expandTokenRunning_raw (hook : CommandHook) (text : List Char) :
    (text.map fun c => Token.raw [c]).mapM (expandTokenRunning hook) =
      pure (text.map fun c => String.ofList [c]) := by
  induction text with
  | nil => rfl
  | cons c text inductionHypothesis =>
    have first : expandTokenRunning hook (.raw [c]) = pure (String.ofList [c]) := rfl
    simp [first, inductionHypothesis]

theorem join_singletons (text : List Char) :
    String.join (text.map fun c => String.singleton c) = String.ofList text := by
  apply String.toList_inj.mp
  simp [String.toList_join, List.flatMap_map]

/-- Only what the commands of the tokens do makes a difference. -/
theorem mapM_expandTokenRunning_congr {first second : CommandHook} {tokens : List Token}
    (same : ∀ source body quoted, .command source body quoted ∈ tokens →
      first.run (String.ofList body) = second.run (String.ofList body)) :
    tokens.mapM (expandTokenRunning first) = tokens.mapM (expandTokenRunning second) := by
  induction tokens with
  | nil => rfl
  | cons token rest inductionHypothesis =>
    have head : expandTokenRunning first token = expandTokenRunning second token := by
      cases token with
      | command source body quoted =>
        simp only [expandTokenRunning, substitute, same source body quoted List.mem_cons_self]
      | _ => rfl
    rw [List.mapM_cons, List.mapM_cons, head, inductionHypothesis fun source body quoted member =>
      same source body quoted (List.mem_cons_of_mem _ member)]

/-- If anything is run for some tokens, then one of their commands is the first on record. -/
theorem substitutions_mapM_cases (hook : CommandHook) (tokens : List Token) (state : State) :
    (after (tokens.mapM (expandTokenRunning hook)) state).substitutions = state.substitutions ∨
      ∃ source body quoted, .command source body quoted ∈ tokens ∧
        state.substitutions ++ [String.ofList body] <+:
          (after (tokens.mapM (expandTokenRunning hook)) state).substitutions := by
  induction tokens generalizing state with
  | nil => exact .inl rfl
  | cons token rest inductionHypothesis =>
    cases inert : token.isCommand with
    | true =>
      cases token with
      | command source body quoted =>
        exact .inr ⟨source, body, quoted, List.mem_cons_self,
          substitutions_mapM_of_command hook source body quoted rest state⟩
      | _ => exact nomatch inert
    | false =>
      have still : (after (expandTokenRunning hook token) state).substitutions =
          state.substitutions := by
        rw [expandTokenRunning_of_inert hook inert, after, execute_toEffect, substitutions_reading]
      rw [List.mapM_cons]
      rcases ran : execute (expandTokenRunning hook token) state with ⟨stop | part, middle⟩
      · rw [after, execute_bind_of_error ran]
        rw [after_eq_of_execute ran] at still
        exact .inl still
      · rw [after_eq_of_execute ran] at still
        rw [after_bind_of_ok ran, bind_pure_comp, after_map, ← still]
        refine (inductionHypothesis middle).imp_right ?_
        rintro ⟨source, body, quoted, member, recorded⟩
        exact ⟨source, body, quoted, List.mem_cons_of_mem _ member, recorded⟩

end Commands

/-- An unquoted command is delimited by its body, whatever stands around it, and is run once: its
output, without the newlines at its end, takes the place of the command, and its status is the last
one. -/
theorem unquotedCommand_runs_once {body : List Char} (isBody : CommandBody body) :
    (∀ before rest : List Char,
      commandEnd? (before ++ body ++ ')' :: rest) before.length =
        some (before.length + body.length)) ∧
    (body.head? ≠ some '(' → ∀ (hook : CommandHook) (state : State) (before behind : List Char),
      (∀ c ∈ before, c ∉ activeMarks) → (∀ c ∈ behind, c ∉ activeMarks) →
        RunsOnce hook (String.ofList body)
          (String.ofList (before ++ '$' :: '(' :: (body ++ ')' :: behind)))
          (fun output => String.ofList before ++ output ++ String.ofList behind) state) := by
  refine ⟨isBody.commandEnd?_append, ?_⟩
  intro command hook state before behind plainBefore plainBehind
  apply runsOnce_of_substitute
  rw [expandRunning, String.toList_ofList,
    isBody.tokens_between command plainBefore plainBehind, List.mapM_append, List.mapM_cons,
    mapM_expandTokenRunning_raw, mapM_expandTokenRunning_raw]
  simp [expandTokenRunning, join_singletons, protectIf, String.append_assoc]

/-- A body in which parentheses stand in quotes of both sorts, in pairs and behind a backslash. -/
def mixedBody : List Char :=
  ['f', '\x27', '(', '\x27', '\x22', '\\', '\x22', ')', '\x22', '(', 'a', ')', '\\', ')']

theorem isBody_mixedBody : CommandBody mixedBody := by
  have group : CommandBody ['(', 'a', ')', '\\', ')'] :=
    @CommandBody.group ['a'] _ (.char (by decide) .nil) (.escape ')' .nil)
  have double : CommandBody
      ('\x22' :: (['\\', '\x22', ')'] ++ '\x22' :: ['(', 'a', ')', '\\', ')'])) :=
    .double (.escape '\x22' (.char (by decide) (by decide) .nil)) group
  exact .char (by decide) (@CommandBody.single ['('] _ (by decide) double)

theorem mixedBody_runs_once :
    CommandBody mixedBody ∧ mixedBody.head? ≠ some '(' ∧
      commandEnd? (['$', '('] ++ mixedBody ++ ')' :: [')']) 2 = some (2 + mixedBody.length) ∧
      ∃ output, IsTrimmed output "x\ny\n\n" ∧
        execute (expandRunning (.answering fun _ => ⟨"x\ny\n\n", "", 3⟩)
            (String.ofList (['a', '*'] ++ '$' :: '(' :: (mixedBody ++ ')' :: [']'])))) {} =
          (.ok (String.ofList ['a', '*'] ++ output ++ String.ofList [']']),
            { substitutions := [String.ofList mixedBody], lastStatus := 3 }) := by
  have command : mixedBody.head? ≠ some '(' := by decide
  obtain ⟨closes, runs⟩ := unquotedCommand_runs_once isBody_mixedBody
  exact ⟨isBody_mixedBody, command, closes ['$', '('] [')'],
    runs command (.answering fun _ => ⟨"x\ny\n\n", "", 3⟩) {} ['a', '*'] [']']
      (by simp [activeMarks]) (by simp [activeMarks])⟩

/-- Between double quotes, a command is run once and whole exactly if its body has no quotation mark
that is not behind a backslash. Otherwise that body is not run at all: the mark ends the quotes, and
only what shorter commands do makes a difference. -/
theorem quotedCommand_runs_whole_iff {body : List Char} (isBody : CommandBody body)
    (command : body.head? ≠ some '(') (hook : CommandHook) (state : State) :
    (RunsOnce hook (String.ofList body)
      (String.ofList ('\x22' :: '$' :: '(' :: (body ++ [')', '\x22'])))
        Glob.protectText state ↔
      ¬ HasBareQuote body) ∧
    (HasBareQuote body → ∀ other : CommandHook,
      (∀ shorter : String, shorter.length < (String.ofList body).length →
        other.run shorter = hook.run shorter) →
      expandRunning other (String.ofList ('\x22' :: '$' :: '(' :: (body ++ [')', '\x22']))) =
        expandRunning hook (String.ofList ('\x22' :: '$' :: '(' :: (body ++ [')', '\x22'])))) := by
  -- With a mark in the body, the commands of the pattern are among what stands behind the mark.
  have shorter : HasBareQuote body → ∀ source inner quoted,
      .command source inner quoted ∈ tokens ('\x22' :: '$' :: '(' :: (body ++ [')', '\x22'])) →
        (String.ofList inner).length < (String.ofList body).length := by
    intro bare source inner quoted member
    obtain ⟨⟨front, back⟩, found⟩ : ∃ found, splitUnescaped? '\x22' body = some found :=
      Option.ne_none_iff_exists'.mp fun missing => splitUnescaped?_eq_none_iff.mp missing bare
    have split := (splitUnescaped?_eq_some found).1
    rw [isBody.tokens_cut command found] at member
    have later : .command source inner quoted ∈ tokens (back ++ [')', '\x22']) := by
      simpa using member
    have fits := fitInto_tokens _ source inner quoted later
    have longer : body.length = front.length + (back.length + 1) := by simp [split]
    rw [String.length_ofList, String.length_ofList]
    simp at fits
    omega
  refine ⟨⟨?_, ?_⟩, ?_⟩
  · intro runs bare
    have recorded := runs.recorded
    rw [expandRunning, bind_pure_comp, after_map, String.toList_ofList] at recorded
    rcases substitutions_mapM_cases hook _ state with
      none | ⟨source, inner, quoted, member, instead⟩
    · have longer := recorded.length_le
      rw [none, List.length_append, List.length_singleton] at longer
      omega
    · have same : state.substitutions ++ [String.ofList body] =
          state.substitutions ++ [String.ofList inner] :=
        List.IsPrefix.eq_of_length (List.prefix_of_prefix_length_le recorded instead (by simp))
          (by simp)
      have alike : String.ofList body = String.ofList inner := by simpa using same
      have less := shorter bare source inner quoted member
      rw [alike] at less
      exact lt_irrefl _ less
  · intro bare
    apply runsOnce_of_substitute
    rw [expandRunning, String.toList_ofList, isBody.tokens_quoted command bare]
    simp [expandTokenRunning, protectIf]
  · intro bare other alike
    rw [expandRunning, expandRunning, String.toList_ofList, mapM_expandTokenRunning_congr
      fun source inner quoted member => alike _ (shorter bare source inner quoted member)]

/-- A body with both kinds of quotes, the double ones behind backslashes. -/
def escapedBody : List Char := ['f', '\\', '\x22', '\x27', ')', '\x27', '\\', '\x22']

theorem escapedBody_runs_whole :
    CommandBody escapedBody ∧ escapedBody.head? ≠ some '(' ∧ ¬ HasBareQuote escapedBody ∧
      ∃ output, IsTrimmed output "a*b\n" ∧
        execute (expandRunning (.answering fun _ => ⟨"a*b\n", "", 0⟩)
            (String.ofList ('\x22' :: '$' :: '(' :: (escapedBody ++ [')', '\x22'])))) {} =
          (.ok (Glob.protectText output), { substitutions := [String.ofList escapedBody] }) := by
  have isBody : CommandBody escapedBody :=
    .char (by decide)
      (.escape '\x22' (@CommandBody.single [')'] _ (by decide) (.escape '\x22' .nil)))
  have command : escapedBody.head? ≠ some '(' := by decide
  have bare : ¬ HasBareQuote escapedBody := splitUnescaped?_eq_none_iff.mp (by decide)
  exact ⟨isBody, command, bare,
    (quotedCommand_runs_whole_iff isBody command
      (.answering fun _ => ⟨"a*b\n", "", 0⟩) {}).1.mpr bare⟩

/-- A body with an argument between double quotes. -/
def quotingBody : List Char := ['f', '\x22', 'a', '\x22']

/-- A command whose argument is quoted comes out as text and is not run. -/
theorem quotingBody_is_not_run :
    CommandBody quotingBody ∧ quotingBody.head? ≠ some '(' ∧
      ∀ hook : CommandHook,
        execute (expandRunning hook
            (String.ofList ('\x22' :: '$' :: '(' :: (quotingBody ++ [')', '\x22'])))) {} =
          (.ok (Glob.protectText "$(f" ++ "a" ++ Glob.protectText ")"), {}) := by
  have isBody : CommandBody quotingBody :=
    .char (by decide) (@CommandBody.double ['a'] [] (.char (by decide) (by decide) .nil) .nil)
  have scanned : tokens ('\x22' :: '$' :: '(' :: (quotingBody ++ [')', '\x22'])) =
      [.literal ['$', '(', 'f'], .raw ['a'], .literal [')']] := by
    decide +kernel
  refine ⟨isBody, by decide, fun hook => ?_⟩
  rw [expandRunning, String.toList_ofList, scanned]
  rfl

end Shell.State
