import Shell.Proofs.Text.Backslash

/-!
# Where a command ends

A command substitution closes at the first parenthesis with nothing else open in front of it. The
scanner keeps a depth and one quotation mark; the texts that leave both as they were are closed
under being put together, and the bodies of commands are among them.
-/

namespace Shell.Word

open Text

/-- Text between double quotes of a command: a quotation mark stands in it only behind a
backslash. -/
inductive DoubleQuoted : List Char → Prop
  | nil : DoubleQuoted []
  | char {c : Char} {rest : List Char} :
      c ≠ '\\' → c ≠ '\x22' → DoubleQuoted rest → DoubleQuoted (c :: rest)
  | escape (c : Char) {rest : List Char} : DoubleQuoted rest → DoubleQuoted ('\\' :: c :: rest)

/-- Characters that have a meaning of their own in a command. -/
def commandMarks : List Char := ['\\', '\x27', '\x22', '(', ')']

/-- Bodies of commands: what is quoted is closed, and the parentheses outside quotes are
balanced. -/
inductive CommandBody : List Char → Prop
  | nil : CommandBody []
  | char {c : Char} {rest : List Char} :
      c ∉ commandMarks → CommandBody rest → CommandBody (c :: rest)
  | escape (c : Char) {rest : List Char} : CommandBody rest → CommandBody ('\\' :: c :: rest)
  | single {text rest : List Char} :
      '\x27' ∉ text → CommandBody rest → CommandBody ('\x27' :: (text ++ '\x27' :: rest))
  | double {text rest : List Char} :
      DoubleQuoted text → CommandBody rest → CommandBody ('\x22' :: (text ++ '\x22' :: rest))
  | group {inner rest : List Char} :
      CommandBody inner → CommandBody rest → CommandBody ('(' :: (inner ++ ')' :: rest))

/-- The end of a command is looked for behind the text, where other parentheses and quotation marks
are open. -/
def Skips (depth : Nat) (quotation : Quotation) (text : List Char) (next : Nat)
    (following : Quotation) : Prop :=
  ∀ rest, commandFrom? depth quotation (text ++ rest) =
    (commandFrom? next following rest).map fun (body, after) => (text ++ body, after)

section Skipping

variable {depth next last : Nat} {quotation following final : Quotation}

theorem skips_nil : Skips depth quotation [] depth quotation := by
  intro rest
  simp

theorem Skips.append {first second : List Char} (skips : Skips depth quotation first next following)
    (further : Skips next following second last final) :
    Skips depth quotation (first ++ second) last final := by
  intro rest
  rw [List.append_assoc, skips, further, Option.map_map]
  simp [Function.comp_def]

theorem Skips.cons {c : Char} {text : List Char} (skips : Skips depth quotation [c] next following)
    (further : Skips next following text last final) :
    Skips depth quotation (c :: text) last final :=
  skips.append further

theorem skips_char {c : Char} (plain : c ∉ commandMarks) : Skips depth .plain [c] depth .plain := by
  intro rest
  simp only [commandMarks, List.mem_cons, List.not_mem_nil, or_false, not_or] at plain
  rw [List.singleton_append, commandFrom?] <;> simp_all

theorem skips_escape (c : Char) (unquoted : quotation ≠ .single) :
    Skips depth quotation ['\\', c] depth quotation := by
  intro rest
  cases quotation with
  | single => contradiction
  | plain => rfl
  | double => rfl

theorem skips_inSingle (c : Char) :
    Skips depth .single [c] depth (if c = '\x27' then .plain else .single) := fun _ => rfl

theorem skips_inDouble {c : Char} (backslash : c ≠ '\\') :
    Skips depth .double [c] depth (if c = '\x22' then .plain else .double) := by
  intro rest
  rw [List.singleton_append, commandFrom?] <;> simp_all

theorem skips_apostrophe : Skips depth .plain ['\x27'] depth .single := fun _ => rfl

theorem skips_quote : Skips depth .plain ['\x22'] depth .double := fun _ => rfl

theorem skips_single {text : List Char} (clean : '\x27' ∉ text) :
    Skips depth .plain ('\x27' :: (text ++ ['\x27'])) depth .plain := by
  have inside : Skips depth .single text depth .single := by
    induction text with
    | nil => exact skips_nil
    | cons c text inductionHypothesis =>
      rw [List.mem_cons, not_or] at clean
      have inside : Skips depth .single [c] depth .single := by
        simpa [Ne.symm clean.1] using skips_inSingle c
      exact inside.cons (inductionHypothesis clean.2)
  exact skips_apostrophe.cons (inside.append (skips_inSingle '\x27'))

theorem skips_double {text : List Char} (quoted : DoubleQuoted text) :
    Skips depth .plain ('\x22' :: (text ++ ['\x22'])) depth .plain := by
  have inside : Skips depth .double text depth .double := by
    induction quoted with
    | nil => exact skips_nil
    | @char c rest backslash inside _ inductionHypothesis =>
      have here : Skips depth .double [c] depth .double := by
        simpa [inside] using skips_inDouble backslash
      exact here.cons inductionHypothesis
    | escape c _ inductionHypothesis =>
      exact (skips_escape c (by decide)).append inductionHypothesis
  exact skips_quote.cons (inside.append (skips_inDouble (by decide)))

theorem skips_open : Skips depth .plain ['('] (depth + 1) .plain := fun _ => rfl

theorem skips_close : Skips (depth + 1) .plain [')'] depth .plain := fun _ => rfl

end Skipping

/-- A body leaves nothing open, at whatever depth it stands. -/
theorem CommandBody.skips {text : List Char} (body : CommandBody text) (depth : Nat) :
    Skips depth .plain text depth .plain := by
  induction body generalizing depth with
  | nil => exact skips_nil
  | char plain _ inductionHypothesis => exact (skips_char plain).cons (inductionHypothesis depth)
  | escape c _ inductionHypothesis =>
    exact (skips_escape c (by decide)).append (inductionHypothesis depth)
  | single clean _ inductionHypothesis =>
    simpa using (skips_single clean).append (inductionHypothesis depth)
  | double quoted _ inductionHypothesis =>
    simpa using (skips_double quoted).append (inductionHypothesis depth)
  | group _ _ inner rest =>
    exact skips_open.cons ((inner (depth + 1)).append (skips_close.cons (rest depth)))

/-- What is found behind a text that is skipped is found with the text in front of it. -/
theorem Skips.of_found {depth next : Nat} {quotation following : Quotation}
    {taken rest body after : List Char} (skips : Skips depth quotation taken next following)
    (behind : ∀ {inner}, commandFrom? next following rest = some (inner, after) →
      rest = inner ++ ')' :: after ∧ Skips next following inner 0 .plain)
    (found : (commandFrom? next following rest).map (fun (body, after) => (taken ++ body, after)) =
      some (body, after)) :
    taken ++ rest = body ++ ')' :: after ∧ Skips depth quotation body 0 .plain := by
  obtain ⟨⟨inner, last⟩, further, same⟩ := Option.map_eq_some_iff.mp found
  obtain ⟨rfl, rfl⟩ := Prod.mk.inj same
  obtain ⟨rfl, closed⟩ := behind further
  exact ⟨by simp, skips.append closed⟩

/-- A character that is taken by itself, with the end of a command behind it, is no backslash. -/
theorem ne_backslash_of_found {next : Nat} {following : Quotation} {c : Char}
    {rest : List Char} {found : List Char × List Char}
    (escape : ∀ d more, c = '\\' → rest = d :: more → False)
    (behind : (commandFrom? next following rest).map (fun (body, after) => (c :: body, after)) =
      some found) : c ≠ '\\' := by
  rintro rfl
  cases rest with
  | nil => simp [commandFrom?] at behind
  | cons d more => exact escape d more rfl rfl

/-- A command ends at the first parenthesis with nothing else open in front of it. -/
theorem commandFrom?_eq_some_iff {depth : Nat} {quotation : Quotation}
    {text body after : List Char} :
    commandFrom? depth quotation text = some (body, after) ↔
      text = body ++ ')' :: after ∧ Skips depth quotation body 0 .plain := by
  constructor
  · intro found
    fun_induction commandFrom? depth quotation text generalizing body with
    | case1 => contradiction
    | case2 depth c rest inductionHypothesis =>
      exact (skips_inSingle c).of_found inductionHypothesis found
    | case3 depth quotation c rest unquoted inductionHypothesis =>
      exact (skips_escape c unquoted).of_found inductionHypothesis found
    | case4 depth c rest escape inductionHypothesis =>
      exact (skips_inDouble (ne_backslash_of_found escape found)).of_found inductionHypothesis found
    | case5 depth rest inductionHypothesis =>
      exact skips_apostrophe.of_found inductionHypothesis found
    | case6 depth rest inductionHypothesis =>
      exact skips_quote.of_found inductionHypothesis found
    | case7 depth rest inductionHypothesis => exact skips_open.of_found inductionHypothesis found
    | case8 rest =>
      obtain ⟨rfl, rfl⟩ := Prod.mk.inj (Option.some.inj found)
      exact ⟨rfl, skips_nil⟩
    | case9 depth rest inductionHypothesis => exact skips_close.of_found inductionHypothesis found
    | case10 depth c rest escape apostrophe quote opening last inner inductionHypothesis =>
      have backslash := ne_backslash_of_found escape found
      have closing : c ≠ ')' := by
        cases depth with
        | zero => exact last rfl
        | succ depth => exact inner depth rfl
      have plain : c ∉ commandMarks := by simp_all [commandMarks]
      exact (skips_char plain).of_found inductionHypothesis found
  · rintro ⟨rfl, closed⟩
    rw [closed]
    simp [commandFrom?]

namespace CommandBody

variable {body : List Char} (isBody : CommandBody body)

include isBody

/-- The closing parenthesis of a command is the one behind its body, whatever follows. -/
theorem command?_append (rest : List Char) :
    command? (body ++ ')' :: rest) = some (body, rest) :=
  commandFrom?_eq_some_iff.mpr ⟨rfl, isBody.skips 0⟩

theorem commandEnd?_append (before rest : List Char) :
    commandEnd? (before ++ body ++ ')' :: rest) before.length =
      some (before.length + body.length) := by
  simp [commandEnd?, isBody.command?_append]

/-- No command ends inside of a body. -/
theorem command?_eq_none_of_prefix {front back : List Char} (split : body = front ++ back) :
    command? front = none := by
  rw [command?, Option.eq_none_iff_forall_ne_some]
  rintro ⟨inner, after⟩ found
  obtain ⟨rfl, closed⟩ := commandFrom?_eq_some_iff.mp found
  -- The parenthesis that would end it there also ends it in front of what follows the body.
  have early : command? (body ++ [')']) = some (inner, after ++ back ++ [')']) :=
    commandFrom?_eq_some_iff.mpr ⟨by simp [split], closed⟩
  have length := congrArg List.length split
  rw [isBody.command?_append, Option.some.injEq, Prod.mk.injEq] at early
  simp [early.1] at length

end CommandBody

end Shell.Word
