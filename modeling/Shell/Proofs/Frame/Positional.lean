import Shell.Proofs.Frame.Exports
import Shell.Proofs.Variable.Erasure

/-!
# Replacing the positional parameters

Positional parameters are kept under their numbers, and they end at the first number without a
value. Replacing them drops as many as can be counted, so that a value behind the gap stays, and
comes to light if the new parameters reach up to it. A shell in which there is none such keeps free
of them, as long as no parameter is assigned behind a gap or unset in front of another one.
-/

namespace Shell

open Running

namespace State

variable {store : Store} {state last : State} {values : List String} {first count : Nat}

section Rows

/-- The parameters behind a number are there up to a count, and the next one is not. -/
structure Row (store : Store) (first count : Nat) : Prop where
  filled : ∀ n, first < n → n ≤ count → store.has (toString n) = true
  ended : store.has (toString (count + 1)) = false

/-- There are no more parameters in a row than there are values. -/
theorem exists_row (store : Store) : ∃ count ≤ store.values.size, Row store 0 count := by
  have missing : ∃ n ≤ store.values.size, store.has (toString (n + 1)) = false := by
    by_contra all
    simp only [not_exists, not_and, Bool.not_eq_false] at all
    have distinct : ((List.range (store.values.size + 1)).map fun n => toString (n + 1)).Nodup :=
      List.nodup_range.map fun _ _ same => Nat.succ.inj (toString_injective same)
    have stored : ((List.range (store.values.size + 1)).map fun n => toString (n + 1)) ⊆
        store.keys := by
      intro key member
      obtain ⟨n, below, rfl⟩ := List.mem_map.mp member
      exact (store.mem_keys _).mpr (all n (Nat.lt_succ_iff.mp (List.mem_range.mp below)))
    have fits := (distinct.subperm stored).length_le
    rw [List.length_map, List.length_range, Store.keys, Std.ExtTreeMap.length_keys] at fits
    omega
  classical
  obtain ⟨bound, small, absent⟩ := missing
  have ends : ∃ n, store.has (toString (n + 1)) = false := ⟨bound, absent⟩
  refine ⟨Nat.find ends, (Nat.find_min' ends absent).trans small, fun n positive below => ?_,
    Nat.find_spec ends⟩
  obtain ⟨m, rfl⟩ := Nat.exists_eq_succ_of_ne_zero positive.ne'
  exact Bool.not_eq_false _ ▸ Nat.find_min ends below

theorem Row.positionalFrom (row : Row state.store first count) {fuel : Nat}
    (inside : first ≤ count) (enough : count - first ≤ fuel) :
    state.positionalFrom fuel (first + 1) =
      (List.range' (first + 1) (count - first)).map fun n =>
        (state.store.get? (toString n)).getD "" := by
  induction fuel generalizing first with
  | zero =>
    rw [Nat.le_zero.mp enough]
    rfl
  | succ fuel inductionHypothesis =>
    unfold State.positionalFrom
    rcases inside.lt_or_eq with before | rfl
    · have present := row.filled (first + 1) (by omega) before
      rw [Store.has_eq_isSome_get?, Option.isSome_iff_exists] at present
      obtain ⟨value, found⟩ := present
      have further : Row state.store (first + 1) count :=
        ⟨fun n later => row.filled n (by omega), row.ended⟩
      obtain ⟨more, length⟩ : ∃ more, count - first = more + 1 := ⟨count - first - 1, by omega⟩
      rw [found, inductionHypothesis further before (by omega), length, List.range'_succ,
        List.map_cons, found]
      simp [show count - (first + 1) = more by omega]
    · rw [get?_eq_none_of_has row.ended, Nat.sub_self]
      rfl

theorem Row.unique {other : Nat} (row : Row store first count) (counted : Row store first other)
    (inside : first ≤ count) (alsoInside : first ≤ other) : other = count := by
  rcases Nat.lt_trichotomy other count with less | equal | more
  · have present := row.filled (other + 1) (by omega) less
    rw [counted.ended] at present
    contradiction
  · exact equal
  · have present := counted.filled (count + 1) (by omega) more
    rw [row.ended] at present
    contradiction

/-- The positional parameters are those of the row from one on. -/
theorem Row.positional (row : Row state.store 0 count) :
    state.positional =
      (List.range' 1 count).map fun n => (state.store.get? (toString n)).getD "" := by
  obtain ⟨counted, small, other⟩ := exists_row state.store
  obtain rfl := row.unique other (Nat.zero_le _) (Nat.zero_le _)
  exact row.positionalFrom (Nat.zero_le _) small

theorem Row.length_positional (row : Row state.store 0 count) :
    state.positional.length = count := by
  rw [row.positional, List.length_map, List.length_range']

theorem row_positional (state : State) : Row state.store 0 state.positional.length := by
  obtain ⟨count, -, row⟩ := exists_row state.store
  rwa [row.length_positional]

end Rows

section Replacing

theorem toString_ne_count (n : Nat) : toString n ≠ "#" := by
  intro same
  have digits : ['#'] = Nat.toDigits 10 n := toString_eq_iff.mp same.symm
  have digit := Text.isDigit_of_mem_toDigits (digits ▸ List.mem_singleton_self '#')
  contradiction

theorem Row.get?_dropPositionalFrom (row : Row store first count) {fuel : Nat}
    (inside : first ≤ count) (enough : count - first ≤ fuel) (n : Nat) :
    (dropPositionalFrom store fuel (first + 1)).get? (toString n) =
      if first < n ∧ n ≤ count then none else store.get? (toString n) := by
  induction fuel generalizing first store with
  | zero =>
    rw [if_neg (by omega)]
    rfl
  | succ fuel inductionHypothesis =>
    unfold dropPositionalFrom
    rcases inside.lt_or_eq with before | rfl
    · have further : Row (store.drop (toString (first + 1))) (first + 1) count := by
        have apart : ∀ n, first + 1 ≠ n → (store.drop (toString (first + 1))).has (toString n) =
            store.has (toString n) := by
          intro n different
          rw [Store.has_eq_isSome_get?, Store.get?_drop,
            if_neg (toString_injective.ne different), ← Store.has_eq_isSome_get?]
        refine ⟨fun n later below => ?_, ?_⟩
        · rw [apart n later.ne]
          exact row.filled n (by omega) below
        · rw [apart _ (by omega)]
          exact row.ended
      rw [if_pos (row.filled (first + 1) (by omega) before),
        inductionHypothesis further before (by omega), Store.get?_drop]
      by_cases here : first + 1 = n
      · subst here
        rw [if_neg (by omega), if_pos rfl, if_pos (by omega)]
      · rw [if_neg (toString_injective.ne here)]
        exact if_congr (by omega) rfl rfl
    · rw [row.ended, if_neg Bool.false_ne_true, if_neg (by omega)]

theorem get?_putPositionalFrom_toString (store : Store) (values : List String) (i n : Nat) :
    (putPositionalFrom store i values).get? (toString n) =
      (if i ≤ n then values[n - i]? else none).or (store.get? (toString n)) := by
  induction values generalizing store i with
  | nil => simp [putPositionalFrom]
  | cons value rest inductionHypothesis =>
    rw [putPositionalFrom, inductionHypothesis, Store.get?_put]
    rcases Nat.lt_trichotomy i n with before | rfl | after
    · obtain ⟨gap, rfl⟩ : ∃ gap, n = i + 1 + gap := ⟨n - (i + 1), by omega⟩
      have position : i + 1 + gap - i = gap + 1 := by omega
      rw [if_neg (toString_injective.ne (by omega)), if_pos (by omega), if_pos (by omega), position,
        List.getElem?_cons_succ, Nat.add_sub_cancel_left]
    · rw [if_neg (Nat.not_succ_le_self i), if_pos rfl, if_pos le_rfl, Nat.sub_self]
      rfl
    · rw [if_neg (toString_injective.ne (by omega)), if_neg (by omega), if_neg (by omega)]

/-- After the parameters were replaced, those that were counted before are gone. -/
theorem Row.get?_replacePositional (row : Row store 0 count) (values : List String) (n : Nat) :
    (replacePositional store values).get? (toString (n + 1)) =
      values[n]?.or (if n < count then none else store.get? (toString (n + 1))) := by
  obtain ⟨counted, small, other⟩ := exists_row store
  obtain rfl := row.unique other (Nat.zero_le _) (Nat.zero_le _)
  rw [replacePositional, Store.get?_put, if_neg (toString_ne_count _).symm,
    get?_putPositionalFrom_toString, row.get?_dropPositionalFrom (Nat.zero_le _) small,
    if_pos (by omega), Nat.add_sub_cancel]
  congr 1
  exact if_congr (by omega) rfl rfl

/-- A value is kept behind the parameters that are counted, right behind others of this number. -/
def Strays (state : State) (count : Nat) : Prop :=
  state.positional.length < count ∧ state.store.has (toString (count + 1)) = true

/-- A store in which as many parameters as values are counted once they are put there. -/
theorem Row.replaced (row : Row store 0 count)
    (free : ¬ (count < values.length ∧ store.has (toString (values.length + 1)) = true)) :
    Row (replacePositional store values) 0 values.length := by
  refine ⟨fun n positive below => ?_, ?_⟩
  · obtain ⟨m, rfl⟩ := Nat.exists_eq_succ_of_ne_zero positive.ne'
    rw [Store.has_eq_isSome_get?, row.get?_replacePositional values m,
      List.getElem?_eq_getElem (by omega)]
    rfl
  · rw [Store.has_eq_isSome_get?, row.get?_replacePositional values,
      List.getElem?_eq_none le_rfl, Option.none_or]
    rcases Nat.lt_trichotomy values.length count with less | rfl | more
    · rw [if_pos less]
      rfl
    · rw [if_neg (Nat.lt_irrefl _), ← Store.has_eq_isSome_get?, row.ended]
    · rw [if_neg (by omega), ← Store.has_eq_isSome_get?]
      exact Bool.eq_false_iff.mpr fun present => free ⟨more, present⟩

/-- The new parameters are all that are counted, unless an old one strays behind them. -/
theorem positional_replaced_iff (state : State) (values : List String) :
    State.positional { state with store := replacePositional state.store values } = values ↔
      ¬ state.Strays values.length := by
  have row := row_positional state
  let replaced : State := { state with store := replacePositional state.store values }
  constructor
  · rintro same ⟨less, present⟩
    have ended := (row_positional replaced).ended
    rw [same, Store.has_eq_isSome_get?, row.get?_replacePositional values,
      List.getElem?_eq_none le_rfl, Option.none_or, if_neg (by omega),
      ← Store.has_eq_isSome_get?, present] at ended
    contradiction
  · intro free
    have whole : Row replaced.store 0 values.length := row.replaced free
    refine (whole.positional).trans (List.ext_getElem (by simp) fun n _ below => ?_)
    rw [List.getElem_map, List.getElem_range', Nat.one_mul, Nat.add_comm]
    rw [row.get?_replacePositional values n, List.getElem?_eq_getElem below]
    rfl

end Replacing

section Reading

theorem value_of_computed {name : String} {read : Draw String}
    (unnamed : Text.isName name.toList = false) (plain : Reference.parse? name = none)
    (found : state.computed? name = some read) : state.value name = read := by
  have alone : state.resolved name = name := by
    rw [resolved, unnamed]
    rfl
  obtain ⟨read, form⟩ := exists_value_eq state name
  rw [form, alone, plain, found]
  rfl

/-- Two states count as many parameters, if the same ones are there. -/
theorem length_positional_of_has
    (same : ∀ n : Nat, last.store.has (toString n) = state.store.has (toString n)) :
    last.positional.length = state.positional.length := by
  have row := row_positional state
  refine Row.length_positional ⟨fun n positive below => ?_, ?_⟩
  · rw [same]
    exact row.filled n positive below
  · rw [same]
    exact row.ended

/-- Values replace all positional parameters, and so they do where a call is given them. -/
structure Replaces (state : State) (values : List String) : Prop where
  parameters : ∃ last, execute (setPositional values) state = (.ok (), last) ∧
    last.positional = values ∧ last.value "#" = pure (toString values.length) ∧
      last.value "@" = pure (" ".intercalate values)
  call : ∀ invocation : Invocation, invocation.args = values →
    state.callDepth + 1 ≤ invocation.limits.callDepth →
      ∃ frame inside, invocation.enter state = (.ok frame, inside) ∧ inside.positional = values

/-- The state inside of a call, with its positional parameters. -/
def Invocation.inside (invocation : Invocation) (state : State) : State :=
  let entered := state.enter ⟨invocation.function, invocation.line.getD state.line,
    sourceOrMain invocation.source⟩
  { entered with store := replacePositional entered.store invocation.args }

/-- A call is entered unless it goes too deep. -/
theorem enter_eq_ok {invocation : Invocation}
    (allowed : state.callDepth + 1 ≤ invocation.limits.callDepth) :
    invocation.enter state = (.ok (state.frame invocation.function), invocation.inside state) := by
  unfold Invocation.enter openFrame
  rw [execute_get_bind, if_neg (by omega)]
  rfl

theorem enter_eq_error {invocation : Invocation}
    (deep : invocation.limits.callDepth < state.callDepth + 1) :
    invocation.enter state =
      (.error (.ofMade (depthSignal invocation.limits invocation.function)), state) := by
  unfold Invocation.enter openFrame
  rw [execute_get_bind, if_pos deep]
  rfl

theorem positional_inside_iff (invocation : Invocation) (state : State) :
    (invocation.inside state).positional = invocation.args ↔
      ¬ state.Strays invocation.args.length := by
  have counted : ∀ call, (state.enter call).positional.length = state.positional.length :=
    fun call => length_positional_of_has fun _ => rfl
  refine (positional_replaced_iff _ invocation.args).trans (not_congr ?_)
  rw [Strays, Strays, counted]
  rfl

theorem replaces_iff (state : State) (values : List String) :
    state.Replaces values ↔ ¬ state.Strays values.length := by
  constructor
  · intro replaces
    obtain ⟨last, ran, same, -⟩ := replaces.parameters
    obtain rfl := (Prod.mk.inj ran).2
    exact (positional_replaced_iff state values).mp same
  · intro free
    have same := (positional_replaced_iff state values).mpr free
    refine ⟨⟨_, rfl, same, ?_, ?_⟩, ?_⟩
    · rw [value_of_computed (by decide) (by decide) rfl, same]
    · rw [value_of_computed (by decide) (by decide) rfl, same]
    · rintro invocation rfl allowed
      exact ⟨_, _, enter_eq_ok allowed, (positional_inside_iff invocation state).mpr free⟩

end Reading

end State

end Shell
