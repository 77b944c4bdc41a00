import Shell.Proofs.Variable.Failing
import Shell.Proofs.Variable.Listing

/-!
# All elements of an array at once

Reading all elements of an array gives the values that are listed for it, with spaces between them;
without any, the scalar that is kept under its name. The reader follows namerefs first, and the
listing looks at the names of the call stack first. This makes no difference as long as no nameref
leads to or from such a name: the listing follows namerefs once more, and the end of a chain leads
to itself.
-/

namespace Shell.State

variable {state : State} {name last : String}

/-- An array is listed, if its indices can be read. -/
theorem exists_ownElements (readable : state.Readable name) :
    ∃ listed, state.ownElements name = .ok listed := by
  unfold ownElements
  cases indexed : state.isAssociative name with
  | true => exact ⟨_, rfl⟩
  | false =>
    obtain ⟨numbers, spelled, listing⟩ := readable.exists_numbers indexed
    have each : ∀ n ∈ ascending numbers, state.elementAt name n =
        .ok (.index n, (state.store.get? (elementKey name (toString n))).getD "") := by
      intro n member
      have suffix : toString n ∈
          (state.suffixes name).filter fun suffix => Text.isIndex suffix.toList := by
        rw [← spelled]
        exact List.mem_map_of_mem ((perm_ascending numbers).mem_iff.mp member)
      have present := mem_suffixes.mp (List.mem_filter.mp suffix).1
      rw [Store.has_eq_isSome_get?, Option.isSome_iff_exists] at present
      obtain ⟨value, found⟩ := present
      exact elementAt_eq_ok_iff.mpr ⟨value, found, by rw [found, Option.getD_some]⟩
    rw [if_neg Bool.false_ne_true, listing]
    exact ⟨_, mapM_eq_ok each⟩

/-- The text of all elements that are listed for a name: their values, with spaces between them.
Where none is listed it is the scalar of the variable; the call stack has none. -/
def wholeText (state : State) (name : String) (listed : List (Key × String)) : String :=
  if listed.isEmpty then
    if (state.callArray? name).isSome then "" else (state.store.get? (state.resolved name)).getD ""
  else " ".intercalate (listed.map (·.2))

/-- No nameref leads to or from one of the names of the call stack. -/
def OwnStack (state : State) (name : String) : Prop :=
  state.resolved name = name ∨
    (state.callArray? name = none ∧ state.callArray? (state.resolved name) = none)

section Reading

variable (read : String → Draw String)

theorem element_of_stack {values : Except Fault (List String)}
    (direct : state.resolved name = name) (stack : state.callArray? name = some values) :
    state.element read ⟨name, "@"⟩ =
      MonadExcept.ofExcept (state.wholeText name <$> state.elements name) := by
  have shown : state.elements name = numbered <$> values := by rw [elements, stack]
  unfold element
  dsimp only
  rw [direct, stack, shown]
  cases values with
  | error fault => rfl
  | ok values =>
    have texts : (numbered values).map (·.2) = values := by
      apply List.ext_getElem <;> simp [numbered]
    change (pure (" ".intercalate values) : Draw String) =
      pure (state.wholeText name (numbered values))
    unfold wholeText
    rw [texts, stack]
    cases values with
    | nil => rfl
    | cons first rest =>
      rw [numbered, List.mapIdx_cons]
      rfl

theorem element_of_variable (listable : state.callArray? name = none)
    (leads : state.callArray? (state.resolved name) = none) :
    state.element read ⟨name, "@"⟩ =
      MonadExcept.ofExcept (state.wholeText name <$> state.elements name) := by
  have again : state.elements (state.resolved name) = state.elements name := by
    rw [elements, elements, listable, leads, resolved_resolved]
  unfold element readElements
  dsimp only
  rw [leads, again]
  cases state.elements name with
  | error fault => rfl
  | ok listed =>
    change (if listed.isEmpty = true then _ else _) = (pure (state.wholeText name listed) : Draw _)
    unfold wholeText
    rw [listable]
    split <;> rfl

end Reading

/-- What is listed for a name can be written or read: the lines of the calls, or the indices of the
array. -/
structure Listable (state : State) (name : String) : Prop where
  lines : name = "BASH_LINENO" → ¬ state.HasLongLine
  indices : state.callArray? name = none → state.Readable (state.resolved name)

theorem Listable.exists_elements (listable : state.Listable name) :
    ∃ listed, state.elements name = .ok listed := by
  unfold elements
  cases called : state.callArray? name with
  | some values =>
    cases values with
    | ok values => exact ⟨numbered values, rfl⟩
    | error fault =>
      obtain ⟨lines, long, -⟩ := callArray?_eq_error_iff.mp called
      exact absurd long (listable.lines lines)
  | none => exact exists_ownElements (listable.indices called)

/-- Without newlines in keys nothing else is listed. -/
theorem listable_of_elements (single : state.SingleLine) {listed : List (Key × String)}
    (lists : state.elements name = .ok listed) : state.Listable name where
  lines := by
    intro lines long
    rw [elements, long.callArray? lines] at lists
    contradiction
  indices := by
    intro uncalled indexed
    rw [elements, uncalled] at lists
    unfold ownElements at lists
    rw [indexed, if_neg Bool.false_ne_true] at lists
    cases read : state.indices (state.resolved name) with
    | error fault =>
      rw [read] at lists
      contradiction
    | ok numbers =>
      exact readable_of_indices (fun _ present _ => single.suffix present) read indexed

/-- Where no nameref leads to or from a name of the call stack, reading all elements of a name gives
the text of what is listed for it, or fails where the listing does. There is a list if the lines of
the calls, or the indices of the array, can be written or read; without newlines in keys, only
then. -/
theorem whole_reads_listed (identifier : Text.isIdentifier name.toList = true)
    (own : state.OwnStack name) :
    state.value (Reference.text ⟨name, "@"⟩) =
        MonadExcept.ofExcept (state.wholeText name <$> state.elements name) ∧
      (state.Listable name → ∃ listed, state.elements name = .ok listed) ∧
      (state.SingleLine → (∃ listed, state.elements name = .ok listed) → state.Listable name) := by
  refine ⟨?_, Listable.exists_elements, fun single ⟨_, lists⟩ => listable_of_elements single lists⟩
  have parsed : Reference.parse? (Reference.text ⟨name, "@"⟩) = some ⟨name, "@"⟩ :=
    Reference.parse?_text identifier (show "@" ≠ "" by decide)
  obtain ⟨read, opened⟩ := value_text parsed
  rw [opened]
  cases stack : state.callArray? name with
  | some values =>
    rcases own with direct | ⟨listable, -⟩
    · exact element_of_stack read direct stack
    · rw [stack] at listable
      contradiction
  | none =>
    have leads : state.callArray? (state.resolved name) = none := by
      rcases own with direct | ⟨-, leads⟩
      · rw [direct, stack]
      · exact leads
    exact element_of_variable read stack leads

/-- A nameref to an array with a gap, inside of a call. -/
def aliasedArray : State :=
  { store := ((({} : Store).putNameref "ref" "x").put "x_0" "p q").put "x_2" "r"
    callNames := ["f"]
    callLines := [3]
    callSources := ["main"] }

theorem singleLine_aliasedArray : aliasedArray.SingleLine := singleLine_of_keys (by decide)

theorem aliasedArray_reads_whole :
    aliasedArray.OwnStack "ref" ∧ aliasedArray.SingleLine ∧
      aliasedArray.elements "ref" = .ok [(.index 0, "p q"), (.index 2, "r")] ∧
      aliasedArray.value (Reference.text ⟨"ref", "@"⟩) = pure "p q r" ∧
      aliasedArray.Listable "ref" ∧
      aliasedArray.OwnStack "BASH_LINENO" ∧ aliasedArray.Listable "BASH_LINENO" ∧
      (∃ listed, aliasedArray.elements "BASH_LINENO" = .ok listed) ∧
      aliasedArray.value (Reference.text ⟨"BASH_LINENO", "@"⟩) = pure "3" := by
  have leading : aliasedArray.OwnStack "ref" := .inr ⟨by decide, by decide⟩
  have listed : aliasedArray.elements "ref" = .ok [(.index 0, "p q"), (.index 2, "r")] := by decide
  obtain ⟨reads, -, only⟩ := whole_reads_listed (by decide) leading
  rw [listed] at reads
  have stack : aliasedArray.OwnStack "BASH_LINENO" := .inl rfl
  have short : spell 3 = .ok "3" := spell_of_lt (Text.lt_numberLimit 1 (by decide) (by decide))
  have called : aliasedArray.callArray? "BASH_LINENO" = some (.ok ["3"]) := by
    change some ([3].mapM spell) = _
    rw [List.mapM_cons, short]
    rfl
  have listable : aliasedArray.Listable "BASH_LINENO" := by
    refine ⟨fun _ long => ?_, fun uncalled => ?_⟩
    · rw [long.callArray? rfl] at called
      contradiction
    · rw [called] at uncalled
      contradiction
  obtain ⟨calls, listing, -⟩ := whole_reads_listed (by decide) stack
  have lines : aliasedArray.elements "BASH_LINENO" = .ok [(.index 0, "3")] := by
    rw [elements, called]
    rfl
  rw [lines] at calls
  exact ⟨leading, singleLine_aliasedArray, listed, reads,
    only singleLine_aliasedArray ⟨_, listed⟩, stack, listable, listing listable, calls⟩

/-- A scalar under a name of the call stack, outside of any call. -/
def assignedStack : State := { store := ({} : Store).put "FUNCNAME" "x" }

theorem assignedStack_hides_scalar :
    assignedStack.elements "FUNCNAME" = .ok [] ∧
      assignedStack.store.get? (assignedStack.resolved "FUNCNAME") = some "x" ∧
      assignedStack.value (Reference.text ⟨"FUNCNAME", "@"⟩) = pure "" ∧
      assignedStack.value (Reference.text ⟨"FUNCNAME", "@"⟩) ≠ pure "x" := by
  have reads : assignedStack.value (Reference.text ⟨"FUNCNAME", "@"⟩) = pure "" := by rfl
  refine ⟨by decide, by decide, reads, fun same => ?_⟩
  have texts :=
    congrArg (fun read : Draw String => (read.run {}).1.toOption) (reads.symm.trans same)
  exact absurd texts (by decide)

end Shell.State
