import Shell.Proofs.Variable.Reading
import Shell.Proofs.Variable.Shallow
import Shell.Proofs.Variable.Subscript

/-!
# How deep subscripts lead

The variables in a subscript may have subscripts of their own, but only in braces, and
there they hold no braces. Whatever the values are, an expression has no names with
subscripts. So three readings inside each other are all that a name can lead to, as
long as no nameref holds a subscript. A nameref that does may lead on without end.
-/

namespace Shell

open Running

namespace Draw

variable {α β : Type} {Given : α → Prop} {Last : β → Prop} {first : Draw α} {next : α → Draw β}

/-- Whatever was asked before, the reading does not lead too deep, and it gives only what is told.
-/
def Yields (read : Draw α) (Given : α → Prop) : Prop :=
  ∀ queries, State.IsShallow (execute read queries).1 ∧
    ∀ value last, execute read queries = (.ok value, last) → Given value

theorem yields_pure {value : α} (given : Given value) : Yields (pure value) Given := by
  refine fun queries => ⟨State.isShallow_ok value, ?_⟩
  rintro other last ⟨⟩
  exact given

theorem yields_throw {fault : Fault} (other : fault ≠ .nestingTooDeep) :
    Yields (throw fault) Given :=
  fun _ => ⟨State.isShallow_error other, nofun⟩

theorem yields_ofExcept {result : Except Fault α} (shallow : State.IsShallow result)
    (given : ∀ value, result = .ok value → Given value) :
    Yields (MonadExcept.ofExcept result) Given := by
  intro queries
  rw [execute_ofExcept]
  exact ⟨shallow, fun value _ same => given value (Prod.mk.inj same).1⟩

theorem Yields.bind (yields : Yields first Given)
    (rest : ∀ value, Given value → Yields (next value) Last) : Yields (first >>= next) Last := by
  intro queries
  obtain ⟨shallow, given⟩ := yields queries
  rw [execute_bind]
  rcases ran : execute first queries with ⟨fault | value, middle⟩
  · rw [ran] at shallow
    exact ⟨State.isShallow_error fun same => shallow (congrArg Except.error same), nofun⟩
  · exact rest value (given value middle ran) middle

theorem Yields.recover (yields : Yields first Given) : Yields first.recover fun _ => True := by
  intro queries
  have shallow := (yields queries).1
  rw [execute_recover]
  generalize execute first queries = ran at shallow
  rcases ran with ⟨fault | value, middle⟩
  · refine ⟨?_, fun _ _ _ => trivial⟩
    dsimp only
    split
    · exact State.isShallow_ok none
    · exact State.isShallow_error fun same => shallow (congrArg Except.error same)
  · exact ⟨State.isShallow_ok _, fun _ _ _ => trivial⟩

end Draw

namespace Arithmetic

open Draw

/-- A token is no name with a bracket in it. -/
def Token.IsBare : Token → Prop
  | .name text => '[' ∉ text
  | _ => True

theorem bracket_notMem_takeWhile {keeps : Char → Bool} (stops : keeps '[' = false)
    (rest : List Char) : '[' ∉ rest.takeWhile keeps := by
  intro member
  have kept := List.all_eq_true.mp (List.all_takeWhile (l := rest) (p := keeps)) '[' member
  rw [stops] at kept
  contradiction

theorem isBare_headToken (c : Char) (rest : List Char) : (headToken c rest).IsBare := by
  unfold headToken
  split
  · trivial
  · split
    · rename_i start
      rintro (_ | ⟨_, member⟩)
      · exact absurd start (by decide)
      · exact bracket_notMem_takeWhile (by decide) rest member
    · trivial

theorem isBare_of_mem_tokensAfter {skip : Nat} {text : List Char} :
    ∀ token ∈ tokensAfter skip text, token.IsBare := by
  induction text generalizing skip with
  | nil => simp [tokensAfter]
  | cons c rest inductionHypothesis =>
    cases skip with
    | succ skip => exact inductionHypothesis
    | zero =>
      unfold tokensAfter
      split
      · exact inductionHypothesis
      · exact List.forall_mem_cons.mpr ⟨isBare_headToken c rest, inductionHypothesis⟩

/-- What is left of bare tokens after a part of an expression. -/
def LeavesBare (result : Int × List Token) : Prop := ∀ token ∈ result.2, token.IsBare

variable {read : String → Draw String}
  (reads : ∀ name : String, '[' ∉ name.toList → Yields (read name) fun _ => True)

include reads

theorem yields_operand {token : Token} (bare : token.IsBare) :
    Yields (operand read token) fun _ => True := by
  cases token with
  | number digits =>
    simp only [operand]
    split
    · exact yields_pure trivial
    · exact yields_throw (by simp)
  | name text =>
    have asked := reads (String.ofList text) (by rwa [String.toList_ofList])
    exact asked.bind fun _ _ => yields_pure trivial
  | sign c =>
    simp only [operand]
    split
    · exact yields_throw (by simp)
    · exact yields_throw (by simp)

omit reads in
theorem yields_divide (remainder : Bool) (a b : Int) :
    Yields (divide remainder a b) fun _ => True := by
  unfold divide
  split
  · exact yields_throw (by simp)
  · exact yields_pure trivial

/-- The five parts of an expression read no names but bare ones, and leave only those. -/
theorem yields_parts (fuel : Nat) :
    (∀ tokens, (∀ token ∈ tokens, token.IsBare) → Yields (sum read fuel tokens) LeavesBare) ∧
    (∀ value tokens, (∀ token ∈ tokens, token.IsBare) →
      Yields (sumAfter read fuel value tokens) LeavesBare) ∧
    (∀ tokens, (∀ token ∈ tokens, token.IsBare) → Yields (product read fuel tokens) LeavesBare) ∧
    (∀ value tokens, (∀ token ∈ tokens, token.IsBare) →
      Yields (productAfter read fuel value tokens) LeavesBare) ∧
    ∀ tokens, (∀ token ∈ tokens, token.IsBare) → Yields (factor read fuel tokens) LeavesBare := by
  induction fuel with
  | zero =>
    unfold sum sumAfter product productAfter factor
    exact ⟨fun _ _ => yields_throw (by simp), fun _ _ _ => yields_throw (by simp),
      fun _ _ => yields_throw (by simp), fun _ _ _ => yields_throw (by simp),
      fun _ _ => yields_throw (by simp)⟩
  | succ fuel inductionHypothesis =>
    obtain ⟨sum, sumAfter, product, productAfter, factor⟩ := inductionHypothesis
    have behind : ∀ {token : Token} {rest : List Token},
        (∀ each ∈ token :: rest, each.IsBare) → ∀ each ∈ rest, each.IsBare :=
      fun bare each member => bare each (List.mem_cons_of_mem _ member)
    refine ⟨fun tokens bare => ?_, fun value tokens bare => ?_, fun tokens bare => ?_,
      fun value tokens bare => ?_, fun tokens bare => ?_⟩
    · simp only [Arithmetic.sum]
      exact (product tokens bare).bind fun result left => sumAfter result.1 result.2 left
    · unfold Arithmetic.sumAfter
      dsimp only
      split
      · exact (product _ (behind bare)).bind fun result left => sumAfter _ result.2 left
      · exact (product _ (behind bare)).bind fun result left => sumAfter _ result.2 left
      · exact yields_pure bare
    · simp only [Arithmetic.product]
      exact (factor tokens bare).bind fun result left => productAfter result.1 result.2 left
    · unfold Arithmetic.productAfter
      dsimp only
      split
      · exact (factor _ (behind bare)).bind fun result left => productAfter _ result.2 left
      · refine (factor _ (behind bare)).bind fun result left => ?_
        exact (yields_divide _ _ _).bind fun _ _ => productAfter _ result.2 left
      · refine (factor _ (behind bare)).bind fun result left => ?_
        exact (yields_divide _ _ _).bind fun _ _ => productAfter _ result.2 left
      · exact yields_pure bare
    · unfold Arithmetic.factor
      dsimp only
      split
      · exact yields_throw (by simp)
      · exact (factor _ (behind bare)).bind fun _ left => yields_pure left
      · exact factor _ (behind bare)
      · refine (sum _ (behind bare)).bind fun result left => ?_
        obtain ⟨value, rest⟩ := result
        dsimp only
        split
        · exact yields_throw (by simp)
        · exact yields_pure (behind left)
        · exact yields_throw (by simp)
      · rename_i token rest _ _ _
        have head := bare token List.mem_cons_self
        exact (yields_operand reads head).bind fun _ _ => yields_pure (behind bare)

theorem yields_value (text : List Char) : Yields (value read (tokens text)) fun _ => True := by
  unfold value
  refine ((yields_parts reads _).1 _ isBare_of_mem_tokensAfter).bind fun result _ => ?_
  obtain ⟨value, rest⟩ := result
  cases rest with
  | nil => exact yields_pure trivial
  | cons token rest => exact yields_throw (by simp)

end Arithmetic

namespace Subscript

open Draw

/-- A variable in braces is named by what stands before the first closing brace. -/
theorem brace_notMem_of_splitAt? {text name rest : List Char}
    (found : Text.splitAt? '\x7d' text = some (name, rest)) : '\x7d' ∉ name := by
  induction text generalizing name with
  | nil => contradiction
  | cons c behind inductionHypothesis =>
    unfold Text.splitAt? at found
    split at found
    · cases found
      exact List.not_mem_nil
    · rename_i other
      obtain ⟨⟨before, after⟩, split, same⟩ := Option.map_eq_some_iff.mp found
      cases same
      rintro (_ | ⟨_, member⟩)
      · exact other rfl
      · exact inductionHypothesis split member

/-- A variable in a subscript has no closing brace in its name, and no bracket if the subscript has
no closing brace. -/
theorem parameter?_cases {rest name : List Char} {length : Nat}
    (found : parameter? rest = some (name, length)) :
    '[' ∉ name ∨ '\x7d' ∈ rest ∧ '\x7d' ∉ name := by
  unfold parameter? at found
  split at found
  · obtain ⟨⟨before, after⟩, split, same⟩ := Option.map_eq_some_iff.mp found
    cases same
    have text := Text.splitAt?_eq_some split
    exact .inr ⟨by simp [text], brace_notMem_of_splitAt? split⟩
  · rename_i c rest _
    split at found
    · rename_i start
      cases found
      left
      rintro (_ | ⟨_, member⟩)
      · exact absurd start (by decide)
      · exact Arithmetic.bracket_notMem_takeWhile (by decide) rest member
    · contradiction
  · contradiction

theorem strip_subset (text : List Char) : Text.strip text ⊆ text := by
  intro c member
  have inner := (List.dropWhile_suffix _).subset (List.mem_reverse.mp member)
  exact (List.dropWhile_suffix _).subset (List.mem_reverse.mp inner)

theorem unquote_subset (text : List Char) : unquote text ⊆ text := by
  unfold unquote
  split
  · exact List.Subset.refl []
  · split
    · exact List.Subset.trans (List.dropLast_subset _) (List.subset_cons_self _ _)
    · exact List.Subset.refl _

variable {read : String → Draw String}

/-- Replacing variables does not lead too deep if none of their names does. -/
theorem yields_expandAfter {text : List Char}
    (asked : ∀ rest name length, rest <:+ text → parameter? rest = some (name, length) →
      Yields (read (String.ofList name)) fun _ => True) (skip : Nat) :
    Yields (expandAfter read skip text) fun _ => True := by
  induction text generalizing skip with
  | nil =>
    simp only [expandAfter]
    exact yields_pure trivial
  | cons c rest inductionHypothesis =>
    have behind := inductionHypothesis fun shorter name length suffix =>
      asked shorter name length (suffix.trans (List.suffix_cons c rest))
    cases skip with
    | succ skip => exact behind skip
    | zero =>
      simp only [expandAfter]
      split
      · rename_i name length found
        split at found
        · refine (asked rest name length (List.suffix_cons c rest) found).bind fun _ _ => ?_
          exact (behind length).bind fun _ _ => yields_pure trivial
        · contradiction
      · exact (behind 0).bind fun _ _ => yields_pure trivial

end Subscript

namespace State

open Draw

variable {state : State}

theorem isShallow_secondsText (state : State) (now : Instant) :
    IsShallow (state.secondsText now) := by
  have whole : ∀ time : Instant, IsShallow time.seconds := by
    intro time
    unfold Instant.seconds
    split
    · exact isShallow_ok _
    · exact isShallow_ok _
    · exact isShallow_error nofun
    · exact isShallow_error nofun
  exact ((isShallow_since _ _).bind whole).bind isShallow_spell

theorem yields_computed? {name : String} {read : Draw String}
    (found : state.computed? name = some read) : Yields read fun _ => True := by
  have spelled : ∀ number, Yields (MonadExcept.ofExcept (spell number)) fun _ => True :=
    fun number => yields_ofExcept (isShallow_spell number) fun _ _ => trivial
  have counted : ∀ now, Yields (MonadExcept.ofExcept (state.secondsText now)) fun _ => True :=
    fun now => yields_ofExcept (isShallow_secondsText state now) fun _ _ => trivial
  have told : ∀ text : String, Yields (pure text) fun _ => True := fun _ => yields_pure trivial
  unfold computed? at found
  split at found
  case h_4 =>
    cases found
    split
    · exact told ""
    · exact spelled state.backgroundId
  case h_12 =>
    cases found
    exact fun queries => spelled _ (.number :: queries)
  case h_13 =>
    cases found
    exact fun queries => counted _ (.time :: queries)
  case h_16 => contradiction
  all_goals
    cases found
    first | exact spelled _ | exact told _

theorem isShallow_stored (state : State) (name : String) : IsShallow (state.stored name) := by
  unfold stored
  split
  · rename_i values called
    rw [map_eq_pure_bind]
    exact (isShallow_callArray? called).bind fun _ => isShallow_ok _
  · split
    · exact isShallow_ok _
    · split
      · unfold isArray
        split
        · exact isShallow_ok _
        · rw [map_eq_pure_bind]
          refine ((isShallow_indices state name).bind fun _ => isShallow_ok _).bind fun _ => ?_
          exact isShallow_ok _
      · exact isShallow_ok _

theorem isShallow_normalIndex? (state : State) (array : String) (index : Int) :
    IsShallow (state.normalIndex? array index) := by
  unfold normalIndex?
  split
  · exact isShallow_ok _
  · refine (isShallow_indices state array).bind fun numbers => ?_
    split
    · exact isShallow_ok _
    · exact isShallow_ok _

theorem isShallow_indexKey (array : String) (index : Nat) : IsShallow (indexKey array index) := by
  unfold indexKey
  split
  · exact isShallow_ok _
  · exact isShallow_error nofun

/-- Reading an element does not lead too deep if neither does what its subscript names, nor what is
named without brackets. -/
theorem yields_element {read : String → Draw String} (reference : Reference)
    (bare : ∀ name : String, '[' ∉ name.toList → Yields (read name) fun _ => True)
    (braced : '\x7d' ∈ reference.subscript.toList →
      ∀ name : String, '\x7d' ∉ name.toList → Yields (read name) fun _ => True) :
    Yields (state.element read reference) fun _ => True := by
  have asked : ∀ text : List Char, text ⊆ reference.subscript.toList →
      Yields (Subscript.expandAfter read 0 text) fun _ => True := by
    refine fun text inside => Subscript.yields_expandAfter (fun rest name _ suffix found => ?_) 0
    rcases Subscript.parameter?_cases found with unbracketed | ⟨closed, unbraced⟩
    · exact bare _ (by rwa [String.toList_ofList])
    · exact braced (inside (suffix.subset closed)) _ (by rwa [String.toList_ofList])
  have evaluated : Yields (Subscript.evaluate read reference.subscript) fun _ => True := by
    refine (asked _ (Subscript.strip_subset _)).bind fun text _ => ?_
    exact Arithmetic.yields_value bare text
  have keyed : Yields (Subscript.key read reference.subscript) fun _ => True := by
    unfold Subscript.key Subscript.expand
    rw [String.toList_ofList]
    exact (asked _ (Subscript.unquote_subset _)).bind fun _ _ => yields_pure trivial
  unfold element
  dsimp only
  split
  · rename_i called
    refine (yields_ofExcept (isShallow_callArray? called) fun _ _ => trivial).bind fun _ _ => ?_
    split
    · exact yields_pure trivial
    · exact evaluated.recover.bind fun _ _ => yields_pure trivial
  · split
    · refine (yields_ofExcept (isShallow_elements state _) fun _ _ => trivial).bind fun _ _ => ?_
      split
      · exact yields_pure trivial
      · exact yields_pure trivial
    · split
      · exact keyed.bind fun _ _ => yields_pure trivial
      · have denoted := evaluated.bind fun index _ => yields_ofExcept
          (isShallow_normalIndex? state (state.resolved reference.array) index) fun _ _ => trivial
        refine denoted.recover.bind fun index _ => ?_
        split
        · exact yields_pure trivial
        · refine (yields_ofExcept (isShallow_indexKey _ _) fun _ _ => trivial).bind fun _ _ => ?_
          split
          · exact yields_pure trivial
          · exact yields_pure trivial

variable (plain : state.HasPlainNamerefs) {depth : Nat} {name : String}

include plain

/-- A name without a subscript leads to no other variable. -/
theorem HasPlainNamerefs.yields_plain (unsubscripted : Reference.parse? name = none) :
    Yields (state.valueWithin (depth + 1) name) fun _ => True := by
  rw [valueWithin_succ, plain.parse?_resolved unsubscripted]
  dsimp only
  cases found : state.computed? (state.resolved name) with
  | some read => exact yields_computed? found
  | none => exact yields_ofExcept (isShallow_stored state _) fun _ _ => trivial

/-- A name leads as deep as the names in braces in its subscript, or ends one level below. -/
theorem HasPlainNamerefs.yields_subscripted
    (braced : ∀ reference, Reference.parse? name = some reference →
      '\x7d' ∈ reference.subscript.toList → ∀ inner : String, '\x7d' ∉ inner.toList →
        Yields (state.valueWithin (depth + 1) inner) fun _ => True) :
    Yields (state.valueWithin (depth + 2) name) fun _ => True := by
  cases parsed : Reference.parse? name with
  | none => exact plain.yields_plain parsed
  | some reference =>
    have direct : state.resolved name = name := by
      unfold resolved
      split
      · rename_i valid
        rw [Reference.parse?_of_isName valid] at parsed
        contradiction
      · rfl
    rw [valueWithin_succ, direct, parsed]
    exact yields_element reference
      (fun _ bare => plain.yields_plain (Reference.parse?_of_notMem bare))
      (braced reference parsed)

/-- Where no nameref holds a subscript, three levels are enough for every name. -/
theorem HasPlainNamerefs.yields_valueWithin (name : String) :
    Yields (state.valueWithin (depth + 3) name) fun _ => True := by
  refine plain.yields_subscripted fun _ _ _ inner unbraced => ?_
  refine plain.yields_subscripted fun reference parsed closed => ?_
  exact absurd (Reference.subscript_subset parsed closed) unbraced

end State

end Shell
