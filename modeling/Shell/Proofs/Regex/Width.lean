import Shell.Regex.Parser
import Shell.Regex.Pool

/-!
# Expressions of one width

An expression without repetitions, in which alternatives are equally wide, matches
texts of one length only. Pooling its alternatives keeps that length, and so does
building the expression from its pieces.
-/

namespace Shell.Regex

/-- The matches of the expression are this wide. What never matches is as wide as one likes. -/
inductive HasWidth : Regex → Nat → Prop
  | empty : HasWidth .empty 0
  | char (code : Nat) (negated : Bool) : HasWidth (.char code negated) 1
  | set (chars : CharSet) : HasWidth (.set chars) 1
  | seq {first second : Regex} {m n : Nat} : HasWidth first m → HasWidth second n →
      HasWidth (.seq first second) (m + n)
  | alt {left right : Regex} {n : Nat} : HasWidth left n → HasWidth right n →
      HasWidth (.alt left right) n
  | group {body : Regex} {n : Nat} : HasWidth body n → HasWidth (.group body) n
  | nothing (n : Nat) : HasWidth (.notAhead .empty) n
  | atEnd : HasWidth .atEnd 0

/-- The expressions, one after the other, are this wide. -/
inductive HaveWidth : List Regex → Nat → Prop
  | nil : HaveWidth [] 0
  | cons {r : Regex} {rest : List Regex} {m n : Nat} : HasWidth r m → HaveWidth rest n →
      HaveWidth (r :: rest) (m + n)

section Matching

theorem mem_readOne {text : Array Char} {passes : Char → Bool} {starts : List Nat} {k : Nat}
    (member : k ∈ readOne text passes starts) : ∃ i ∈ starts, k = i + 1 := by
  obtain ⟨i, passed, rfl⟩ := List.mem_map.mp member
  exact ⟨i, (List.mem_filter.mp passed).1, rfl⟩

variable {r : Regex} {caseless : Bool} {n : Nat}

/-- A match ends as far behind its start as the expression is wide. -/
theorem HasWidth.mem_ends (wide : HasWidth r n) {text : Array Char} {starts : List Nat} {k : Nat}
    (member : k ∈ r.ends caseless text starts) : ∃ i ∈ starts, k = i + n := by
  induction wide generalizing starts k with
  | empty => exact ⟨k, member, rfl⟩
  | char | set =>
    rw [ends] at member
    exact mem_readOne member
  | seq _ _ firstEnds secondEnds =>
    rw [ends] at member
    obtain ⟨j, between, rfl⟩ := secondEnds member
    obtain ⟨i, start, rfl⟩ := firstEnds between
    exact ⟨i, start, Nat.add_assoc ..⟩
  | alt _ _ leftEnds rightEnds =>
    rw [ends, Offsets.mem_union] at member
    exact member.elim leftEnds rightEnds
  | group _ bodyEnds => exact bodyEnds member
  | nothing => simp [ends] at member
  | atEnd =>
    rw [ends] at member
    exact ⟨k, (List.mem_filter.mp member).1, rfl⟩

theorem HasWidth.length_eq (wide : HasWidth r n) {text : List Char}
    (matched : r.matchesWhole caseless text = true) : text.length = n := by
  obtain ⟨i, start, length⟩ := wide.mem_ends (List.contains_iff_mem.mp matched)
  obtain rfl := List.mem_singleton.mp start
  rw [length, Nat.zero_add]

end Matching

section Sequences

variable {first second : List Regex} {m n : Nat}

theorem HaveWidth.one {r : Regex} (wide : HasWidth r n) : HaveWidth [r] n := .cons wide .nil

theorem HaveWidth.append (front : HaveWidth first m) (rest : HaveWidth second n) :
    HaveWidth (first ++ second) (m + n) := by
  induction front with
  | nil => rwa [List.nil_append, Nat.zero_add]
  | cons wide _ inductionHypothesis =>
    rw [Nat.add_assoc]
    exact .cons wide inductionHypothesis

theorem HaveWidth.seqAll (wide : HaveWidth first n) : HasWidth (seqAll first) n := by
  induction wide with
  | nil => exact .empty
  | @cons r rest m n wide others inductionHypothesis =>
    cases others with
    | nil => exact wide
    | cons => exact wide.seq inductionHypothesis

theorem hasWidth_altAll {r : Regex} {others : List Regex} (wide : HasWidth r n)
    (each : ∀ other ∈ others, HasWidth other n) : HasWidth (altAll r others) n := by
  induction others generalizing r with
  | nil => exact wide
  | cons next others inductionHypothesis =>
    obtain ⟨nextWide, each⟩ := List.forall_mem_cons.mp each
    exact wide.alt (inductionHypothesis nextWide each)

theorem hasWidth_ofItems (negated : Bool) (items : List Item) :
    HasWidth (ofItems negated items) 1 := by
  unfold ofItems
  split
  · exact .char _ _
  · exact .set _

end Sequences

section Pooling

variable {r : Regex} {first : List Regex} {others alternatives : List (List Regex)} {m n : Nat}

/-- An expression without parts is as wide as it is in every place. -/
theorem HasWidth.unique (simple : r.isSimple = true) (left : HasWidth r m) (right : HasWidth r n) :
    m = n := by
  cases left <;> cases right <;> first | rfl | contradiction

/-- Only one character is read by what is a set of members. -/
theorem HaveWidth.eq_one {items : List Item} (wide : HaveWidth first n)
    (only : onlyMembers? first = some items) : n = 1 := by
  cases wide with
  | nil => contradiction
  | cons wide others =>
    cases others with
    | nil =>
      cases wide with
      | char => rfl
      | set => rfl
      | _ => contradiction
    | cons => contradiction

theorem hasWidth_poolOrAlt (wide : HaveWidth first n)
    (each : ∀ branch ∈ others, HaveWidth branch n) :
    HasWidth (poolOrAlt first others) n := by
  unfold poolOrAlt
  split
  · rename_i items pooled
    rw [List.mapM_cons] at pooled
    obtain ⟨members, only, -⟩ := Option.bind_eq_some_iff.mp pooled
    obtain rfl := wide.eq_one only
    exact .set _
  · refine hasWidth_altAll wide.seqAll fun other member => ?_
    obtain ⟨branch, among, rfl⟩ := List.mem_map.mp member
    exact (each branch among).seqAll

theorem haveWidth_poolAll (wide : HaveWidth first n)
    (each : ∀ branch ∈ others, HaveWidth branch n) :
    HaveWidth (poolAll first others) n := by
  induction first generalizing others n with
  | nil => exact .one (hasWidth_poolOrAlt wide each)
  | cons r rest inductionHypothesis =>
    unfold poolAll
    split
    · rename_i common
      rw [Bool.and_eq_true, List.all_eq_true] at common
      obtain ⟨simple, heads⟩ := common
      cases wide with
      | @cons _ _ m n wide rest =>
        refine .cons wide (inductionHypothesis rest fun branch member => ?_)
        obtain ⟨whole, among, rfl⟩ := List.mem_map.mp member
        obtain ⟨tail, rfl⟩ := List.head?_eq_some_iff.mp (beq_iff_eq.mp (heads whole among))
        -- What is left behind the common part is as wide in every alternative.
        generalize total : m + n = width at each
        cases each _ among with
        | cons again tailWide =>
          obtain rfl := wide.unique simple again
          obtain rfl := Nat.add_left_cancel total
          exact tailWide
    · exact .one (hasWidth_poolOrAlt wide each)

theorem haveWidth_pool (nonempty : alternatives ≠ [])
    (each : ∀ branch ∈ alternatives, HaveWidth branch n) : HaveWidth (pool alternatives) n := by
  cases alternatives with
  | nil => exact absurd rfl nonempty
  | cons first others =>
    obtain ⟨wide, each⟩ := List.forall_mem_cons.mp each
    cases others with
    | nil => exact wide
    | cons => exact haveWidth_poolAll wide each

theorem branches_ne_nil (r : Regex) : r.branches ≠ [] := by
  cases r <;> simp [Regex.branches]

theorem HasWidth.branches (wide : HasWidth r n) : ∀ branch ∈ r.branches, HaveWidth branch n := by
  induction wide with
  | empty => exact List.forall_mem_singleton.mpr .nil
  | char | set | atEnd =>
    unfold Regex.branches
    exact List.forall_mem_singleton.mpr (.one (by constructor))
  | nothing n => exact List.forall_mem_singleton.mpr (.one (.nothing n))
  | seq _ _ firstWide secondWide =>
    unfold Regex.branches
    exact List.forall_mem_singleton.mpr
      ((haveWidth_pool (branches_ne_nil _) firstWide).append
        (haveWidth_pool (branches_ne_nil _) secondWide))
  | alt _ _ leftWide rightWide =>
    unfold Regex.branches
    exact List.forall_mem_cons.mpr ⟨haveWidth_pool (branches_ne_nil _) leftWide, rightWide⟩
  | group _ bodyWide =>
    unfold Regex.branches
    exact List.forall_mem_singleton.mpr (haveWidth_pool (branches_ne_nil _) bodyWide)

/-- Pooling keeps the width of an expression. -/
theorem HasWidth.pooled (wide : HasWidth r n) : HasWidth r.pooled n :=
  (haveWidth_pool (branches_ne_nil r) wide.branches).seqAll

end Pooling

end Shell.Regex
