import Shell.Proofs.Regex.Sets

/-!
# Well-formed character sets

What may stand between the brackets of a character set: single members and ranges between two code
points in order, where a hyphen makes a range unless it comes last, and a closing bracket is a
member only if it comes first. The reader accepts these texts and no others.
-/

namespace Shell.Regex

open Text (endsOpen endsOpen_append)

/-- Members of a set and the bracket that closes it. `first` says that nothing stands in front of
them, so that a closing bracket is a member. -/
inductive Members : (first : Bool) → List Char → Prop
  | done : Members false [']']
  | one {first : Bool} {text rest : List Char} {item : Item}
      (inside : first = true ∨ text.head? ≠ some ']') (reads : item? text = some (item, rest))
      (apart : rest.head? ≠ some '-') (others : Members false rest) : Members first text
  | range {first : Bool} {text more rest : List Char} {low high : Nat}
      (inside : first = true ∨ text.head? ≠ some ']')
      (reads : item? text = some (.code low, '-' :: more)) (inner : more.head? ≠ some ']')
      (readsHigh : item? more = some (.code high, rest)) (ascending : low ≤ high)
      (others : Members false rest) : Members first text
  | hyphen {first : Bool} {text : List Char} {item : Item}
      (inside : first = true ∨ text.head? ≠ some ']')
      (reads : item? text = some (item, ['-', ']'])) : Members first text

/-- What stands between the brackets of a set. A caret in front marks the complement. -/
inductive IsSet : List Char → Prop
  | plain {text : List Char} (unmarked : text.head? ≠ some '^')
      (members : Members true (text ++ [']'])) : IsSet text
  | complement {text : List Char} (members : Members true (text ++ [']'])) : IsSet ('^' :: text)

section Reading

variable {fuel limit : Nat} {items found : List Item} {text rest : List Char}

theorem closes_eq_false_iff :
    closes items text = false ↔ items.isEmpty = true ∨ text.head? ≠ some ']' := by
  rw [closes, Bool.and_eq_false_iff, Bool.not_eq_false', beq_eq_false_iff_ne]

theorem exists_of_range? {low high range : Item} (ranged : range? low high = some range) :
    ∃ lowCode highCode, low = .code lowCode ∧ high = .code highCode ∧ lowCode ≤ highCode := by
  unfold range? at ranged
  split at ranged
  · split at ranged
    · rename_i ascending
      exact ⟨_, _, rfl, rfl, ascending⟩
    · contradiction
  · contradiction

/-- How many members may be read does not matter if they are as many as the text has characters. -/
theorem items?_fuel (enough : text.length ≤ fuel) (enoughToo : text.length ≤ limit) :
    items? fuel items text = items? limit items text := by
  have again : ∀ {fuel limit part}, text.length ≤ limit → items? fuel items text = some part →
      items? limit items text = some part := by
    rintro fuel limit ⟨found, rest⟩ enough read
    obtain ⟨used, rfl, taken⟩ := items?_takes read
    refine taken.reads rest limit ?_
    rw [List.length_append, List.length_cons] at enough
    omega
  cases read : items? fuel items text with
  | some part => exact (again enoughToo read).symm
  | none =>
    cases readToo : items? limit items text with
    | none => rfl
    | some part =>
      rw [again enough readToo] at read
      contradiction

theorem Members.exists_items? {first : Bool} (members : Members first text)
    (begun : first = items.isEmpty) :
    ∃ fuel found, items? fuel items text = some (found, []) := by
  induction members generalizing items with
  | done =>
    have closed : closes items [']'] = true := by simp [closes, ← begun]
    exact ⟨1, items, by rw [items?, if_pos closed]; rfl⟩
  | one inside reads apart others inductionHypothesis =>
    have unclosed := closes_eq_false_iff.mpr (begun ▸ inside)
    obtain ⟨fuel, found, read⟩ := @inductionHypothesis (items ++ [_]) (by simp)
    exact ⟨fuel + 1, found, (items?_eq_of_item unclosed reads apart).trans read⟩
  | @range first text more rest low high inside reads inner readsHigh ascending others
      inductionHypothesis =>
    have unclosed := closes_eq_false_iff.mpr (begun ▸ inside)
    have ranged : range? (.code low) (.code high) = some (.range low high) := if_pos ascending
    obtain ⟨fuel, found, read⟩ := @inductionHypothesis (items ++ [.range low high]) (by simp)
    refine ⟨fuel + 1, found, ?_⟩
    rw [items?_eq_of_range unclosed reads inner, readsHigh, Option.bind_some]
    dsimp only
    rw [ranged, Option.bind_some, read]
  | hyphen inside reads =>
    have unclosed := closes_eq_false_iff.mpr (begun ▸ inside)
    exact ⟨1, _, items?_eq_of_last unclosed reads⟩

theorem members_of_items? (read : items? fuel items text = some (found, [])) :
    Members items.isEmpty text := by
  induction fuel generalizing items text with
  | zero => contradiction
  | succ fuel inductionHypothesis =>
    cases unclosed : closes items text with
    | true =>
      rw [items?, if_pos unclosed] at read
      obtain ⟨-, tail⟩ := Prod.mk.inj (Option.some.inj read)
      simp only [closes, Bool.and_eq_true, Bool.not_eq_true', beq_iff_eq] at unclosed
      obtain ⟨rest, rfl⟩ := List.head?_eq_some_iff.mp unclosed.2
      obtain rfl : rest = [] := tail
      rw [unclosed.1]
      exact .done
    | false =>
      have inside := closes_eq_false_iff.mp unclosed
      have later : ∀ {item : Item} {rest}, items? fuel (items ++ [item]) rest = some (found, []) →
          Members false rest := by
        intro item rest read
        have begun : (items ++ [item]).isEmpty = false := by simp
        rw [← begun]
        exact inductionHypothesis read
      cases taken : item? text with
      | none => simp [items?, unclosed, taken] at read
      | some step =>
        obtain ⟨low, more⟩ := step
        by_cases hyphen : more.head? = some '-'
        · obtain ⟨more, rfl⟩ := List.head?_eq_some_iff.mp hyphen
          by_cases last : more.head? = some ']'
          · obtain ⟨more, rfl⟩ := List.head?_eq_some_iff.mp last
            rw [items?_eq_of_last unclosed taken] at read
            obtain ⟨-, rfl⟩ := Prod.mk.inj (Option.some.inj read)
            exact .hyphen inside taken
          · rw [items?_eq_of_range unclosed taken last] at read
            obtain ⟨⟨high, rest⟩, takenHigh, read⟩ := Option.bind_eq_some_iff.mp read
            obtain ⟨range, ranged, others⟩ := Option.bind_eq_some_iff.mp read
            obtain ⟨lowCode, highCode, rfl, rfl, ascending⟩ := exists_of_range? ranged
            exact .range inside taken last takenHigh ascending (later others)
        · rw [items?_eq_of_item unclosed taken hyphen] at read
          exact .one inside taken hyphen (later read)

/-- Members are read up to the bracket that closes the set. -/
theorem members_iff : Members true (text ++ [']']) ↔
    ∃ found, items? ((text ++ [']']).length + 1) [] (text ++ [']']) = some (found, []) := by
  constructor
  · intro members
    obtain ⟨fuel, found, read⟩ := @Members.exists_items? [] _ _ members rfl
    obtain ⟨used, whole, taken⟩ := items?_takes read
    obtain rfl := List.append_cancel_right whole
    refine ⟨found, taken.reads [] _ ?_⟩
    rw [List.length_append]
    omega
  · rintro ⟨found, read⟩
    exact members_of_items? read

/-- The well-formed sets are those that are read up to their closing bracket. -/
theorem isSet_iff : IsSet text ↔ ∃ r, bracket? (text ++ [']']) = some (r, []) := by
  have mapped : ∀ {negated : Bool} {body : List Char},
      (∃ r, (items? (body.length + 1) [] body).map (fun part =>
        (ofItems negated part.1.eraseDups, part.2)) = some (r, [])) ↔
      ∃ found, items? (body.length + 1) [] body = some (found, []) := by
    intro negated body
    constructor
    · rintro ⟨r, read⟩
      obtain ⟨⟨found, rest⟩, read, same⟩ := Option.map_eq_some_iff.mp read
      obtain ⟨-, rfl⟩ := Prod.mk.inj same
      exact ⟨found, read⟩
    · rintro ⟨found, read⟩
      exact ⟨_, by rw [read]; rfl⟩
  by_cases marked : text.head? = some '^'
  · obtain ⟨body, rfl⟩ := List.head?_eq_some_iff.mp marked
    rw [List.cons_append, bracket?_marked, mapped, ← members_iff]
    constructor
    · intro isSet
      cases isSet with
      | plain unmarked members => exact absurd marked unmarked
      | complement members => exact members
    · exact .complement
  · have unmarked : (text ++ [']']).head? ≠ some '^' := by
      cases text with
      | nil => decide
      | cons => exact marked
    rw [bracket?_unmarked unmarked, mapped, ← members_iff]
    constructor
    · intro isSet
      cases isSet with
      | plain unmarked members => exact members
      | complement members => exact absurd rfl marked
    · exact .plain marked

instance (text : List Char) : Decidable (IsSet text) :=
  have same : (bracket? (text ++ [']'])).any (·.2.isEmpty) = true ↔ IsSet text := by
    rw [isSet_iff]
    cases bracket? (text ++ [']']) with
    | none => simp
    | some part => simp [Prod.ext_iff]
  decidable_of_iff _ same

/-- A well-formed set is read up to its closing bracket, whatever follows it. -/
theorem IsSet.bracket? (isSet : IsSet text) : ∃ negated items, ∀ tail,
    bracket? (text ++ ']' :: tail) = some (ofItems negated items, tail) := by
  obtain ⟨r, read⟩ := isSet_iff.mp isSet
  obtain ⟨used, whole, -, -, ⟨negated, items, rfl⟩, again⟩ := bracket?_takes read
  obtain rfl := List.append_cancel_right whole
  exact ⟨negated, items, again⟩

/-- A text that is no set cannot be read in front of its closing bracket. -/
theorem bracket?_of_not_isSet (closed : endsOpen text = false) (sealed : hasCloser text = false)
    (nonempty : text ≠ []) (marked : text ≠ ['^']) (malformed : ¬ IsSet text) (tail : List Char) :
    bracket? (text ++ ']' :: tail) = none := by
  rcases bracket?_members_or_none closed sealed nonempty marked with ⟨negated, items, reads⟩ | none
  · exact absurd (isSet_iff.mpr ⟨_, reads []⟩) malformed
  · exact none tail

/-- A closing bracket right behind the mark is a member, as it is behind a backslash. -/
theorem bracket?_closing (rest : List Char) :
    bracket? ('^' :: ']' :: rest) = bracket? ('^' :: '\\' :: ']' :: rest) := by
  have same : ∀ fuel, items? fuel [] (']' :: rest) = items? fuel [] ('\\' :: ']' :: rest) := by
    intro fuel
    cases fuel <;> rfl
  have more : items? ((']' :: rest).length + 1) [] (']' :: rest) =
      items? (('\\' :: ']' :: rest).length + 1) [] (']' :: rest) :=
    items?_fuel (by simp) (by simp)
  rw [bracket?_marked, bracket?_marked, more, same]

/-- The same for members behind a closing bracket that comes first. -/
theorem bracket?_of_not_isSet_closing (closed : endsOpen text = false)
    (sealed : hasCloser text = false) (malformed : ¬ IsSet ('^' :: ']' :: text))
    (tail : List Char) : bracket? ('^' :: ']' :: (text ++ ']' :: tail)) = none := by
  have escaped : ¬ IsSet ('^' :: '\\' :: ']' :: text) := by
    have same := bracket?_closing (text ++ [']'])
    rw [isSet_iff] at malformed ⊢
    exact same ▸ malformed
  have stillClosed : endsOpen ('^' :: '\\' :: ']' :: text) = false := closed
  have stillSealed : hasCloser ('^' :: '\\' :: ']' :: text) = false := sealed
  rw [bracket?_closing]
  exact bracket?_of_not_isSet stillClosed stillSealed (by simp) (by simp) escaped tail

/-- A set that nothing closes cannot be read. -/
theorem bracket?_of_unclosed (sealed : hasCloser text = false) : bracket? text = none := by
  rw [Option.eq_none_iff_forall_ne_some]
  rintro ⟨r, rest⟩ read
  obtain ⟨used, rfl, closed, -⟩ := bracket?_takes read
  rw [hasCloser_cut closed] at sealed
  contradiction

end Reading

end Shell.Regex
