import Shell.Proofs.Text.Backslash
import Shell.Regex.Parser

/-!
# Where a character set ends

A member of a character set is read from the front of a text, with at most one
character of what follows in view. So the set ends at the first closing bracket that
stands behind no backslash and is not the first member, and is the same whatever comes
after that bracket.
-/

namespace Shell.Regex

open Text

section Closers

/-- A closing bracket stands in the text, and behind no backslash. -/
def hasCloser : List Char → Bool
  | [] => false
  | ['\\'] => false
  | '\\' :: _ :: rest => hasCloser rest
  | c :: rest => c == ']' || hasCloser rest

@[simp]
theorem hasCloser_escape (c : Char) (rest : List Char) :
    hasCloser ('\\' :: c :: rest) = hasCloser rest := rfl

theorem hasCloser_cons {c : Char} (plain : c ≠ '\\') (rest : List Char) :
    hasCloser (c :: rest) = (c == ']' || hasCloser rest) := by
  rw [hasCloser]
  · intro same
    exact absurd same plain
  · intro _ _ same
    exact absurd same plain

theorem hasCloser_append {first : List Char} (closed : endsOpen first = false)
    (second : List Char) : hasCloser (first ++ second) = (hasCloser first || hasCloser second) := by
  induction first using scanInduction with
  | nil => rfl
  | lone => exact absurd closed (by decide)
  | escape c rest inductionHypothesis => exact inductionHypothesis closed
  | plain c rest backslash inductionHypothesis =>
    rw [endsOpen_cons backslash] at closed
    rw [List.cons_append, hasCloser_cons backslash, hasCloser_cons backslash,
      inductionHypothesis closed, Bool.or_assoc]

theorem hasCloser_cut {used rest : List Char} (closed : endsOpen used = false) :
    hasCloser (used ++ ']' :: rest) = true := by
  rw [hasCloser_append closed, hasCloser_cons (by decide)]
  simp

/-- The first bracket that closes something stands in one place. -/
theorem eq_of_cut {first second left right : List Char} (firstClosed : endsOpen first = false)
    (firstSealed : hasCloser first = false) (secondClosed : endsOpen second = false)
    (secondSealed : hasCloser second = false)
    (same : first ++ ']' :: left = second ++ ']' :: right) : first = second := by
  rcases List.append_eq_append_iff.mp same with ⟨more, rfl, behind⟩ | ⟨more, rfl, behind⟩
  · cases more with
    | nil => rw [List.append_nil]
    | cons c more =>
      obtain ⟨rfl, -⟩ := List.cons.inj behind
      rw [hasCloser_cut firstClosed] at secondSealed
      contradiction
  · cases more with
    | nil => rw [List.append_nil]
    | cons c more =>
      obtain ⟨rfl, -⟩ := List.cons.inj behind
      rw [hasCloser_cut secondClosed] at firstSealed
      contradiction

/-- A text of characters of one sort, to which neither the backslash nor the closing bracket
belongs, neither leaves a backslash open nor closes a set. -/
theorem unclosing_of_all {sort : Char → Bool} {text : List Char} (each : ∀ c ∈ text, sort c = true)
    (backslash : sort '\\' = false) (closing : sort ']' = false) :
    endsOpen text = false ∧ hasCloser text = false := by
  induction text with
  | nil => exact ⟨rfl, rfl⟩
  | cons c text inductionHypothesis =>
    obtain ⟨closed, sealed⟩ :=
      inductionHypothesis fun d member => each d (List.mem_cons_of_mem _ member)
    have sorted := each c List.mem_cons_self
    have plain : c ≠ '\\' := by
      rintro rfl
      rw [backslash] at sorted
      contradiction
    have open_ : c ≠ ']' := by
      rintro rfl
      rw [closing] at sorted
      contradiction
    rw [endsOpen_cons plain, hasCloser_cons plain, closed, sealed]
    exact ⟨rfl, by simpa using open_⟩

end Closers

section Members

theorem hex?_takes {count acc value : Nat} {text rest : List Char}
    (read : hex? count acc text = some (value, rest)) :
    ∃ digits, text = digits ++ rest ∧ (∀ c ∈ digits, (hexValue? c).isSome) ∧
      ∀ other, hex? count acc (digits ++ other) = some (value, other) := by
  induction count generalizing acc text with
  | zero =>
    cases read
    exact ⟨[], rfl, by simp, fun _ => rfl⟩
  | succ count inductionHypothesis =>
    cases text with
    | nil => simp [hex?] at read
    | cons c text =>
      obtain ⟨digit, valued, later⟩ := Option.bind_eq_some_iff.mp read
      obtain ⟨digits, rfl, each, same⟩ := inductionHypothesis later
      refine ⟨c :: digits, rfl, List.forall_mem_cons.mpr ⟨by simp [valued], each⟩, fun other => ?_⟩
      rw [List.cons_append, hex?, valued, Option.bind_some, same]

theorem octal_takes {count acc value : Nat} {text rest : List Char} {next : Char}
    (read : octal count acc text = (value, next :: rest)) :
    ∃ digits, text = digits ++ next :: rest ∧ (∀ c ∈ digits, (octalValue? c).isSome) ∧
      ∀ other, octal count acc (digits ++ next :: other) = (value, next :: other) := by
  induction count generalizing acc text with
  | zero =>
    cases read
    exact ⟨[], rfl, by simp, fun _ => rfl⟩
  | succ count inductionHypothesis =>
    cases text with
    | nil => simp [octal] at read
    | cons c text =>
      rw [octal] at read
      cases valued : octalValue? c with
      | none =>
        rw [valued] at read
        cases read
        refine ⟨[], rfl, by simp, fun other => ?_⟩
        rw [List.nil_append, octal, valued]
      | some digit =>
        rw [valued] at read
        obtain ⟨digits, rfl, each, same⟩ := inductionHypothesis read
        refine ⟨c :: digits, rfl, List.forall_mem_cons.mpr ⟨by simp [valued], each⟩,
          fun other => ?_⟩
        rw [List.cons_append, octal, valued]
        exact same other

theorem splitAt?_takes {mark : Char} {text before after : List Char}
    (found : splitAt? mark text = some (before, after)) (other : List Char) :
    splitAt? mark (before ++ mark :: other) = some (before, other) := by
  induction text generalizing before with
  | nil => simp [splitAt?] at found
  | cons c text inductionHypothesis =>
    rw [splitAt?] at found
    split at found
    · cases found
      simp [splitAt?]
    · rename_i different
      obtain ⟨⟨head, tail⟩, inner, same⟩ := Option.map_eq_some_iff.mp found
      cases same
      rw [List.cons_append, splitAt?, if_neg different, inductionHypothesis inner]
      rfl

theorem namedChar?_takes {value : Nat} {text rest : List Char}
    (read : namedChar? text = some (value, rest)) :
    ∃ name, text = '\x7b' :: name ++ '\x7d' :: rest ∧ (∀ c ∈ name, CharName.isSign c = true) ∧
      ∀ other, namedChar? ('\x7b' :: name ++ '\x7d' :: other) = some (value, other) := by
  unfold namedChar? at read
  split at read
  · rename_i inner
    obtain ⟨⟨name, after⟩, found, coded⟩ := Option.bind_eq_some_iff.mp read
    obtain ⟨code, known, same⟩ := Option.map_eq_some_iff.mp coded
    cases same
    refine ⟨name, by rw [splitAt?_eq_some found, List.cons_append],
      fun c => CharName.isSign_of_mem known, fun other => ?_⟩
    rw [List.cons_append, namedChar?, splitAt?_takes found, Option.bind_some]
    dsimp only
    rw [known]
    rfl
  · contradiction

/-- An escape that spells a code point in hexadecimal takes its digits. -/
theorem escape?_takes_hex {c : Char} {item : Item} {text rest : List Char}
    (read : escape? c text = some (item, rest)) (count : Nat) (convert : Nat → Option Item)
    (spelled : ∀ text, escape? c text =
      (hex? count 0 text).bind fun (value, rest) => (convert value).map fun item => (item, rest)) :
    ∃ used, text = used ++ rest ∧ (endsOpen used = false ∧ hasCloser used = false) ∧
      ∀ other, escape? c (used ++ other) = some (item, other) := by
  rw [spelled] at read
  obtain ⟨⟨value, after⟩, digits, read⟩ := Option.bind_eq_some_iff.mp read
  obtain ⟨found, converted, same⟩ := Option.map_eq_some_iff.mp read
  cases same
  obtain ⟨used, rfl, each, again⟩ := hex?_takes digits
  refine ⟨used, rfl, unclosing_of_all each (by decide) (by decide), fun other => ?_⟩
  rw [spelled, again, Option.bind_some]
  exact congrArg (Option.map _) converted

/-- What an escape in a character set takes does not depend on what follows the next character. -/
theorem escape?_takes {c next : Char} {item : Item} {text rest : List Char}
    (read : escape? c text = some (item, next :: rest)) :
    ∃ used, text = used ++ next :: rest ∧ (endsOpen used = false ∧ hasCloser used = false) ∧
      ∀ other, escape? c (used ++ next :: other) = some (item, next :: other) := by
  by_cases isX : c = 'x'
  · subst isX
    obtain ⟨used, whole, unclosing, again⟩ :=
      escape?_takes_hex read 2 (fun value => some (.code value)) fun _ => Option.map_eq_bind ..
    exact ⟨used, whole, unclosing, fun other => again _⟩
  by_cases isU : c = 'u'
  · subst isU
    obtain ⟨used, whole, unclosing, again⟩ :=
      escape?_takes_hex read 4 (fun value => some (.code value)) fun _ => Option.map_eq_bind ..
    exact ⟨used, whole, unclosing, fun other => again _⟩
  by_cases isLongU : c = 'U'
  · subst isLongU
    obtain ⟨used, whole, unclosing, again⟩ := escape?_takes_hex read 8
      (fun value => if value < 0x110000 then some (.code value) else none) fun text => by
        refine congrArg (Option.bind (hex? 8 0 text)) (funext fun taken => ?_)
        dsimp only
        split <;> rfl
    exact ⟨used, whole, unclosing, fun other => again _⟩
  by_cases isN : c = 'N'
  · subst isN
    obtain ⟨⟨value, after⟩, named, same⟩ := Option.map_eq_some_iff.mp read
    cases same
    obtain ⟨name, rfl, each, again⟩ := namedChar?_takes named
    obtain ⟨closed, sealed⟩ := unclosing_of_all each (by decide) (by decide)
    have opening : endsOpen ('\x7b' :: name) = false := by rw [endsOpen_cons (by decide), closed]
    refine ⟨'\x7b' :: name ++ ['\x7d'], by simp, ⟨?_, ?_⟩, fun other => ?_⟩
    · rw [endsOpen_append opening]
      rfl
    · rw [hasCloser_append opening, hasCloser_cons (by decide), sealed]
      rfl
    · rw [List.append_assoc]
      exact congrArg (Option.map _) (again _)
  unfold escape? at read ⊢
  cases control : controlEscapes.lookup c with
  | some value =>
    simp only [control] at read ⊢
    cases read
    exact ⟨[], rfl, ⟨rfl, rfl⟩, fun _ => rfl⟩
  | none =>
    cases kind : kindEscapes.lookup c with
    | some item =>
      simp only [control, kind] at read ⊢
      cases read
      exact ⟨[], rfl, ⟨rfl, rfl⟩, fun _ => rfl⟩
    | none =>
      simp only [control, kind, isX, isU, isLongU, isN, if_false] at read ⊢
      cases octalDigit : octalValue? c with
      | none =>
        simp only [octalDigit] at read ⊢
        split at read
        · contradiction
        · rename_i named
          cases read
          exact ⟨[], rfl, ⟨rfl, rfl⟩, fun _ => if_neg named⟩
      | some digit =>
        rcases taken : octal 2 digit text with ⟨value, after⟩
        simp only [octalDigit, taken] at read ⊢
        split at read
        · rename_i small
          cases read
          obtain ⟨used, rfl, each, again⟩ := octal_takes taken
          refine ⟨used, rfl, unclosing_of_all each (by decide) (by decide), fun other => ?_⟩
          rw [again]
          exact if_pos small
        · contradiction

/-- The character `first` and the text behind it are read as one member of a set in front of `next`,
whatever follows that. No bracket closes the set in them, unless the member begins with one. -/
structure Taken (item : Item) (first : Char) (used : List Char) (next : Option Char) : Prop where
  closed : endsOpen (first :: used) = false
  sealed : first ≠ ']' → hasCloser (first :: used) = false
  reads : ∀ other, other.head? = next → item? (first :: used ++ other) = some (item, other)

theorem item?_takes {item : Item} {text rest : List Char}
    (read : item? text = some (item, rest)) (more : rest ≠ []) :
    ∃ first used, text = first :: used ++ rest ∧ Taken item first used rest.head? := by
  obtain ⟨next, rest, rfl⟩ := List.exists_cons_of_ne_nil more
  unfold item? at read
  split at read
  · contradiction
  · contradiction
  · rename_i c text
    obtain ⟨used, rfl, ⟨closed, sealed⟩, again⟩ := escape?_takes read
    refine ⟨'\\', c :: used, rfl, closed, fun _ => sealed, fun other begins => ?_⟩
    obtain ⟨other, rfl⟩ := List.head?_eq_some_iff.mp begins
    exact again other
  · rename_i c text lone escaped
    cases read
    have plain : c ≠ '\\' := by
      rintro rfl
      exact escaped next rest rfl rfl
    refine ⟨c, [], rfl, endsOpen_cons plain [], fun open_ => ?_, fun other begins => ?_⟩
    · rw [hasCloser_cons plain]
      simpa [hasCloser] using open_
    · obtain ⟨other, rfl⟩ := List.head?_eq_some_iff.mp begins
      simp [item?, plain]

end Members

section Steps

variable {fuel : Nat} {items : List Item} {low : Item} {text more : List Char}

theorem items?_eq_of_last (unclosed : closes items text = false)
    (read : item? text = some (low, '-' :: ']' :: more)) :
    items? (fuel + 1) items text = some (items ++ [low, .code 45], more) := by
  simp [items?, unclosed, read]

theorem items?_eq_of_range (unclosed : closes items text = false)
    (read : item? text = some (low, '-' :: more)) (inner : more.head? ≠ some ']') :
    items? (fuel + 1) items text = (item? more).bind fun (high, rest) =>
      (range? low high).bind fun range => items? fuel (items ++ [range]) rest := by
  simp only [items?, unclosed, read, Bool.false_eq_true, if_false]
  split
  · simp_all
  · simp_all
  · simp_all
  · rename_i hyphenless same
    cases same
    exact absurd rfl (hyphenless more)

theorem items?_eq_of_item (unclosed : closes items text = false)
    (read : item? text = some (low, more)) (single : more.head? ≠ some '-') :
    items? (fuel + 1) items text = items? fuel (items ++ [low]) more := by
  simp only [items?, unclosed, read, Bool.false_eq_true, if_false]
  split <;> simp_all

end Steps

/-- What comes first before a closing bracket does not depend on what follows the bracket. -/
theorem head?_before_bracket (text rest : List Char) :
    (text ++ ']' :: rest).head? = (text ++ [']']).head? := by
  cases text <;> rfl

/-- A text that is read as the rest of a set after some members, up to the closing bracket behind it
and whatever follows that one. No bracket closes the set before, unless it is the first member. -/
structure TakenAll (items found : List Item) (used : List Char) : Prop where
  closed : endsOpen used = false
  sealed : items ≠ [] ∨ used.head? ≠ some ']' → hasCloser used = false
  reads : ∀ other limit, used.length < limit →
    items? limit items (used ++ ']' :: other) = some (found, other)

namespace TakenAll

variable {items found : List Item} {low : Item} {first : Char} {used later : List Char}

theorem nil (begun : found ≠ []) : TakenAll found found [] where
  closed := rfl
  sealed _ := rfl
  reads other limit enough := by
    obtain ⟨limit, rfl⟩ := Nat.exists_eq_add_one.mpr enough
    have closing : closes found (']' :: other) = true := by simp [closes, begun]
    rw [List.nil_append, items?, if_pos closing]
    rfl

variable (inside : items ≠ [] → first ≠ ']')

include inside

theorem closes_eq_false (rest : List Char) : closes items (first :: used ++ rest) = false := by
  by_cases begun : items = []
  · simp [closes, begun]
  · simp [closes, inside begun]

theorem ordinary_first (ordinary : items ≠ [] ∨ (first :: used).head? ≠ some ']') :
    first ≠ ']' :=
  ordinary.elim inside fun different same => different (congrArg some same)

/-- A hyphen before the closing bracket. -/
theorem last (taken : Taken low first used (some '-')) :
    TakenAll items (items ++ [low, .code 45]) (first :: used ++ ['-']) where
  closed := endsOpen_append_of_plain (by decide) (first :: used) []
  sealed ordinary := by
    rw [hasCloser_append taken.closed, taken.sealed (ordinary_first inside ordinary)]
    rfl
  reads other limit enough := by
    obtain ⟨limit, rfl⟩ := Nat.exists_eq_add_one.mpr (Nat.zero_lt_of_lt enough)
    rw [List.append_assoc]
    exact items?_eq_of_last (closes_eq_false inside _) (taken.reads _ rfl)

/-- A range, and the rest of the set after it. -/
theorem range {high range : Item} {second : Char} {highUsed : List Char}
    (taken : Taken low first used (some '-'))
    (takenHigh : Taken high second highUsed (later ++ [']']).head?) (inner : second ≠ ']')
    (ranged : range? low high = some range) (rest : TakenAll (items ++ [range]) found later) :
    TakenAll items found (first :: used ++ '-' :: (second :: highUsed ++ later)) where
  closed := by
    rw [endsOpen_append_of_plain (by decide), endsOpen_append takenHigh.closed, rest.closed]
  sealed ordinary := by
    rw [hasCloser_append taken.closed, taken.sealed (ordinary_first inside ordinary),
      hasCloser_cons (by decide), hasCloser_append takenHigh.closed, takenHigh.sealed inner,
      rest.sealed (.inl (by simp))]
    rfl
  reads other limit enough := by
    obtain ⟨limit, rfl⟩ := Nat.exists_eq_add_one.mpr (Nat.zero_lt_of_lt enough)
    have readHigh := takenHigh.reads _ (head?_before_bracket later other)
    have stillInner : (second :: highUsed ++ (later ++ ']' :: other)).head? ≠ some ']' :=
      fun same => inner (Option.some.inj same)
    rw [List.append_assoc]
    change
      items? _ items (first :: used ++ '-' :: (second :: highUsed ++ later ++ ']' :: other)) = _
    rw [List.append_assoc (second :: highUsed),
      items?_eq_of_range (closes_eq_false inside _) (taken.reads _ rfl) stillInner, readHigh,
      Option.bind_some]
    dsimp only
    rw [ranged, Option.bind_some]
    refine rest.reads other limit ?_
    simp only [List.length_append, List.length_cons] at enough
    omega

/-- One member, and the rest of the set after it. -/
theorem cons (taken : Taken low first used (later ++ [']']).head?)
    (single : later.head? ≠ some '-') (rest : TakenAll (items ++ [low]) found later) :
    TakenAll items found (first :: used ++ later) where
  closed := by rw [endsOpen_append taken.closed, rest.closed]
  sealed ordinary := by
    rw [hasCloser_append taken.closed, taken.sealed (ordinary_first inside ordinary),
      rest.sealed (.inl (by simp))]
    rfl
  reads other limit enough := by
    obtain ⟨limit, rfl⟩ := Nat.exists_eq_add_one.mpr (Nat.zero_lt_of_lt enough)
    have stillSingle : (later ++ ']' :: other).head? ≠ some '-' := by
      cases later with
      | nil => simp
      | cons => exact single
    rw [List.append_assoc, items?_eq_of_item (closes_eq_false inside _)
      (taken.reads _ (head?_before_bracket later other)) stillSingle]
    refine rest.reads other limit ?_
    simp only [List.length_append, List.length_cons] at enough
    omega

end TakenAll

/-- The set ends at a closing bracket behind no backslash, and is the same whatever follows it. -/
theorem items?_takes {fuel : Nat} {items found : List Item} {text rest : List Char}
    (read : items? fuel items text = some (found, rest)) :
    ∃ used, text = used ++ ']' :: rest ∧ TakenAll items found used := by
  induction fuel generalizing items text with
  | zero => contradiction
  | succ fuel inductionHypothesis =>
    cases unclosed : closes items text with
    | true =>
      rw [items?, if_pos unclosed] at read
      cases read
      obtain ⟨begun, closing⟩ : found ≠ [] ∧ text.head? = some ']' := by
        simpa [closes] using unclosed
      obtain ⟨tail, rfl⟩ := List.head?_eq_some_iff.mp closing
      exact ⟨[], rfl, .nil begun⟩
    | false =>
      cases taken : item? text with
      | none => simp [items?, unclosed, taken] at read
      | some step =>
        obtain ⟨low, more⟩ := step
        have inside : ∀ {first : Char} {behind : List Char}, text = first :: behind →
            items ≠ [] → first ≠ ']' := by
          rintro first behind rfl begun
          simpa [closes, begun] using unclosed
        by_cases hyphen : more.head? = some '-'
        · obtain ⟨more, rfl⟩ := List.head?_eq_some_iff.mp hyphen
          obtain ⟨first, used, whole, lowTaken⟩ := item?_takes taken (by simp)
          by_cases last : more.head? = some ']'
          · obtain ⟨more, rfl⟩ := List.head?_eq_some_iff.mp last
            rw [items?_eq_of_last unclosed taken] at read
            cases read
            exact ⟨first :: used ++ ['-'], by simp [whole], .last (inside whole) lowTaken⟩
          · rw [items?_eq_of_range unclosed taken last] at read
            obtain ⟨⟨high, after⟩, takenHigh, read⟩ := Option.bind_eq_some_iff.mp read
            obtain ⟨range, ranged, read⟩ := Option.bind_eq_some_iff.mp read
            obtain ⟨later, rfl, others⟩ := inductionHypothesis read
            obtain ⟨second, highUsed, rfl, highTaken⟩ := item?_takes takenHigh (by simp)
            rw [head?_before_bracket] at highTaken
            have inner : second ≠ ']' := fun same => last (congrArg some same)
            exact ⟨_, by simp [whole],
              .range (inside whole) lowTaken highTaken inner ranged others⟩
        · rw [items?_eq_of_item unclosed taken hyphen] at read
          obtain ⟨later, rfl, others⟩ := inductionHypothesis read
          obtain ⟨first, used, whole, lowTaken⟩ := item?_takes taken (by simp)
          rw [head?_before_bracket] at lowTaken
          have single : later.head? ≠ some '-' := by
            cases later with
            | nil => simp
            | cons => exact hyphen
          exact ⟨_, by simp [whole], .cons (inside whole) lowTaken single others⟩

/-- The first thing in a set, behind the mark of its complement, is a closing bracket. -/
def BeginsClosed (text : List Char) : Prop :=
  text.head? = some ']' ∨ ∃ rest, text = '^' :: ']' :: rest

theorem bracket?_unmarked {text : List Char} (unmarked : text.head? ≠ some '^') : bracket? text =
    (items? (text.length + 1) [] text).map fun part =>
      (ofItems false part.1.eraseDups, part.2) := by
  have plain : (text.head? == some '^') = false := by simpa using unmarked
  simp [bracket?, plain]

theorem bracket?_marked (text : List Char) : bracket? ('^' :: text) =
    (items? (text.length + 1) [] text).map fun part =>
      (ofItems true part.1.eraseDups, part.2) := rfl

theorem bracket?_takes {r : Regex} {text rest : List Char} (read : bracket? text = some (r, rest)) :
    ∃ used, text = used ++ ']' :: rest ∧ endsOpen used = false ∧
      (¬ BeginsClosed text → hasCloser used = false) ∧
      (∃ negated items, r = ofItems negated items) ∧
      ∀ other, bracket? (used ++ ']' :: other) = some (r, other) := by
  have enough : ∀ used other : List Char, used.length < (used ++ ']' :: other).length + 1 := by
    intro used other
    rw [List.length_append]
    omega
  by_cases marked : text.head? = some '^'
  · obtain ⟨body, rfl⟩ := List.head?_eq_some_iff.mp marked
    rw [bracket?_marked] at read
    obtain ⟨⟨items, after⟩, members, same⟩ := Option.map_eq_some_iff.mp read
    cases same
    obtain ⟨used, rfl, taken⟩ := items?_takes members
    refine ⟨'^' :: used, rfl, ?_, fun ordinary => ?_, ⟨_, _, rfl⟩, fun other => ?_⟩
    · rw [endsOpen_cons (by decide), taken.closed]
    · rw [hasCloser_cons (by decide), taken.sealed (.inr fun closing => ordinary (.inr ?_))]
      · rfl
      · obtain ⟨rest, rfl⟩ := List.head?_eq_some_iff.mp closing
        exact ⟨_, rfl⟩
    · rw [List.cons_append, bracket?_marked, taken.reads other _ (enough used other)]
      rfl
  · rw [bracket?_unmarked marked] at read
    obtain ⟨⟨items, after⟩, members, same⟩ := Option.map_eq_some_iff.mp read
    cases same
    obtain ⟨used, rfl, taken⟩ := items?_takes members
    refine ⟨used, rfl, taken.closed, fun ordinary => taken.sealed (.inr fun closing =>
      ordinary (.inl ?_)), ⟨_, _, rfl⟩, fun other => ?_⟩
    · obtain ⟨rest, rfl⟩ := List.head?_eq_some_iff.mp closing
      rfl
    · have unmarked : (used ++ ']' :: other).head? ≠ some '^' := by
        rwa [head?_before_bracket, ← head?_before_bracket]
      rw [bracket?_unmarked unmarked, taken.reads other _ (enough used other)]
      rfl

/-- Members that close nothing are read up to the bracket behind them, whatever follows it, or
cannot be read at all. A caret alone is no member but a mark. -/
theorem bracket?_members_or_none {members : List Char} (closed : endsOpen members = false)
    (sealed : hasCloser members = false) (nonempty : members ≠ []) (marked : members ≠ ['^']) :
    (∃ negated items, ∀ tail,
      bracket? (members ++ ']' :: tail) = some (ofItems negated items, tail)) ∨
      ∀ tail, bracket? (members ++ ']' :: tail) = none := by
  by_cases readable : ∃ tail part, bracket? (members ++ ']' :: tail) = some part
  · obtain ⟨tail, ⟨r, rest⟩, read⟩ := readable
    obtain ⟨used, whole, usedClosed, usedSealed, ⟨negated, items, rfl⟩, again⟩ :=
      bracket?_takes read
    have ordinary : ¬ BeginsClosed (members ++ ']' :: tail) := by
      rintro (closing | ⟨rest, same⟩)
      · cases members with
        | nil => exact nonempty rfl
        | cons c members =>
          obtain rfl : c = ']' := by simpa using closing
          simp [hasCloser] at sealed
      · cases members with
        | nil => exact nonempty rfl
        | cons c members =>
          obtain ⟨rfl, behind⟩ := List.cons.inj same
          cases members with
          | nil => exact marked rfl
          | cons d members =>
            obtain ⟨rfl, -⟩ := List.cons.inj behind
            simp [hasCloser] at sealed
    obtain rfl := eq_of_cut closed sealed usedClosed (usedSealed ordinary) whole
    exact .inl ⟨negated, items, again⟩
  · refine .inr fun tail => ?_
    rw [Option.eq_none_iff_forall_ne_some]
    exact fun part read => readable ⟨tail, part, read⟩

/-- A set in front of a text without closing brackets ends before that text, and is the same
whatever follows its closing bracket. -/
theorem bracket?_append {r : Regex} {text tail rest : List Char} (closed : endsOpen text = false)
    (sealed : hasCloser tail = false) (read : bracket? (text ++ tail) = some (r, rest)) :
    ∃ used left, text = used ++ ']' :: left ∧ endsOpen used = false ∧
      (∃ negated items, r = ofItems negated items) ∧
      ∀ other, bracket? (used ++ ']' :: other) = some (r, other) := by
  obtain ⟨used, whole, usedClosed, -, set, again⟩ := bracket?_takes read
  rcases List.append_eq_append_iff.mp whole with ⟨more, rfl, same⟩ | ⟨left, rfl, same⟩
  · have open_ : hasCloser tail = true := by
      rw [endsOpen_append closed] at usedClosed
      rw [same, hasCloser_cut usedClosed]
    rw [sealed] at open_
    contradiction
  · cases left with
    | nil =>
      rw [List.nil_append] at same
      rw [← same, hasCloser_cons (by decide)] at sealed
      contradiction
    | cons c left =>
      obtain ⟨rfl, rfl⟩ := List.cons.inj same
      exact ⟨used, left, rfl, usedClosed, set, again⟩

end Shell.Regex
