/-!
Ascending lists of offsets into a text: their union, and the offsets that steps forward lead to.
-/

namespace Shell.Regex.Offsets

/-- Add an offset and those after it, `left`, to an ascending list. `unionRest` adds those after
it. -/
def addFrom (i : Nat) (left : List Nat) (unionRest : List Nat → List Nat) : List Nat → List Nat
  | [] => i :: left
  | j :: right =>
    if i < j then i :: unionRest (j :: right)
    else if j < i then j :: addFrom i left unionRest right
    else i :: unionRest right

/-- All offsets of two ascending lists, in order and each once. -/
def union : List Nat → List Nat → List Nat
  | [], right => right
  | i :: left, right => addFrom i left (union left) right

/-- The offsets of an ascending list, and all that `step` leads to from there, in order. Only steps
forward count, so `fuel` has to be the number of offsets that a text has. -/
def reach (step : Nat → List Nat) : (fuel : Nat) → List Nat → List Nat
  | 0, pending => pending
  | _ + 1, [] => []
  | fuel + 1, i :: pending => i :: reach step fuel (union pending ((step i).filter (i < ·)))

theorem mem_addFrom {i k : Nat} {left right : List Nat} {unionRest : List Nat → List Nat}
    (rest : ∀ others, k ∈ unionRest others ↔ k ∈ left ∨ k ∈ others) :
    k ∈ addFrom i left unionRest right ↔ k ∈ i :: left ∨ k ∈ right := by
  induction right with
  | nil => simp [addFrom]
  | cons j right inductionHypothesis =>
    unfold addFrom
    split
    · simp [rest, or_assoc]
    · split
      · simp only [List.mem_cons, inductionHypothesis]
        grind
      · have same : i = j := by omega
        subst same
        simp only [List.mem_cons, rest]
        grind

@[simp]
theorem mem_union {k : Nat} {left right : List Nat} :
    k ∈ union left right ↔ k ∈ left ∨ k ∈ right := by
  induction left generalizing right with
  | nil => simp [union]
  | cons i left inductionHypothesis => exact mem_addFrom fun others => inductionHypothesis

end Shell.Regex.Offsets
