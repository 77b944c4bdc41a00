import Shell.Signal

/-!
The two ways in which an action can stop early.
-/

namespace Shell

/-- Why an action stopped: a fault, or a signal. -/
inductive Stop
  | fault (fault : Fault)
  | signal (signal : Signal)
deriving DecidableEq, Repr

namespace Stop

/-- The stop of an action that makes a signal to end with: the signal, or else the fault met in
making it. -/
def ofMade : Except Fault Signal → Stop
  | .ok made => .signal made
  | .error met => .fault met

@[simp]
theorem ofMade_ok (made : Signal) : ofMade (.ok made) = .signal made := rfl

@[simp]
theorem ofMade_error (met : Fault) : ofMade (.error met) = .fault met := rfl

@[simp]
theorem ofMade_eq_fault {made : Except Fault Signal} {met : Fault} :
    ofMade made = .fault met ↔ made = .error met := by
  cases made <;> simp [ofMade]

end Stop

end Shell
