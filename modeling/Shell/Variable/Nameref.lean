import Shell.State
import Shell.Text.Name

/-!
Namerefs: variables that stand for the variable they name.
-/

namespace Shell.State

/-- How many namerefs are followed at most. -/
def namerefDepth : Nat := 100

/-- Follow namerefs from `current` for at most `rounds` steps; `seen` were passed before. A chain
ends at a name that is no nameref or whose target is no name. -/
def follow? (state : State) : (rounds : Nat) → (seen : List String) → String → Option String
  | 0, _, _ => none
  | rounds + 1, seen, current =>
    if seen.contains current then none
    else if state.store.isNameref current then
      let target := (state.store.get? current).getD ""
      if Text.isTarget target then state.follow? rounds (current :: seen) target else some current
    else some current

/-- The name at the end of a nameref's chain; nothing if the chain loops or is too long. -/
def resolveWithin? (state : State) (depth : Nat) (name : String) : Option String :=
  if state.store.isNameref name then state.follow? depth [] name else some name

/-- The name at the end of a nameref's chain. -/
def resolve? (state : State) (name : String) : Option String :=
  state.resolveWithin? namerefDepth name

/-- The name that a reader of `name` is led to. A chain without end leads nowhere. -/
def resolved (state : State) (name : String) : String :=
  if Text.isName name.toList then (state.resolve? name).getD name else name

/-- The text that a nameref holds. -/
def namerefTarget? (state : State) (name : String) : Option String :=
  if state.store.isNameref name then state.store.get? name else none

theorem resolve?_of_not_nameref {state : State} {name : String}
    (plain : state.store.isNameref name = false) : state.resolve? name = some name := by
  simp [resolve?, resolveWithin?, plain]

theorem resolved_of_not_nameref {state : State} {name : String}
    (plain : state.store.isNameref name = false) : state.resolved name = name := by
  simp [resolved, resolve?_of_not_nameref plain]

end Shell.State
