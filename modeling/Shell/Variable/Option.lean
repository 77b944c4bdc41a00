import Shell.Variable.Write

/-!
Turning options on and off. Each change is also written into the two variables that list the
options.
-/

namespace Shell.State

/-- An option of `set` is on. -/
def option (state : State) (name : String) : Except Fault Bool :=
  if Options.permanentNames.contains name then .ok true
  else match Toggle.ofName? name with
    | some toggle => .ok (state.options.get toggle)
    | none => if Options.inertNames.contains name then .ok false else .error (.unknownOption name)

/-- Write the listings of options into their variables. -/
def syncListings (state : State) : State :=
  { state with
    store := (state.store.put "SHELLOPTS" state.optionListing).put "BASHOPTS" state.shoptListing }

/-- Turn an option of `set` on or off. -/
def setOption (name : String) (on : Bool) : Write Unit := do
  match Toggle.ofName? name with
  | some toggle => modify fun state => { state with options := state.options.put toggle on }
  | none => if !Options.isKnown name then throw (.unknownOption name)
  modify syncListings

/-- Turn an option of `set` on or off by its letter. -/
def setFlag (flag : String) (on : Bool) : Write Unit := do
  match Toggle.ofFlag? flag with
  | some toggle => setOption toggle.name on
  | none => if !Options.isInertFlag flag then throw (.unknownFlag flag)

/-- An option of `shopt` is on. -/
def shopt (state : State) (name : String) : Bool := Shopt.get state.shopts name

/-- Turn an option of `shopt` on or off. -/
def setShopt (name : String) (on : Bool) : Write Unit := do
  if !Shopt.isKnown name then throw (.unknownShopt name)
  modify fun state => { state with shopts := state.shopts.insert name on }
  modify syncListings

end Shell.State
