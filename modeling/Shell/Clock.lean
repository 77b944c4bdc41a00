import Shell.Binary
import Shell.Fault

/-!
Clock readings and the time between them. A reading is a whole number of seconds, exact at any
size, or a binary number. The time between two whole readings is exact.
-/

namespace Shell

/-- A clock reading in seconds. -/
inductive Instant
  /-- A whole number. -/
  | whole (seconds : Int)
  /-- A binary number. -/
  | binary (seconds : Binary)
deriving DecidableEq, Repr

namespace Instant

/-- The reading of a clock that was never started. -/
def zero : Instant := binary (.finite 0)

/-- A reading as a binary number. A whole number may be too large for one. -/
def toBinary : Instant → Except Fault Binary
  | whole seconds =>
    match Binary.ofInt seconds with
    | .infinite _ => .error .timeOverflow
    | number => .ok number
  | binary seconds => .ok seconds

/-- The time from `base` to a reading. -/
def since (now base : Instant) : Except Fault Instant :=
  match now, base with
  | whole a, whole b => .ok (whole (a - b))
  | now, base => do
    let a ← now.toBinary
    let b ← base.toBinary
    pure (binary (a.sub b))

/-- The whole seconds, counted towards zero. -/
def seconds : Instant → Except Fault Int
  | whole seconds => .ok seconds
  | binary (.finite steps) => .ok (steps.tdiv Binary.stepsPerUnit)
  | binary (.infinite _) => .error .endlessTime
  | binary .undefined => .error .undefinedTime

end Instant

end Shell
