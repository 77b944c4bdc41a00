/-!
What running something yields, and how much may be run.
-/

namespace Shell

/-- Output and exit status of a statement, a function or a script. -/
structure Outcome where
  stdout : String := ""
  stderr : String := ""
  status : Int := 0
deriving DecidableEq, Repr

namespace Outcome

/-- Output followed by that of something that ran next, with its status. -/
def andThen (first next : Outcome) : Outcome :=
  ⟨first.stdout ++ next.stdout, first.stderr ++ next.stderr, next.status⟩

end Outcome

/-- Bounds on what a script may use. -/
structure Limits where
  /-- Calls of functions inside each other. -/
  callDepth : Int := 100
  /-- Statements in one run. -/
  commands : Int := 10000
  /-- Rounds of one loop. -/
  iterations : Int := 10000
deriving DecidableEq, Repr

end Shell
