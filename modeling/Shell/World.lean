import Shell.Clock

/-!
The world outside a shell: where random numbers and the time come from.
-/

namespace Shell

/-- What a shell asks the world. -/
inductive Query
  /-- For the next random number. -/
  | number
  /-- To start the random numbers from a seed. -/
  | seed (value : Int)
  /-- For the time. -/
  | time
deriving DecidableEq, Repr

/-- All that was asked, the last query first. -/
abbrev Queries := List Query

/-- The sources of random numbers and of the time. What they answer may depend on all that was
asked before. -/
structure Sources where
  number : Queries → Int
  time : Queries → Instant

namespace Sources

/-- Count up from the seed that was given last, or else from `start`. -/
def countFrom (start : Int) : Queries → Int
  | [] => start
  | .number :: before => countFrom start before + 1
  | .seed value :: _ => value
  | .time :: before => countFrom start before

/-- Numbers that are counted are below this one. -/
def bound : Int := 32768

/-- Numbers that count up from a seed, and a time that stands still. -/
def still (seed : Int) (time : Instant) : Sources where
  number queries := countFrom seed queries % bound
  time _ := time

end Sources

end Shell
