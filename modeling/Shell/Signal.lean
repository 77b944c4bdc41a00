import Shell.Fault

/-!
Signals: the ways in which running statements ends before its end. A signal carries the output of
everything it has left behind.
-/

namespace Shell

/-- Why running statements ends. -/
inductive Cause
  /-- `break`, out of a number of loops. -/
  | leaveLoop (levels : Int)
  /-- `continue`, at the loop of a number. -/
  | nextRound (levels : Int)
  /-- `return` from a function. -/
  | leaveFunction (status : Int)
  /-- A command failed while failures are fatal. -/
  | commandFailed (status : Int)
  /-- An unset variable was used while that is an error. -/
  | unbound (name : String)
  /-- `exit` from the shell. -/
  | exit (status : Int)
  /-- Arithmetic could not be evaluated. -/
  | arithmetic (message : String) (fatal : Bool)
  /-- An expansion is malformed. -/
  | badSubstitution (message : String)
  /-- A pattern matched no path while that is an error. -/
  | noMatch (pattern : String)
  /-- A brace expansion is too large. -/
  | braceExpansion (message : String)
  /-- A limit of some kind was reached. -/
  | limit (message kind : String)
  /-- A loop statement in a subshell that a loop started. -/
  | leaveSubshell
  /-- An error of a special builtin that is fatal under strict conformance. -/
  | posixFatal (status : Int)
  /-- Any other reason. -/
  | other (message : String)
deriving DecidableEq, Repr

namespace Cause

/-- The text of a cause. A status may have too many digits. -/
def message : Cause → Except Fault String
  | leaveLoop _ => .ok "break"
  | nextRound _ => .ok "continue"
  | leaveFunction _ => .ok "return"
  | commandFailed status => ("errexit: command exited with status " ++ ·) <$> spell status
  | unbound name => .ok ("bash: " ++ name ++ ": unbound variable\n")
  | exit status => ("exit " ++ ·) <$> spell status
  | arithmetic message _ => .ok message
  | badSubstitution message => .ok message
  | noMatch pattern => .ok ("no match: " ++ pattern)
  | braceExpansion message => .ok message
  | limit message _ => .ok message
  | leaveSubshell => .ok "subshell exit"
  | posixFatal status => ("posix fatal: " ++ ·) <$> spell status
  | other message => .ok message

/-- What a cause reports if nothing else is reported with it. -/
def report : Cause → String
  | unbound name => "bash: " ++ name ++ ": unbound variable\n"
  | arithmetic message _ => "bash: " ++ message ++ "\n"
  | badSubstitution message => "bash: " ++ message ++ ": bad substitution\n"
  | noMatch pattern => "bash: no match: " ++ pattern ++ "\n"
  | braceExpansion message => "bash: " ++ message ++ "\n"
  | limit message _ => "bash: " ++ message ++ "\n"
  | _ => ""

/-- The status of a script that reached a limit. -/
def limitStatus : Int := 126

/-- The exit status that belongs to a cause, if one does. -/
def status? : Cause → Option Int
  | leaveFunction status | commandFailed status | exit status | posixFatal status => some status
  | arithmetic _ _ | badSubstitution _ | noMatch _ | braceExpansion _ => some 1
  | limit _ _ => some limitStatus
  | leaveSubshell => some 0
  | leaveLoop _ | nextRound _ | unbound _ | other _ => none

/-- The exit status of a script that a cause ends. -/
def status (cause : Cause) : Int := cause.status?.getD 1

/-- The nearest loop or function deals with it. -/
def leavesScope : Cause → Bool
  | leaveLoop _ | nextRound _ | leaveFunction _ => true
  | _ => false

end Cause

/-- A cause on its way up, with the output it carries. -/
structure Signal where
  cause : Cause
  stdout : String
  stderr : String
deriving DecidableEq, Repr

namespace Signal

/-- The signal of a cause. What the cause reports takes the place of an empty report. -/
def ofCause (cause : Cause) (stdout stderr : String) : Signal :=
  ⟨cause, stdout, if stderr.isEmpty then cause.report else stderr⟩

/-- Make a signal, which has the text of its cause. -/
def make (cause : Cause) (stdout stderr : String) : Except Fault Signal :=
  (fun _ => ofCause cause stdout stderr) <$> cause.message

/-- Make the signal of a limit. Its message names the bound, which may have too many digits. -/
def ofLimit (kind : String) (message : String → String) (bound : Int) : Except Fault Signal := do
  let bound ← spell bound
  make (.limit (message bound) kind) "" ""

/-- Put output in front that came before the signal. -/
def after (signal : Signal) (stdout stderr : String) : Signal :=
  { signal with stdout := stdout ++ signal.stdout, stderr := stderr ++ signal.stderr }

/-- The signal goes on to the top. -/
def terminates (signal : Signal) : Bool := !signal.cause.leavesScope

theorem map_eq_error_iff {α β : Type} {change : α → β} {result : Except Fault α} {fault : Fault} :
    change <$> result = .error fault ↔ result = .error fault := by
  cases result <;> simp [Functor.map, Except.map]

/-- A cause whose text can be made has its signal. -/
theorem make_of_message {cause : Cause} {text : String} (made : cause.message = .ok text)
    (stdout stderr : String) : make cause stdout stderr = .ok (ofCause cause stdout stderr) := by
  rw [make, made]
  rfl

theorem make_eq_error_iff {cause : Cause} {stdout stderr : String} {fault : Fault} :
    make cause stdout stderr = .error fault ↔ cause.message = .error fault := map_eq_error_iff

theorem cause_of_make {cause : Cause} {stdout stderr : String} {signal : Signal}
    (made : make cause stdout stderr = .ok signal) : signal.cause = cause := by
  cases text : cause.message with
  | error fault => exact nomatch (make_eq_error_iff.mpr text).symm.trans made
  | ok text =>
    rw [make_of_message text] at made
    cases made
    rfl

theorem ofLimit_of_spell {kind text : String} {message : String → String} {bound : Int}
    (spelled : spell bound = .ok text) :
    ofLimit kind message bound = .ok (ofCause (.limit (message text) kind) "" "") := by
  rw [ofLimit, spelled]
  rfl

theorem ofLimit_eq_error_iff {kind : String} {message : String → String} {bound : Int}
    {fault : Fault} : ofLimit kind message bound = .error fault ↔ spell bound = .error fault := by
  cases spelled : spell bound with
  | ok text => simp [ofLimit_of_spell spelled]
  | error other =>
    rw [ofLimit, spelled]
    change Except.error other = Except.error fault ↔ Except.error other = Except.error fault
    simp

theorem cause_of_ofLimit {kind : String} {message : String → String} {bound : Int}
    {signal : Signal} (made : ofLimit kind message bound = .ok signal) :
    ∃ text, signal.cause = .limit (message text) kind := by
  cases spelled : spell bound with
  | error fault => exact nomatch (ofLimit_eq_error_iff.mpr spelled).symm.trans made
  | ok text =>
    rw [ofLimit_of_spell spelled] at made
    cases made
    exact ⟨text, rfl⟩

end Signal

end Shell
