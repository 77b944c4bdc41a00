import Shell.Table

/-!
Options of the shell: those that `set` turns on and off, and those of `shopt`.
-/

namespace Shell

/-- An option that `set` turns on and off. -/
inductive Toggle
  | allexport
  | emacs
  | errexit
  | noclobber
  | noexec
  | noglob
  | nounset
  | pipefail
  | posix
  | verbose
  | vi
  | xtrace
deriving DecidableEq, Repr

namespace Toggle

/-- All of them, in the order of their names. -/
def all : List Toggle :=
  [allexport, emacs, errexit, noclobber, noexec, noglob, nounset, pipefail, posix, verbose, vi,
   xtrace]

/-- The name of an option. -/
def name : Toggle → String
  | allexport => "allexport"
  | emacs => "emacs"
  | errexit => "errexit"
  | noclobber => "noclobber"
  | noexec => "noexec"
  | noglob => "noglob"
  | nounset => "nounset"
  | pipefail => "pipefail"
  | posix => "posix"
  | verbose => "verbose"
  | vi => "vi"
  | xtrace => "xtrace"

/-- The option with a name. -/
def ofName? (text : String) : Option Toggle := all.find? (·.name = text)

/-- The letter that turns an option on and off, if it has one. -/
def flag? : Toggle → Option String
  | allexport => some "a"
  | errexit => some "e"
  | noglob => some "f"
  | noexec => some "n"
  | nounset => some "u"
  | verbose => some "v"
  | xtrace => some "x"
  | noclobber => some "C"
  | _ => none

/-- The option with a letter. -/
def ofFlag? (flag : String) : Option Toggle := all.find? (·.flag? = some flag)

@[simp]
theorem mem_all (toggle : Toggle) : toggle ∈ all := by cases toggle <;> decide

@[simp]
theorem ofName?_name (toggle : Toggle) : ofName? toggle.name = some toggle := by
  cases toggle <;> rfl

end Toggle

/-- Which options of `set` are on. -/
structure Options where
  allexport : Bool := false
  emacs : Bool := false
  errexit : Bool := false
  noclobber : Bool := false
  noexec : Bool := false
  noglob : Bool := false
  nounset : Bool := false
  pipefail : Bool := false
  posix : Bool := false
  verbose : Bool := false
  vi : Bool := false
  xtrace : Bool := false
deriving DecidableEq, Repr

namespace Options

/-- An option is on. -/
def get (options : Options) : Toggle → Bool
  | .allexport => options.allexport
  | .emacs => options.emacs
  | .errexit => options.errexit
  | .noclobber => options.noclobber
  | .noexec => options.noexec
  | .noglob => options.noglob
  | .nounset => options.nounset
  | .pipefail => options.pipefail
  | .posix => options.posix
  | .verbose => options.verbose
  | .vi => options.vi
  | .xtrace => options.xtrace

/-- Turn an option on or off. Of the two editing modes at most one is turned on. -/
def put (options : Options) (toggle : Toggle) (on : Bool) : Options :=
  match toggle with
  | .allexport => { options with allexport := on }
  | .emacs => { options with emacs := on, vi := options.vi && !on }
  | .errexit => { options with errexit := on }
  | .noclobber => { options with noclobber := on }
  | .noexec => { options with noexec := on }
  | .noglob => { options with noglob := on }
  | .nounset => { options with nounset := on }
  | .pipefail => { options with pipefail := on }
  | .posix => { options with posix := on }
  | .verbose => { options with verbose := on }
  | .vi => { options with vi := on, emacs := options.emacs && !on }
  | .xtrace => { options with xtrace := on }

/-- Exactly these options are on. -/
def ofEnabled (toggles : List Toggle) : Options where
  allexport := toggles.contains .allexport
  emacs := toggles.contains .emacs
  errexit := toggles.contains .errexit
  noclobber := toggles.contains .noclobber
  noexec := toggles.contains .noexec
  noglob := toggles.contains .noglob
  nounset := toggles.contains .nounset
  pipefail := toggles.contains .pipefail
  posix := toggles.contains .posix
  verbose := toggles.contains .verbose
  vi := toggles.contains .vi
  xtrace := toggles.contains .xtrace

/-- The options that are on. -/
def enabled (options : Options) : List Toggle := Toggle.all.filter options.get

/-- Names of options that are accepted and do nothing. -/
def inertNames : List String :=
  ["errtrace", "functrace", "histexpand", "history", "ignoreeof", "keyword", "monitor", "nolog",
   "notify", "onecmd", "physical", "privileged"]

/-- Names of options that are always on. -/
def permanentNames : List String := ["braceexpand", "hashall", "interactive-comments"]

/-- Letters of options that are accepted and do nothing. -/
def inertFlags : List Char := "bhmptBH".toList

/-- A text occurs inside another. -/
def occursIn (part : List Char) : List Char → Bool
  | [] => part.isEmpty
  | c :: rest => part.isPrefixOf (c :: rest) || occursIn part rest

/-- A flag that is accepted and does nothing: any text inside the row of such letters. -/
def isInertFlag (flag : String) : Bool := occursIn flag.toList inertFlags

/-- The name belongs to an option of `set`. -/
def isKnown (name : String) : Bool :=
  (Toggle.ofName? name).isSome || inertNames.contains name || permanentNames.contains name

/-- Insert a name into a sorted list of names. -/
def insertSorted (name : String) : List String → List String
  | [] => [name]
  | first :: rest => if name ≤ first then name :: first :: rest else first :: insertSorted name rest

/-- The names of the options that are on, sorted and divided by colons. Editing modes are left
out. -/
def listing (options : Options) : String :=
  let named := (options.enabled.filter fun toggle => toggle ≠ .vi ∧ toggle ≠ .emacs).map Toggle.name
  ":".intercalate (permanentNames.foldr insertSorted named)

/-- The letters of the options that are on, and those that always are. -/
def flags (options : Options) : String :=
  let letter (on : Bool) (text : String) := if on then text else ""
  letter options.allexport "a" ++ letter options.errexit "e" ++ "h" ++ letter options.noglob "f" ++
    letter options.noexec "n" ++ letter options.nounset "u" ++ letter options.verbose "v" ++
    letter options.xtrace "x" ++ "B" ++ letter options.noclobber "C" ++ "s"

end Options

namespace Shopt

/-- The options of `shopt` and whether they are on at first. -/
def defaults : List (String × Bool) :=
  [("autocd", false),
   ("assoc_expand_once", false),
   ("cdable_vars", false),
   ("cdspell", false),
   ("checkhash", false),
   ("checkjobs", false),
   ("checkwinsize", true),
   ("cmdhist", true),
   ("complete_fullquote", true),
   ("direxpand", false),
   ("dirspell", false),
   ("dotglob", false),
   ("execfail", false),
   ("expand_aliases", false),
   ("extdebug", false),
   ("extglob", false),
   ("extquote", true),
   ("failglob", false),
   ("force_fignore", true),
   ("globasciiranges", true),
   ("globskipdots", true),
   ("globstar", false),
   ("gnu_errfmt", false),
   ("histappend", false),
   ("histreedit", false),
   ("histverify", false),
   ("hostcomplete", true),
   ("huponexit", false),
   ("inherit_errexit", false),
   ("interactive_comments", true),
   ("lastpipe", false),
   ("lithist", false),
   ("localvar_inherit", false),
   ("localvar_unset", false),
   ("login_shell", false),
   ("mailwarn", false),
   ("no_empty_cmd_completion", false),
   ("nocaseglob", false),
   ("nocasematch", false),
   ("nullglob", false),
   ("progcomp", true),
   ("progcomp_alias", false),
   ("promptvars", true),
   ("restricted_shell", false),
   ("shift_verbose", false),
   ("sourcepath", true),
   ("xpg_echo", false)]

/-- The options that the listing of `shopt` options reports. -/
def reported : List String :=
  ["dotglob", "expand_aliases", "extglob", "failglob", "globskipdots", "globstar", "lastpipe",
   "nocaseglob", "nocasematch", "nullglob", "xpg_echo"]

/-- An option is on, given those that were set. Unknown ones are off. -/
def get (shopts : Table Bool) (name : String) : Bool :=
  (shopts[name]?).getD ((defaults.lookup name).getD false)

/-- The name belongs to an option of `shopt`. -/
def isKnown (name : String) : Bool := (defaults.lookup name).isSome

/-- The reported options that are on, divided by colons. -/
def listing (shopts : Table Bool) : String := ":".intercalate (reported.filter (get shopts))

/-- All options with their present state. -/
def all (shopts : Table Bool) : List (String × Bool) :=
  defaults.map fun (name, _) => (name, get shopts name)

end Shopt

end Shell
