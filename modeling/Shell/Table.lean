import Std.Data.ExtTreeMap
import Std.Data.ExtTreeSet

/-!
Finite maps and sets of names, in the order of the names. Two tables with the same entries are
equal.
-/

namespace Shell

/-- A finite map from names. -/
abbrev Table (α : Type) := Std.ExtTreeMap String α compare

/-- A finite set of names. -/
abbrev Names := Std.ExtTreeSet String compare

/-- The rest of a text after a head, if it begins with it. -/
def dropHead? (head text : String) : Option String :=
  (head.toList.isPrefixOf? text.toList).map String.ofList

end Shell
