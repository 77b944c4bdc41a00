import Shell.Regex.Basic

/-!
Pooling: alternatives that read one character each become one character set. Before that, what all
alternatives begin with is moved in front of them. Pooling changes nothing while case is regarded;
without regard to case a character of a set may have fewer variants than the character alone.
-/

namespace Shell.Regex

/-- The members of the set that an expression reads one character of. A set given by what it leaves
out has none. -/
def members? : Regex → Option (List Item)
  | char code false => some [.code code]
  | set ⟨false, items⟩ => some items
  | _ => none

/-- The expression has no parts, so that two of them can be told to be the same. -/
def isSimple : Regex → Bool
  | char _ _ | set _ | atEnd => true
  | _ => false

/-- The members of the set that a list of one expression stands for. -/
def onlyMembers? : List Regex → Option (List Item)
  | [r] => r.members?
  | _ => none

/-- One set for alternatives that read one character each, otherwise the alternatives. -/
def poolOrAlt (first : List Regex) (others : List (List Regex)) : Regex :=
  match (first :: others).mapM onlyMembers? with
  | some items => set ⟨false, items.flatten.eraseDups⟩
  | none => altAll (seqAll first) (others.map seqAll)

/-- Pool alternatives, each a sequence, after what they have in common. -/
def poolAll : (first : List Regex) → (others : List (List Regex)) → List Regex
  | [], others => [poolOrAlt [] others]
  | r :: rest, others =>
    if r.isSimple && others.all (·.head? == some r) then r :: poolAll rest (others.map List.tail)
    else [poolOrAlt (r :: rest) others]

/-- The sequence that alternatives come to. -/
def pool : List (List Regex) → List Regex
  | [] => []
  | [only] => only
  | first :: next :: others => poolAll first (next :: others)

/-- The alternatives of an expression, each a sequence, with everything inside them pooled. -/
def branches : Regex → List (List Regex)
  | empty => [[]]
  | seq first second => [pool first.branches ++ pool second.branches]
  | alt left right => pool left.branches :: right.branches
  | group body => [pool body.branches]
  | star body => [[star (seqAll (pool body.branches))]]
  | notAhead body => [[notAhead (seqAll (pool body.branches))]]
  | r => [[r]]

/-- An expression with all its alternatives pooled. -/
def pooled (r : Regex) : Regex := seqAll (pool r.branches)

end Shell.Regex
