import Shell.Table

/-!
The variable store: values by name, attributes by name, and the attributes that open scopes have
saved. Array elements are kept under names of their own, so one flat map holds all values.
-/

namespace Shell

/-- Attribute letters. -/
abbrev Attributes := Std.ExtTreeSet String compare

namespace Attribute

/-- The value cannot be changed. -/
def readonly : String := "r"

/-- The variable is exported. -/
def exported : String := "x"

/-- The value names another variable. -/
def nameref : String := "n"

/-- The variable is an indexed array. -/
def indexed : String := "a"

/-- The variable is an associative array. -/
def associative : String := "A"

end Attribute

/-- Values, attributes and saved attributes. A name may have a set of attributes that is empty. -/
structure Store where
  values : Table String := ∅
  attributes : Table Attributes := ∅
  /-- For each open scope, innermost first, the attributes its names had before; `none` if they had
  no set at all. -/
  saved : List (Table (Option Attributes)) := []

namespace Store

/-- The value under a key. -/
def get? (store : Store) (key : String) : Option String := store.values[key]?

/-- A value under the key exists. -/
def has (store : Store) (key : String) : Bool := store.values.contains key

/-- Put a value under a key. -/
def put (store : Store) (key value : String) : Store :=
  { store with values := store.values.insert key value }

/-- Drop the value under a key. -/
def drop (store : Store) (key : String) : Store :=
  { store with values := store.values.erase key }

/-- All keys with a value, in order. -/
def keys (store : Store) : List String := store.values.keys

/-- The attributes of a name. -/
def attributesOf (store : Store) (name : String) : Attributes :=
  (store.attributes[name]?).getD ∅

/-- The name has the attribute. -/
def hasAttribute (store : Store) (name letter : String) : Bool :=
  (store.attributesOf name).contains letter

/-- A set of attributes is kept for the name. -/
def hasAttributeSet (store : Store) (name : String) : Bool := store.attributes.contains name

/-- Give a name an attribute. -/
def addAttribute (store : Store) (name letter : String) : Store :=
  { store with
    attributes := store.attributes.insert name ((store.attributesOf name).insert letter) }

/-- Take an attribute from a name. -/
def dropAttribute (store : Store) (name letter : String) : Store :=
  { store with attributes := store.attributes.modify name (·.erase letter) }

/-- The name refers to another. -/
def isNameref (store : Store) (name : String) : Bool := store.hasAttribute name Attribute.nameref

/-- The name cannot be assigned. -/
def isReadonly (store : Store) (name : String) : Bool := store.hasAttribute name Attribute.readonly

/-- The name is exported. -/
def isExported (store : Store) (name : String) : Bool := store.hasAttribute name Attribute.exported

/-- Make a name refer to another. -/
def putNameref (store : Store) (name target : String) : Store :=
  (store.addAttribute name Attribute.nameref).put name target

/-- Open a scope. -/
def openScope (store : Store) : Store := { store with saved := ∅ :: store.saved }

/-- Save the attributes of a name in the innermost scope, unless that was done before. -/
def saveAttributes (store : Store) (name : String) : Store :=
  match store.saved with
  | [] => store
  | scope :: outer =>
    { store with saved := scope.insertIfNew name store.attributes[name]? :: outer }

/-- Attributes after those that a scope saved are put back. -/
def restoreAttributes (attributes : Table Attributes) (scope : Table (Option Attributes)) :
    Table Attributes :=
  scope.foldl (fun attributes name saved =>
    match saved with
    | none => attributes.erase name
    | some set => attributes.insert name set) attributes

/-- A copy for someone else, without the saved attributes. -/
def copy (store : Store) : Store := { store with saved := [] }

end Store

end Shell
