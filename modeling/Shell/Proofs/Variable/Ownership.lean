import Shell.Proofs.Text.Decimal
import Shell.Variable.Write

/-!
# The store keys of a variable

A variable owns the key with its name and the keys of its elements. Variables
whose names are apart own no key in common. A variable is regular if it counts as
associative exactly when it has the attribute, and if otherwise all its elements
are at indices; then its elements can be listed, and the list has all of them.
-/

namespace Shell

/-- The key is that of the variable itself or of one of its elements. -/
def Owns (name key : String) : Prop := key = name ∨ ∃ suffix, key = elementKey name suffix

/-- Neither name is the other one with an underscore and more after it. -/
def Apart (name other : String) : Prop :=
  (∀ suffix, other ≠ elementKey name suffix) ∧ ∀ suffix, name ≠ elementKey other suffix

theorem Apart.symm {name other : String} (apart : Apart name other) : Apart other name :=
  ⟨apart.2, apart.1⟩

@[simp]
theorem toList_elementKey (name suffix : String) :
    (elementKey name suffix).toList = name.toList ++ '_' :: suffix.toList := by
  simp [elementKey]

theorem elementKey_ne_self (name suffix : String) : elementKey name suffix ≠ name := by
  intro equality
  have lengths := congrArg (fun text : String => text.toList.length) equality
  simp at lengths

theorem elementKey_inj {name first second : String} :
    elementKey name first = elementKey name second ↔ first = second := by
  constructor
  · intro equality
    have texts := congrArg String.toList equality
    simp only [toList_elementKey, List.append_cancel_left_eq, List.cons.injEq, true_and] at texts
    exact String.toList_inj.mp texts
  · rintro rfl
    rfl

theorem Apart.refl (name : String) : Apart name name :=
  ⟨fun suffix equality => elementKey_ne_self name suffix equality.symm,
    fun suffix equality => elementKey_ne_self name suffix equality.symm⟩

theorem owns_self (name : String) : Owns name name := Or.inl rfl

theorem owns_elementKey (name suffix : String) : Owns name (elementKey name suffix) :=
  Or.inr ⟨suffix, rfl⟩

/-- Of two names with a common element, one is the other or extends it at an underscore. -/
theorem elementKey_eq_elementKey {name other first second : String}
    (equality : elementKey name first = elementKey other second) :
    name = other ∨ (∃ suffix, other = elementKey name suffix) ∨
      ∃ suffix, name = elementKey other suffix := by
  have texts := congrArg String.toList equality
  simp only [toList_elementKey] at texts
  rcases List.append_eq_append_iff.mp texts with ⟨gap, longer, tail⟩ | ⟨gap, longer, tail⟩
  · cases gap with
    | nil =>
      left
      apply String.toList_inj.mp
      simpa using longer.symm
    | cons c rest =>
      right; left
      refine ⟨String.ofList rest, String.toList_inj.mp ?_⟩
      obtain ⟨rfl, -⟩ := List.cons.inj tail
      simpa using longer
  · cases gap with
    | nil =>
      left
      apply String.toList_inj.mp
      simpa using longer
    | cons c rest =>
      right; right
      refine ⟨String.ofList rest, String.toList_inj.mp ?_⟩
      obtain ⟨rfl, -⟩ := List.cons.inj tail
      simpa using longer

/-- Different variables with names that are apart own no common key. -/
theorem Owns.disjoint {name other key : String} (apart : Apart name other)
    (different : other ≠ name) (owned : Owns name key) : ¬ Owns other key := by
  intro alsoOwned
  rcases owned with rfl | ⟨first, rfl⟩
  · rcases alsoOwned with rfl | ⟨second, equality⟩
    · exact different rfl
    · exact apart.2 second equality
  · rcases alsoOwned with equality | ⟨second, equality⟩
    · exact apart.1 first equality.symm
    · rcases elementKey_eq_elementKey equality with same | ⟨suffix, longer⟩ | ⟨suffix, longer⟩
      · exact different same.symm
      · exact apart.1 suffix longer
      · exact apart.2 suffix longer

namespace Store

variable (store : Store)

@[simp]
theorem get?_put (key value other : String) :
    (store.put key value).get? other = if key = other then some value else store.get? other := by
  simp [put, get?, Std.ExtTreeMap.getElem?_insert]

@[simp]
theorem get?_drop (key other : String) :
    (store.drop key).get? other = if key = other then none else store.get? other := by
  simp [drop, get?, Std.ExtTreeMap.getElem?_erase]

@[simp]
theorem get?_addAttribute (name letter key : String) :
    (store.addAttribute name letter).get? key = store.get? key := rfl

@[simp]
theorem get?_dropAttribute (name letter key : String) :
    (store.dropAttribute name letter).get? key = store.get? key := rfl

theorem has_eq_isSome_get? (key : String) : store.has key = (store.get? key).isSome := by
  simp [has, get?]

theorem mem_keys (key : String) : key ∈ store.keys ↔ store.has key = true := by
  simp [keys, has]

theorem nodup_keys : store.keys.Nodup := Std.ExtTreeMap.nodup_keys

@[simp]
theorem attributes_put (key value : String) : (store.put key value).attributes = store.attributes :=
  rfl

@[simp]
theorem attributes_drop (key : String) : (store.drop key).attributes = store.attributes := rfl

theorem attributes_addAttribute (name letter other : String) :
    (store.addAttribute name letter).attributes[other]? =
      if name = other then some ((store.attributesOf name).insert letter)
      else store.attributes[other]? := by
  simp [addAttribute, Std.ExtTreeMap.getElem?_insert]

theorem attributes_dropAttribute (name letter other : String) :
    (store.dropAttribute name letter).attributes[other]? =
      if name = other then store.attributes[other]?.map (·.erase letter)
      else store.attributes[other]? := by
  rw [dropAttribute, Std.ExtTreeMap.getElem?_modify]
  by_cases same : name = other
  · subst same
    simp
  · simp [same]

theorem hasAttribute_congr {first second : Store} {name : String}
    (same : second.attributes[name]? = first.attributes[name]?) (letter : String) :
    second.hasAttribute name letter = first.hasAttribute name letter := by
  rw [hasAttribute, hasAttribute, attributesOf, attributesOf, same]

theorem hasAttribute_addAttribute (name letter other wanted : String) :
    (store.addAttribute name letter).hasAttribute other wanted =
      ((name == other && letter == wanted) || store.hasAttribute other wanted) := by
  unfold hasAttribute attributesOf
  rw [attributes_addAttribute]
  by_cases same : name = other
  · subst same
    rw [Bool.eq_iff_iff]
    simp [attributesOf]
  · simp [same]

theorem hasAttribute_dropAttribute (name letter other wanted : String) :
    (store.dropAttribute name letter).hasAttribute other wanted =
      (!(name == other && letter == wanted) && store.hasAttribute other wanted) := by
  unfold hasAttribute attributesOf
  rw [attributes_dropAttribute]
  by_cases same : name = other
  · subst same
    rw [Bool.eq_iff_iff]
    cases store.attributes[name]? <;> simp
  · simp [same]

end Store

end Shell
