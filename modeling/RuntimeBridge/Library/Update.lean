import Mathlib.Logic.Function.Basic

/-! Maps of which one entry is replaced, and lists that grow. -/

namespace RuntimeBridge.Library

variable {Key : Type u} {Value : Type v} {Field : Type w} [DecidableEq Key]
  {map : Key → Value} {key other : Key} {value : Value}

/-- What holds of an entry holds of the new one, or did so before. -/
theorem update_cases (property : Value → Prop)
    (h : property (Function.update map key value other)) :
    other = key ∧ property value ∨ other ≠ key ∧ property (map other) := by
  rcases eq_or_ne other key with rfl | hne
  · rw [Function.update_self] at h
    exact Or.inl ⟨rfl, h⟩
  · rw [Function.update_of_ne hne] at h
    exact Or.inr ⟨hne, h⟩

theorem update_some_cases {entries : Key → Option Value} {entry : Option Value}
    (h : Function.update entries key entry other = some value) :
    other = key ∧ entry = some value ∨
      other ≠ key ∧ entries other = some value :=
  update_cases (fun found => found = some value) h

/-- What holds of the stored entries holds of the new ones, if it holds of the
one that is written. -/
theorem update_forall {holds : Key → Value → Prop}
    {entries : Key → Option Value} {entry : Option Value}
    (hentries : ∀ other value, entries other = some value → holds other value)
    (hentry : ∀ value, entry = some value → holds key value)
    (other : Key) (value : Value)
    (h : Function.update entries key entry other = some value) :
    holds other value := by
  rcases update_some_cases h with ⟨rfl, hnew⟩ | ⟨_, hold⟩
  · exact hentry value hnew
  · exact hentries other value hold

/-- The map is related to the old one as soon as the new entry is. -/
theorem update_relates (relation : Value → Value → Prop)
    (refl : ∀ value, relation value value) (h : relation value (map key))
    (other : Key) :
    relation (Function.update map key value other) (map other) := by
  rcases eq_or_ne other key with rfl | hne
  · rw [Function.update_self]
    exact h
  · rw [Function.update_of_ne hne]
    exact refl (map other)

theorem update_field (field : Value → Field)
    (h : field value = field (map key)) (other : Key) :
    field (Function.update map key value other) = field (map other) :=
  update_relates (fun new old => field new = field old) (fun _ => rfl) h other

/-- A write removes no entry. -/
theorem update_isSome {entries : Key → Option Value}
    (h : (entries other).isSome = true) :
    (Function.update entries key (some value) other).isSome = true :=
  update_relates (fun new old : Option Value => old.isSome → new.isSome)
    (fun _ hsome => hsome) (fun _ => rfl) other h

theorem getElem?_concat_cases {items : List Value} {last item : Value}
    {place : Nat} (h : (items ++ [last])[place]? = some item) :
    items[place]? = some item ∨ place = items.length ∧ last = item := by
  rcases Nat.lt_or_ge place items.length with hold | hnew
  · rw [List.getElem?_append_left hold] at h
    exact Or.inl h
  · rw [List.getElem?_append_right hnew, List.getElem?_singleton] at h
    split at h
    · next hplace =>
        exact Or.inr ⟨Nat.le_antisymm (Nat.le_of_sub_eq_zero hplace) hnew,
          Option.some.inj h⟩
    · contradiction

theorem getElem?_concat_of_some {items : List Value} {item : Value}
    {place : Nat} (h : items[place]? = some item) (last : Value) :
    (items ++ [last])[place]? = some item :=
  (List.getElem?_append_left (List.getElem?_eq_some_iff.mp h).1).trans h

theorem getElem?_modify_cases {items : List Value} {change : Value → Value}
    {place other : Nat} {item : Value}
    (h : (items.modify place change)[other]? = some item) :
    ∃ old, items[other]? = some old ∧
      (place = other ∧ item = change old ∨ place ≠ other ∧ item = old) := by
  rw [List.getElem?_modify] at h
  obtain ⟨old, hold, hitem⟩ := Option.map_eq_some_iff.mp h
  refine ⟨old, hold, ?_⟩
  split at hitem
  · next hplace => exact Or.inl ⟨hplace, hitem.symm⟩
  · next hplace => exact Or.inr ⟨hplace, hitem.symm⟩

end RuntimeBridge.Library
