import Mathlib.Data.List.Nodup

/-! Lists that are cut into chunks of one size while they are read, each item
pushed to the chunk that its position belongs to. -/

namespace RuntimeBridge.Library

variable {α : Type u}

/-- Pushes to the chunk at `index`, which is opened if it is not there. -/
def pushAt (groups : List (List α)) (index : Nat) (item : α) :
    List (List α) :=
  if index < groups.length then
    groups.modify index (· ++ [item])
  else
    groups ++ List.replicate (index - groups.length) [] ++ [[item]]

/-- The items in order, in groups of `size` and a last one that may be smaller
but is not empty. -/
structure Chunked (size : Nat) (groups : List (List α)) (items : List α) :
    Prop where
  flatten : groups.flatten = items
  full : ∀ group ∈ groups.dropLast, group.length = size
  last : ∀ group ∈ groups.getLast?, 0 < group.length ∧ group.length ≤ size

namespace Chunked

variable {size : Nat} {groups : List (List α)} {items : List α}

theorem nil (size : Nat) : Chunked size ([] : List (List α)) [] where
  flatten := rfl
  full := fun _ hnone => by cases hnone
  last := fun _ hnone => by cases hnone

theorem mem (h : Chunked size groups items) (hsize : 0 < size) :
    ∀ group ∈ groups, 0 < group.length ∧ group.length ≤ size := by
  intro group hmember
  rcases List.eq_nil_or_concat groups with rfl | ⟨front, final, rfl⟩
  · cases hmember
  · rw [List.concat_eq_append] at h hmember
    rcases List.mem_append.mp hmember with hfront | hfinal
    · have := h.full group (by rwa [List.dropLast_concat])
      omega
    · cases List.mem_singleton.mp hfinal
      exact h.last group (by rw [List.getLast?_concat]; rfl)

/-- An item of items without repetition is in one chunk. -/
theorem place_inj (hnodup : groups.flatten.Nodup) {place other : Nat}
    {group next : List α} (hplace : groups[place]? = some group)
    (hother : groups[other]? = some next) {item : α} (hgroup : item ∈ group)
    (hnext : item ∈ next) : place = other := by
  have hdisjoint := List.pairwise_iff_getElem.mp (List.nodup_flatten.mp hnodup).2
  obtain ⟨hlt, rfl⟩ := List.getElem?_eq_some_iff.mp hplace
  obtain ⟨hltOther, rfl⟩ := List.getElem?_eq_some_iff.mp hother
  rcases Nat.lt_trichotomy place other with hbefore | rfl | hafter
  · exact absurd hnext (hdisjoint place other hlt hltOther hbefore hgroup)
  · rfl
  · exact absurd hgroup (hdisjoint other place hltOther hlt hafter hnext)

theorem flatten_full {front : List (List α)}
    (hfull : ∀ group ∈ front, group.length = size) :
    front.flatten.length = front.length * size := by
  induction front with
  | nil => simp
  | cons group rest ih =>
      rw [List.forall_mem_cons] at hfull
      rw [List.flatten_cons, List.length_append, hfull.1, ih hfull.2,
        List.length_cons, Nat.succ_mul, Nat.add_comm]

theorem open_group (h : Chunked size groups items)
    (hfull : ∀ group ∈ groups, group.length = size) (hsize : 0 < size)
    (item : α) :
    Chunked size (groups ++ [[item]]) (items ++ [item]) where
  flatten := by rw [List.flatten_concat, h.flatten]
  full := by rwa [List.dropLast_concat]
  last := fun group hlast => by
    rw [List.getLast?_concat] at hlast
    cases hlast
    exact ⟨Nat.zero_lt_one, hsize⟩

/-- The next item goes to the chunk of its position. -/
theorem push (h : Chunked size groups items) (hsize : 0 < size) (item : α) :
    Chunked size (pushAt groups (items.length / size) item)
      (items ++ [item]) := by
  rcases List.eq_nil_or_concat groups with rfl | ⟨front, final, rfl⟩
  · have hitems : items = [] := h.flatten.symm
    subst hitems
    have hopened := h.open_group (fun _ hnone => by cases hnone) hsize item
    simpa [pushAt] using hopened
  · rw [List.concat_eq_append] at h ⊢
    have hfront : ∀ group ∈ front, group.length = size := by
      simpa [List.dropLast_concat] using h.full
    obtain ⟨hpos, hle⟩ := h.last final (by rw [List.getLast?_concat]; rfl)
    have hlength : items.length = front.length * size + final.length := by
      rw [← h.flatten, List.flatten_concat, List.length_append,
        flatten_full hfront]
    rcases Nat.lt_or_ge final.length size with hlt | hge
    · have hindex : items.length / size = front.length := by
        rw [hlength, Nat.mul_comm, Nat.mul_add_div hsize,
          Nat.div_eq_of_lt hlt, Nat.add_zero]
      have hmodify : (front ++ [final]).modify front.length (· ++ [item]) =
          front ++ [final ++ [item]] := by
        rw [List.modify_eq_take_drop, List.take_left, List.drop_left]
        rfl
      rw [pushAt, hindex, if_pos (by simp), hmodify]
      exact
        { flatten := by
            rw [← h.flatten, List.flatten_concat, List.flatten_concat,
              List.append_assoc]
          full := by rwa [List.dropLast_concat]
          last := fun group hlast => by
            rw [List.getLast?_concat] at hlast
            cases hlast
            simp only [List.length_append, List.length_singleton]
            omega }
    · have hsame : final.length = size := Nat.le_antisymm hle hge
      have hindex : items.length / size = (front ++ [final]).length := by
        rw [hlength, hsame, Nat.mul_comm, Nat.mul_add_div hsize,
          Nat.div_self hsize, List.length_append, List.length_singleton]
      rw [pushAt, hindex, if_neg (Nat.lt_irrefl _), Nat.sub_self]
      simp only [List.replicate_zero, List.append_nil]
      refine h.open_group (fun group hmember => ?_) hsize item
      rcases List.mem_append.mp hmember with hfrontMember | hfinal
      · exact hfront group hfrontMember
      · cases List.mem_singleton.mp hfinal
        exact hsame

end Chunked

end RuntimeBridge.Library
