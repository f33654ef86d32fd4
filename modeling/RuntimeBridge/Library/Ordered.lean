import Mathlib.Data.List.Basic

/-! Lists in which every item is allowed by the items before it. -/

namespace RuntimeBridge.Library

variable {α : Type u} {allowed weaker : List α → α → Prop}
  {items kept dropped : List α} {item first : α}

def Ordered (allowed : List α → α → Prop) (items : List α) : Prop :=
  ∀ left item right, items = left ++ item :: right → allowed left item

namespace Ordered

theorem nil : Ordered allowed [] := by
  intro left item right heq
  simp at heq

theorem initial (h : Ordered allowed (kept ++ dropped)) :
    Ordered allowed kept := by
  intro left item right heq
  apply h left item (right ++ dropped)
  rw [heq, List.append_assoc, List.cons_append]

theorem concat (h : Ordered allowed items) (last : allowed items item) :
    Ordered allowed (items ++ [item]) := by
  intro left other right heq
  rcases List.eq_nil_or_concat right with rfl | ⟨initial, final, rfl⟩
  · obtain ⟨rfl, hitem⟩ := List.append_inj' heq rfl
    cases hitem
    exact last
  · rw [List.concat_eq_append, ← List.cons_append, ← List.append_assoc] at heq
    exact h left other initial (List.append_inj' heq rfl).1

/-- What the dropped items allowed is allowed once they are gone. -/
theorem final (implies : ∀ left item, allowed (dropped ++ left) item →
      weaker left item) (h : Ordered allowed (dropped ++ kept)) :
    Ordered weaker kept := by
  intro left item right heq
  refine implies left item (h (dropped ++ left) item right ?_)
  rw [heq, List.append_assoc]

theorem head (h : Ordered allowed (first :: items)) : allowed [] first :=
  h [] first items rfl

end Ordered

end RuntimeBridge.Library
