import RuntimeBridge.Library.Update

/-! Locks that are kept as flags, and their holders. -/

namespace RuntimeBridge.Library

/-- A lock is taken as long as someone holds it, and nobody else does. -/
structure Exclusive (locks : Key → Bool) (holding : Owner → Option Key) :
    Prop where
  locked_iff : ∀ key, locks key = true ↔ ∃ owner, holding owner = some key
  alone : ∀ first second key, holding first = some key →
    holding second = some key → first = second

namespace Exclusive

variable {Key : Type u} {Owner : Type v} {locks : Key → Bool}
  {holding : Owner → Option Key} {key : Key} {owner : Owner}

theorem unlocked : Exclusive (fun _ : Key => false) fun _ : Owner => none where
  locked_iff key := by
    constructor
    · intro h
      cases h
    · rintro ⟨owner, h⟩
      cases h
  alone first second key h := by cases h

theorem free_iff (h : Exclusive locks holding) :
    locks key = false ↔ ∀ owner, holding owner ≠ some key := by
  rw [Bool.eq_false_iff, Ne, h.locked_iff, not_exists]

/-- An owner that goes on with what it holds. -/
theorem keep [DecidableEq Owner] (h : Exclusive locks holding)
    {held : Option Key} (same : holding owner = held) :
    Exclusive locks (Function.update holding owner held) := by
  rw [← same, Function.update_eq_self]
  exact h

variable [DecidableEq Key] [DecidableEq Owner]

/-- Only a free lock is taken. -/
theorem take (h : Exclusive locks holding) (free : locks key = false)
    (idle : holding owner = none) :
    Exclusive (Function.update locks key true)
      (Function.update holding owner (some key)) where
  locked_iff other := by
    constructor
    · intro hlocked
      rcases update_cases (fun lock => lock = true) hlocked with
        ⟨rfl, _⟩ | ⟨_, hold⟩
      · exact ⟨owner, Function.update_self ..⟩
      · obtain ⟨holder, hholder⟩ := (h.locked_iff other).mp hold
        refine ⟨holder, ?_⟩
        rw [Function.update_of_ne, hholder]
        rintro rfl
        rw [idle] at hholder
        cases hholder
    · rintro ⟨holder, hholder⟩
      rcases update_some_cases hholder with ⟨_, hkey⟩ | ⟨_, hold⟩
      · cases hkey
        exact Function.update_self ..
      · rw [Function.update_of_ne]
        · exact (h.locked_iff other).mpr ⟨holder, hold⟩
        · rintro rfl
          exact h.free_iff.mp free holder hold
  alone first second other hfirst hsecond := by
    rcases update_some_cases hfirst with
      ⟨hfirstOwner, hfirstKey⟩ | ⟨_, hfirstHeld⟩ <;>
    rcases update_some_cases hsecond with
      ⟨hsecondOwner, hsecondKey⟩ | ⟨_, hsecondHeld⟩
    · exact hfirstOwner.trans hsecondOwner.symm
    · cases hfirstKey
      cases h.free_iff.mp free second hsecondHeld
    · cases hsecondKey
      cases h.free_iff.mp free first hfirstHeld
    · exact h.alone first second other hfirstHeld hsecondHeld

theorem release (h : Exclusive locks holding) (held : holding owner = some key) :
    Exclusive (Function.update locks key false)
      (Function.update holding owner none) where
  locked_iff other := by
    constructor
    · intro hlocked
      rcases update_cases (fun lock => lock = true) hlocked with
        ⟨_, hfalse⟩ | ⟨hne, hold⟩
      · cases hfalse
      · obtain ⟨holder, hholder⟩ := (h.locked_iff other).mp hold
        refine ⟨holder, ?_⟩
        rw [Function.update_of_ne, hholder]
        rintro rfl
        exact hne (Option.some.inj (hholder.symm.trans held))
    · rintro ⟨holder, hholder⟩
      rcases update_some_cases hholder with ⟨_, hnone⟩ | ⟨hne, hold⟩
      · cases hnone
      · rw [Function.update_of_ne]
        · exact (h.locked_iff other).mpr ⟨holder, hold⟩
        · rintro rfl
          exact hne (h.alone holder owner other hold held)
  alone first second other hfirst hsecond := by
    rcases update_some_cases hfirst with ⟨_, hnone⟩ | ⟨_, hfirst⟩
    · cases hnone
    · rcases update_some_cases hsecond with ⟨_, hnone⟩ | ⟨_, hsecond⟩
      · cases hnone
      · exact h.alone first second other hfirst hsecond

end Exclusive

end RuntimeBridge.Library
