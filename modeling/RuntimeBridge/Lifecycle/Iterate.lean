/-! `iterate`: each function an iterator yields is executed until it succeeds,
until `processError` asks to ignore its error, or until its seventh failure goes
to `throwFatal`. -/

namespace RuntimeBridge.Lifecycle

inductive Loop (Fn : Type) where
  /-- The iterator is at work. -/
  | next
  | running (fn : Fn) (attempt : Nat) (shouldIgnoreError : Bool)
  | recovering (fn : Fn) (attempt : Nat) (shouldIgnoreError : Bool)
  | fatal (fn : Fn)
  | ended
  | rejected (error : String)
  deriving DecidableEq, Repr

inductive LoopEvent (Fn : Type) where
  | yields (fn : Option Fn)
  | returns
  | throws (error : String)
  | succeeds
  | fails
  /-- `processError` returns, after calling `setShouldIgnoreError` or not. -/
  | recovers (ignores : Bool)
  | recoveryFails (ignores : Bool)
  | fatalReturns
  | fatalThrows (error : String)
  deriving DecidableEq, Repr

def Loop.step (loop : Loop Fn) : LoopEvent Fn → Option (Loop Fn)
  | .yields fn =>
      match loop, fn with
      | .next, none => some .next
      | .next, some fn => some (.running fn 0 false)
      | _, _ => none
  | .returns =>
      match loop with
      | .next => some .ended
      | _ => none
  | .throws error =>
      match loop with
      | .next => some (.rejected error)
      | _ => none
  | .succeeds =>
      match loop with
      | .running _ _ _ => some .next
      | _ => none
  | .fails =>
      match loop with
      | .running fn attempt ignore =>
          some (if attempt ≤ 5 then .recovering fn attempt ignore else .fatal fn)
      | _ => none
  | .recovers ignores =>
      match loop with
      | .recovering fn attempt ignore =>
          if ignore || ignores then some .next
          else some (.running fn (attempt + 1) false)
      | _ => none
  | .recoveryFails ignores =>
      match loop with
      | .recovering fn attempt ignore =>
          some (.running fn (attempt + 1) (ignore || ignores))
      | _ => none
  | .fatalReturns =>
      match loop with
      | .fatal _ => some .next
      | _ => none
  | .fatalThrows error =>
      match loop with
      | .fatal _ => some (.rejected error)
      | _ => none

theorem Loop.step_succeeds {loop after : Loop Fn}
    (h : loop.step .succeeds = some after) :
    ∃ fn attempt ignore, loop = .running fn attempt ignore := by
  cases loop <;> cases h
  exact ⟨_, _, _, rfl⟩

theorem Loop.step_fails {loop failed : Loop Fn}
    (h : loop.step .fails = some failed) :
    ∃ fn attempt ignore, loop = .running fn attempt ignore ∧
      (failed = .recovering fn attempt ignore ∨ failed = .fatal fn) := by
  simp only [Loop.step] at h
  split at h
  · next fn attempt ignore =>
      refine ⟨fn, attempt, ignore, rfl, ?_⟩
      split at h
      · exact Or.inl (Option.some.inj h).symm
      · exact Or.inr (Option.some.inj h).symm
  · contradiction

theorem Loop.step_recovers {loop after : Loop Fn} {ignores : Bool}
    (h : loop.step (.recovers ignores) = some after) :
    ∃ fn attempt ignore, loop = .recovering fn attempt ignore ∧
      (after = .next ∨ after = .running fn (attempt + 1) false) := by
  simp only [Loop.step] at h
  split at h
  · next fn attempt ignore =>
      refine ⟨fn, attempt, ignore, rfl, ?_⟩
      split at h
      · exact Or.inl (Option.some.inj h).symm
      · exact Or.inr (Option.some.inj h).symm
  · contradiction

theorem Loop.step_recoveryFails {loop after : Loop Fn} {ignores : Bool}
    (h : loop.step (.recoveryFails ignores) = some after) :
    ∃ fn attempt ignore, loop = .recovering fn attempt ignore ∧
      after = .running fn (attempt + 1) (ignore || ignores) := by
  simp only [Loop.step] at h
  split at h
  · next fn attempt ignore =>
      exact ⟨fn, attempt, ignore, rfl, (Option.some.inj h).symm⟩
  · contradiction

end RuntimeBridge.Lifecycle
