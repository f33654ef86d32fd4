/-! Promises, which keep the outcome that settles them first. -/

namespace RuntimeBridge.Library

inductive Promise (α : Type) where
  | pending
  | resolved (value : α)
  | rejected (reason : String)
  deriving DecidableEq, Repr

namespace Promise

/-- A settled promise keeps its outcome. -/
def resolve (promise : Promise α) (value : α) : Promise α :=
  match promise with
  | .pending => .resolved value
  | settled => settled

def reject (promise : Promise α) (reason : String) : Promise α :=
  match promise with
  | .pending => .rejected reason
  | settled => settled

def isSettled : Promise α → Bool
  | .pending => false
  | _ => true

@[simp] theorem isSettled_resolve (promise : Promise α) (value : α) :
    (promise.resolve value).isSettled = true := by
  cases promise <;> rfl

@[simp] theorem isSettled_reject (promise : Promise α) (reason : String) :
    (promise.reject reason).isSettled = true := by
  cases promise <;> rfl

theorem pending_of_not_settled {promise : Promise α}
    (h : promise.isSettled = false) : promise = .pending := by
  cases promise with
  | pending => rfl
  | resolved _ => cases h
  | rejected _ => cases h

theorem resolve_of_settled {promise : Promise α}
    (h : promise.isSettled = true) (value : α) :
    promise.resolve value = promise := by
  cases promise with
  | pending => cases h
  | resolved _ => rfl
  | rejected _ => rfl

theorem reject_of_settled {promise : Promise α}
    (h : promise.isSettled = true) (reason : String) :
    promise.reject reason = promise := by
  cases promise with
  | pending => cases h
  | resolved _ => rfl
  | rejected _ => rfl

theorem rejected_of_resolve {promise : Promise α} {value : α} {reason : String}
    (h : promise.resolve value = .rejected reason) :
    promise = .rejected reason := by
  cases promise with
  | pending => cases h
  | resolved _ => cases h
  | rejected _ => exact h

theorem resolved_of_resolve {promise : Promise α} {value other : α}
    (h : promise.resolve value = .resolved other) :
    promise = .resolved other ∨ value = other := by
  cases promise with
  | pending =>
      cases h
      exact Or.inr rfl
  | resolved _ => exact Or.inl h
  | rejected _ => cases h

theorem resolved_of_reject {promise : Promise α} {value : α} {reason : String}
    (h : promise.reject reason = .resolved value) :
    promise = .resolved value := by
  cases promise with
  | pending => cases h
  | resolved _ => exact h
  | rejected _ => cases h

end Promise

end RuntimeBridge.Library
