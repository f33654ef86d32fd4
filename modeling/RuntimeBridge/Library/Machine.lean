import Mathlib.Logic.Relation

/-! Event-driven machines with an executable step.  A run is restricted by a
guard on the events it may take, and every invariant is carried by one step
obligation. -/

namespace RuntimeBridge.Library

structure Machine (State : Type u) (Event : Type v) where
  start : State
  step : State → Event → Option State

namespace Machine

variable {State : Type u} {Event : Type v} {machine : Machine State Event}
  {guard weaker : State → Event → Prop} {invariant : State → Prop}
  {before middle after : State}

def Next (machine : Machine State Event) (guard : State → Event → Prop)
    (before after : State) : Prop :=
  ∃ event, guard before event ∧ machine.step before event = some after

def Leads (machine : Machine State Event) (guard : State → Event → Prop) :
    State → State → Prop :=
  Relation.ReflTransGen (machine.Next guard)

def Reaches (machine : Machine State Event) (guard : State → Event → Prop)
    (state : State) : Prop :=
  machine.Leads guard machine.start state

def anyEvent : State → Event → Prop := fun _ _ => True

def Reachable (machine : Machine State Event) (state : State) : Prop :=
  machine.Reaches anyEvent state

theorem Next.leads (h : machine.Next guard before after) :
    machine.Leads guard before after :=
  Relation.ReflTransGen.single h

theorem Leads.trans (first : machine.Leads guard before middle)
    (second : machine.Leads guard middle after) :
    machine.Leads guard before after :=
  Relation.ReflTransGen.trans first second

theorem Leads.mono (implies : ∀ state event, guard state event →
      weaker state event) (h : machine.Leads guard before after) :
    machine.Leads weaker before after := by
  refine Relation.ReflTransGen.mono ?_ _ _ h
  rintro before after ⟨event, admitted, taken⟩
  exact ⟨event, implies _ _ admitted, taken⟩

theorem Reaches.leads (reached : machine.Reaches guard before)
    (h : machine.Leads guard before after) : machine.Reaches guard after :=
  Leads.trans reached h

theorem Reaches.reachable (reached : machine.Reaches guard after) :
    machine.Reachable after :=
  Leads.mono (fun _ _ _ => True.intro) reached

/-- What one admitted step preserves. -/
def Preserves (machine : Machine State Event)
    (guard : State → Event → Prop) (invariant : State → Prop) : Prop :=
  ∀ before event after, guard before event → invariant before →
    machine.step before event = some after → invariant after

theorem Preserves.leads (preserved : machine.Preserves guard invariant)
    (holds : invariant before) (h : machine.Leads guard before after) :
    invariant after := by
  induction h with
  | refl => exact holds
  | tail _ next ih =>
      obtain ⟨event, admitted, taken⟩ := next
      exact preserved _ event _ admitted ih taken

theorem Preserves.reaches (preserved : machine.Preserves guard invariant)
    (holds : invariant machine.start) (h : machine.Reaches guard after) :
    invariant after :=
  preserved.leads holds h

def run (machine : Machine State Event) : State → List Event → Option State
  | state, [] => some state
  | state, event :: rest =>
      (machine.step state event).bind fun next => machine.run next rest

theorem leads_of_run {events : List Event}
    (admitted : ∀ state, ∀ event ∈ events, guard state event)
    (h : machine.run before events = some after) :
    machine.Leads guard before after := by
  induction events generalizing before with
  | nil =>
      cases Option.some.inj h
      exact Relation.ReflTransGen.refl
  | cons event rest ih =>
      obtain ⟨next, taken, ran⟩ := Option.bind_eq_some_iff.mp h
      exact Relation.ReflTransGen.head
        ⟨event, admitted _ event (by simp), taken⟩
        (ih (fun state other member => admitted state other (by simp [member]))
          ran)

def runIf (machine : Machine State Event) (admits : State → Event → Bool) :
    State → List Event → Option State
  | state, [] => some state
  | state, event :: rest =>
      if admits state event then
        (machine.step state event).bind fun next => machine.runIf admits next rest
      else
        none

theorem leads_of_runIf {admits : State → Event → Bool} {events : List Event}
    (admitted : ∀ state event, admits state event = true → guard state event)
    (h : machine.runIf admits before events = some after) :
    machine.Leads guard before after := by
  induction events generalizing before with
  | nil =>
      cases Option.some.inj h
      exact Relation.ReflTransGen.refl
  | cons event rest ih =>
      rw [runIf] at h
      split at h
      · next hadmits =>
          obtain ⟨next, taken, ran⟩ := Option.bind_eq_some_iff.mp h
          exact Relation.ReflTransGen.head
            ⟨event, admitted _ _ hadmits, taken⟩ (ih ran)
      · contradiction

def ended (machine : Machine State Event) (events : List Event) : State :=
  (machine.run machine.start events).getD machine.start

theorem reaches_ended {events : List Event}
    (admitted : ∀ state, ∀ event ∈ events, guard state event)
    (enabled : (machine.run machine.start events).isSome = true) :
    machine.Reaches guard (machine.ended events) := by
  obtain ⟨after, hafter⟩ := Option.isSome_iff_exists.mp enabled
  rw [ended, hafter]
  exact leads_of_run admitted hafter

theorem reachable_ended {events : List Event}
    (enabled : (machine.run machine.start events).isSome = true) :
    machine.Reachable (machine.ended events) :=
  reaches_ended (fun _ _ _ => True.intro) enabled

def endedIf (machine : Machine State Event) (admits : State → Event → Bool)
    (events : List Event) : State :=
  (machine.runIf admits machine.start events).getD machine.start

theorem reaches_endedIf {admits : State → Event → Bool} {events : List Event}
    (admitted : ∀ state event, admits state event = true → guard state event)
    (enabled : (machine.runIf admits machine.start events).isSome = true) :
    machine.Reaches guard (machine.endedIf admits events) := by
  obtain ⟨after, hafter⟩ := Option.isSome_iff_exists.mp enabled
  rw [endedIf, hafter]
  exact leads_of_runIf admitted hafter

end Machine

end RuntimeBridge.Library
