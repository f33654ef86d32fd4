import Mathlib.Data.List.Count
import RuntimeBridge.Library.Update
import RuntimeBridge.Lifecycle.Worker

/-! The runner's map of worker contexts, and the handlers of the messages that
restart and kick workers, cut at their awaits. -/

namespace RuntimeBridge.Lifecycle

open Library

/-- A context that `createWorkerContext` has made for the row `_worker`. -/
structure WorkerContext (Id : Type) where
  worker : Id
  forceRa : Bool
  status : Status
  /-- Executions of `destroyWorkerContext` that the state machine has begun. -/
  destroying : Nat
  /-- Some execution of `destroyWorkerContext` has ended. -/
  destroyed : Bool
  deriving DecidableEq

/-- The part of a handler that is concerned with one worker. -/
inductive Handler (Id : Type) where
  /-- `await destroyWorkerContext(i, false)` -/
  | destroying (context : Nat) (forceRa : Bool)
  | creating (worker : Id) (forceRa : Bool)
  /-- `await createWorkerContext(...)`, which has made `context`. -/
  | storing (context : Nat)
  | finished
  deriving DecidableEq

/-- Contexts are named by the order of their creation. -/
structure Runner (Id : Type) where
  contexts : List (WorkerContext Id)
  workers : Id → Option Nat
  handlers : List (Handler Id)

inductive RunnerEvent (Id : Type) where
  /-- `runnerShouldRestartWorker`, or `runnerShouldRefreshRaAndRestartWorker`
  with `forceRa`. -/
  | restart (ids : List Id) (forceRa : Bool)
  | kick (ids : List Id)
  /-- The state machine of a context handles an event. -/
  | handle (context : Nat) (event : EVENTS)
  /-- A destruction that the state machine has begun ends. -/
  | destroys (context : Nat) (failed : Bool)
  /-- The await of a handler returns, and the handler goes on to the next. -/
  | proceed (position : Nat)
  /-- What a handler awaits throws. -/
  | reject (position : Nat)
  deriving DecidableEq

section

variable {Id : Type}

namespace WorkerContext

def create (worker : Id) (forceRa : Bool) : WorkerContext Id where
  worker
  forceRa
  status := .S_STARTING
  destroying := 0
  destroyed := false

/-- `onKicked` and `onError` destroy the context, unless the state is the same.
An event without a transition throws. -/
def handle (record : WorkerContext Id) (event : EVENTS) : WorkerContext Id :=
  match transitionTo record.status event with
  | some status =>
      { record with
        status
        destroying :=
          if (event = .ERROR ∨ event = .SHOULD_KICK) ∧ status ≠ record.status
          then record.destroying + 1
          else record.destroying }
  | none => record

def destroys (record : WorkerContext Id) (failed : Bool) : WorkerContext Id :=
  { record with
    destroying := record.destroying - 1
    destroyed := record.destroyed || !failed }

def destroy (record : WorkerContext Id) : WorkerContext Id :=
  { record with destroyed := true }

/-- A change that neither moves a context to another worker nor revives it. -/
def Fading (change : WorkerContext Id → WorkerContext Id) : Prop :=
  ∀ record, (change record).worker = record.worker ∧
    ((change record).destroyed = false → record.destroyed = false)

theorem handle_fading (event : EVENTS) :
    Fading fun record : WorkerContext Id => record.handle event := by
  intro record
  beta_reduce
  unfold handle
  split
  · exact ⟨rfl, fun h => h⟩
  · exact ⟨rfl, fun h => h⟩

theorem destroys_fading (failed : Bool) :
    Fading fun record : WorkerContext Id => record.destroys failed :=
  fun _ => ⟨rfl, fun h => (Bool.or_eq_false_iff.mp h).1⟩

theorem destroy_fading : Fading (destroy : WorkerContext Id → _) :=
  fun _ => ⟨rfl, nofun⟩

end WorkerContext

namespace Runner

/-- The contexts of the map that a message names. -/
def named (runner : Runner Id) (ids : List Id) : List Nat :=
  ids.filterMap runner.workers

/-- `makeRunnerShouldRestartWorker` up to its awaits. -/
def restart (runner : Runner Id) (ids : List Id) (forceRa : Bool) : Runner Id :=
  { runner with
    handlers := runner.handlers ++
      (runner.named ids).map (.destroying · forceRa) }

def update (runner : Runner Id) (context : Nat)
    (change : WorkerContext Id → WorkerContext Id) : Runner Id :=
  { runner with contexts := runner.contexts.modify context change }

/-- `makeRunnerShouldKickWorker` -/
def kick (runner : Runner Id) (ids : List Id) : Runner Id :=
  (runner.named ids).foldl
    (fun runner context => runner.update context (·.handle .SHOULD_KICK)) runner

def setHandler (runner : Runner Id) (position : Nat) (handler : Handler Id) :
    Runner Id :=
  { runner with handlers := runner.handlers.set position handler }

/-- `createWorkerContext`, whose body has no await of its own. -/
def create (runner : Runner Id) (position : Nat) (worker : Id)
    (forceRa : Bool) : Runner Id :=
  { runner with
    contexts := runner.contexts ++ [.create worker forceRa]
    handlers := runner.handlers.set position (.storing runner.contexts.length) }

/-- `context.workers[i._worker.id] = ...` -/
def store [DecidableEq Id] (runner : Runner Id) (position context : Nat)
    (record : WorkerContext Id) : Runner Id :=
  { runner with
    workers := Function.update runner.workers record.worker (some context)
    handlers := runner.handlers.set position .finished }

def proceed [DecidableEq Id] (runner : Runner Id) (position : Nat) :
    Option (Runner Id) :=
  match runner.handlers[position]? with
  | some (.destroying context forceRa) =>
      (runner.contexts[context]?).map fun record =>
        (runner.update context (·.destroy)).setHandler position
          (.creating record.worker forceRa)
  | some (.creating worker forceRa) =>
      some (runner.create position worker forceRa)
  | some (.storing context) =>
      (runner.contexts[context]?).map (runner.store position context)
  | some .finished => none
  | none => none

def step [DecidableEq Id] (runner : Runner Id) :
    RunnerEvent Id → Option (Runner Id)
  | .restart ids forceRa => some (runner.restart ids forceRa)
  | .kick ids => some (runner.kick ids)
  | .handle context event => some (runner.update context (·.handle event))
  | .destroys context failed =>
      match runner.contexts[context]? with
      | some record =>
          if 0 < record.destroying then
            some (runner.update context (·.destroys failed))
          else
            none
      | none => none
  | .proceed position => runner.proceed position
  | .reject position =>
      match runner.handlers[position]? with
      | some (.destroying _ _) => some (runner.setHandler position .finished)
      | some (.creating _ _) => some (runner.setHandler position .finished)
      | _ => none

/-- The context has been created for the worker and has not been destroyed. -/
def live [DecidableEq Id] (runner : Runner Id) (worker : Id) (context : Nat) :
    Bool :=
  (runner.contexts[context]?).any fun record =>
    decide (record.worker = worker) && !record.destroyed

/-- What the map holds for the worker has been destroyed. -/
def free [DecidableEq Id] (runner : Runner Id) (worker : Id) : Bool :=
  (runner.workers worker).all fun context => !runner.live worker context

/-- No handler has yet to store a context that is live. -/
def settled [DecidableEq Id] (runner : Runner Id) (worker : Id) : Bool :=
  runner.handlers.all fun handler =>
    match handler with
    | .storing context => !runner.live worker context
    | _ => true

/-- A handler creates a context, or stores it, over destroyed ones only. -/
def overDestroyed [DecidableEq Id] (runner : Runner Id) :
    RunnerEvent Id → Bool
  | .proceed position =>
      match runner.handlers[position]? with
      | some (.creating worker _) =>
          runner.free worker && runner.settled worker
      | some (.storing context) =>
          (runner.contexts[context]?).all fun record =>
            runner.free record.worker
      | _ => true
  | _ => true

end Runner

/-- `startWorkers` creates a context for every row; nothing else is running. -/
def runnerMachine [DecidableEq Id] (ids : List Id) :
    Machine (Runner Id) (RunnerEvent Id) where
  start :=
    { contexts := []
      workers := fun _ => none
      handlers := ids.map (.creating · false) }
  step := Runner.step

def destroyedFirst [DecidableEq Id] (runner : Runner Id)
    (event : RunnerEvent Id) : Prop :=
  runner.overDestroyed event = true

/-- A worker has at most one live context.  The map holds it, unless the handler
that has created it is still at its await. -/
def OneLive [DecidableEq Id] (runner : Runner Id) : Prop :=
  ∀ worker context, runner.live worker context = true →
    (∀ other, runner.live worker other = true → other = context) ∧
      (runner.workers worker = some context ∨
        .storing context ∈ runner.handlers)

structure RunnerOk [DecidableEq Id] (runner : Runner Id) : Prop where
  mapped : ∀ worker context, runner.workers worker = some context →
    ∃ record, runner.contexts[context]? = some record ∧ record.worker = worker
  once : ∀ context, runner.handlers.count (.storing context) ≤ 1
  created : ∀ context, .storing context ∈ runner.handlers →
    context < runner.contexts.length
  unstored : ∀ worker context, .storing context ∈ runner.handlers →
    runner.workers worker ≠ some context
  one : OneLive runner

/-- A step that creates nothing and stores nothing. -/
structure Fades [DecidableEq Id] (before after : Runner Id) : Prop where
  workers : after.workers = before.workers
  storing : ∀ context, after.handlers.count (.storing context) =
    before.handlers.count (.storing context)
  contexts : ∃ change : Nat → WorkerContext Id → WorkerContext Id,
    (∀ context, WorkerContext.Fading (change context)) ∧
    ∀ context, after.contexts[context]? =
      (before.contexts[context]?).map (change context)

variable [DecidableEq Id] {runner before middle after : Runner Id}
  {worker : Id} {context position : Nat} {handler old : Handler Id}

theorem live_iff : runner.live worker context = true ↔
    ∃ record, runner.contexts[context]? = some record ∧
      record.worker = worker ∧ record.destroyed = false := by
  unfold Runner.live
  cases runner.contexts[context]? with
  | none => simp
  | some record => simp

theorem count_set {handlers : List (Handler Id)}
    (h : handlers[position]? = some old) (other : Handler Id) :
    (handlers.set position handler).count other =
      handlers.count other - (if old = other then 1 else 0) +
        if handler = other then 1 else 0 := by
  obtain ⟨hlt, heq⟩ := List.getElem?_eq_some_iff.mp h
  rw [List.count_set hlt, heq]
  simp only [beq_iff_eq]

namespace Fades

theorem refl (runner : Runner Id) : Fades runner runner where
  workers := rfl
  storing := fun _ => rfl
  contexts := ⟨fun _ record => record, fun _ _ => ⟨rfl, fun h => h⟩,
    fun _ => Option.map_id'.symm⟩

theorem trans (first : Fades before middle) (second : Fades middle after) :
    Fades before after where
  workers := second.workers.trans first.workers
  storing := fun context =>
    (second.storing context).trans (first.storing context)
  contexts := by
    obtain ⟨change, hchange, hmiddle⟩ := first.contexts
    obtain ⟨other, hother, hafter⟩ := second.contexts
    refine ⟨fun context record => other context (change context record), ?_, ?_⟩
    · intro context record
      obtain ⟨hworker, hlive⟩ := hchange context record
      obtain ⟨hworker', hlive'⟩ := hother context (change context record)
      exact ⟨hworker'.trans hworker, fun h => hlive (hlive' h)⟩
    · intro context
      rw [hafter, hmiddle, Option.map_map]
      rfl

theorem update {change : WorkerContext Id → WorkerContext Id}
    (hchange : WorkerContext.Fading change) :
    Fades runner (runner.update context change) where
  workers := rfl
  storing := fun _ => rfl
  contexts := by
    refine ⟨fun other record => if context = other then change record else record,
      fun other record => ?_, fun other => ?_⟩
    · beta_reduce
      split
      · exact hchange record
      · exact ⟨rfl, fun h => h⟩
    · exact List.getElem?_modify ..

/-- A handler moves on, before its creation or without one. -/
theorem setHandler (hold : runner.handlers[position]? = some old)
    (hbefore : ∀ context, old ≠ .storing context)
    (hafter : ∀ context, handler ≠ .storing context) :
    Fades runner (runner.setHandler position handler) where
  workers := rfl
  storing := fun context => by
    rw [Runner.setHandler, count_set hold, if_neg (hbefore context),
      if_neg (hafter context)]
    rfl
  contexts := (refl runner).contexts

theorem live (h : Fades before after)
    (hlive : after.live worker context = true) :
    before.live worker context = true := by
  obtain ⟨change, hchange, hcontexts⟩ := h.contexts
  obtain ⟨record, hrecord, hworker, hdestroyed⟩ := live_iff.mp hlive
  rw [hcontexts] at hrecord
  obtain ⟨old, hold, rfl⟩ := Option.map_eq_some_iff.mp hrecord
  obtain ⟨hsame, hkept⟩ := hchange context old
  exact live_iff.mpr ⟨old, hold, hsame.symm.trans hworker, hkept hdestroyed⟩

theorem mem (h : Fades before after) :
    .storing context ∈ after.handlers ↔ .storing context ∈ before.handlers := by
  rw [← List.count_pos_iff, h.storing, List.count_pos_iff]

theorem ok (h : Fades before after) (hok : RunnerOk before) :
    RunnerOk after where
  mapped := fun worker context hcontext => by
    obtain ⟨change, hchange, hcontexts⟩ := h.contexts
    rw [h.workers] at hcontext
    obtain ⟨record, hrecord, hworker⟩ := hok.mapped worker context hcontext
    refine ⟨change context record, ?_, (hchange context record).1.trans hworker⟩
    rw [hcontexts, hrecord]
    rfl
  once := fun context => by
    rw [h.storing]
    exact hok.once context
  created := fun context hmem => by
    obtain ⟨change, -, hcontexts⟩ := h.contexts
    have hlt := hok.created context (h.mem.mp hmem)
    have hsome := hcontexts context
    rw [List.getElem?_eq_getElem hlt] at hsome
    exact (List.getElem?_eq_some_iff.mp hsome).1
  unstored := fun worker context hmem => by
    rw [h.workers]
    exact hok.unstored worker context (h.mem.mp hmem)
  one := fun worker context hlive => by
    obtain ⟨hone, hheld⟩ := hok.one worker context (h.live hlive)
    refine ⟨fun other hother => hone other (h.live hother), ?_⟩
    rw [h.workers, h.mem]
    exact hheld

end Fades

theorem kick_fades (runner : Runner Id) (ids : List Id) :
    Fades runner (runner.kick ids) := by
  have hfold : ∀ (contexts : List Nat) (current : Runner Id),
      Fades current (contexts.foldl (fun runner context =>
        runner.update context (·.handle .SHOULD_KICK)) current) := by
    intro contexts
    induction contexts with
    | nil => exact fun current => Fades.refl current
    | cons context rest ih =>
        intro current
        exact (Fades.update (WorkerContext.handle_fading .SHOULD_KICK)).trans
          (ih _)
  exact hfold _ runner

theorem restart_fades (runner : Runner Id) (ids : List Id) (forceRa : Bool) :
    Fades runner (runner.restart ids forceRa) where
  workers := rfl
  storing := fun context => by
    have hnone : ((runner.named ids).map fun other =>
        (.destroying other forceRa : Handler Id)).count
          (.storing context) = 0 := by
      rw [List.count_eq_zero]
      simp
    rw [Runner.restart, List.count_append, hnone, Nat.add_zero]
  contexts := (Fades.refl runner).contexts

/-- Before a handler creates or stores, nothing of the worker is live. -/
theorem RunnerOk.idle_iff (h : RunnerOk runner) :
    (runner.free worker && runner.settled worker) = true ↔
      ∀ context, runner.live worker context = false := by
  simp only [Bool.and_eq_true, Runner.free, Runner.settled,
    Option.all_eq_true, List.all_eq_true, Bool.not_eq_true']
  constructor
  · rintro ⟨hfree, hsettled⟩ context
    cases hlive : runner.live worker context with
    | false => rfl
    | true =>
        rcases (h.one worker context hlive).2 with hstored | hstoring
        · rw [hfree context hstored] at hlive
          contradiction
        · have hdead := hsettled _ hstoring
          simp only [Bool.not_eq_true'] at hdead
          rw [hdead] at hlive
          contradiction
  · intro hdead
    refine ⟨fun context _ => hdead context, fun handler _ => ?_⟩
    split
    · rw [hdead]
      rfl
    · rfl

theorem live_create {other : Id} {forceRa : Bool} :
    (runner.create position worker forceRa).live other context = true ↔
      runner.live other context = true ∨
        worker = other ∧ context = runner.contexts.length := by
  simp only [live_iff, Runner.create]
  rcases Nat.lt_trichotomy context runner.contexts.length with hlt | rfl | hgt
  · rw [List.getElem?_append_left hlt]
    have hne : context ≠ runner.contexts.length := Nat.ne_of_lt hlt
    simp only [hne, and_false, or_false]
  · rw [List.getElem?_concat_length]
    simp [WorkerContext.create]
  · rw [List.getElem?_eq_none (by simp; omega),
      List.getElem?_eq_none (by omega)]
    have hne : context ≠ runner.contexts.length := Nat.ne_of_gt hgt
    simp [hne]

theorem live_lt (h : runner.live worker context = true) :
    context < runner.contexts.length := by
  obtain ⟨record, hrecord, -⟩ := live_iff.mp h
  exact (List.getElem?_eq_some_iff.mp hrecord).1

theorem count_create {forceRa : Bool}
    (hold : runner.handlers[position]? = some (.creating worker forceRa))
    (context : Nat) :
    (runner.create position worker forceRa).handlers.count (.storing context) =
      runner.handlers.count (.storing context) +
        if runner.contexts.length = context then 1 else 0 := by
  rw [Runner.create, count_set hold]
  simp

theorem RunnerOk.create {forceRa : Bool} (h : RunnerOk runner)
    (hold : runner.handlers[position]? = some (.creating worker forceRa))
    (hidle : ∀ context, runner.live worker context = false) :
    RunnerOk (runner.create position worker forceRa) := by
  have hcount := count_create hold
  have hlast : .storing runner.contexts.length ∉ runner.handlers :=
    fun hmem => Nat.lt_irrefl _ (h.created _ hmem)
  have hmem : ∀ context, .storing context ∈
      (runner.create position worker forceRa).handlers ↔
        .storing context ∈ runner.handlers ∨
          context = runner.contexts.length := by
    intro context
    rw [← List.count_pos_iff, hcount, ← List.count_pos_iff]
    split <;> omega
  refine { mapped := ?_, once := ?_, created := ?_, unstored := ?_, one := ?_ }
  · intro other context hcontext
    obtain ⟨record, hrecord, hworker⟩ := h.mapped other context hcontext
    refine ⟨record, ?_, hworker⟩
    exact (List.getElem?_append_left
      (List.getElem?_eq_some_iff.mp hrecord).1).trans hrecord
  · intro context
    have hle := h.once context
    rw [hcount]
    split
    · next heq =>
        exact Nat.le_of_eq (by rw [← heq, List.count_eq_zero.mpr hlast])
    · exact hle
  · intro context hstoring
    rw [Runner.create, List.length_append, List.length_singleton]
    rcases (hmem context).mp hstoring with hbefore | rfl
    · exact Nat.lt_succ_of_lt (h.created context hbefore)
    · exact Nat.lt_succ_self _
  · intro other context hstoring hstored
    rcases (hmem context).mp hstoring with hbefore | rfl
    · exact h.unstored other context hbefore hstored
    · obtain ⟨record, hrecord, -⟩ := h.mapped other _ hstored
      exact Nat.lt_irrefl _ (List.getElem?_eq_some_iff.mp hrecord).1
  · intro other context hlive
    rcases live_create.mp hlive with hbefore | ⟨rfl, rfl⟩
    · have hne : worker ≠ other := by
        rintro rfl
        rw [hidle] at hbefore
        contradiction
      obtain ⟨hone, hheld⟩ := h.one other context hbefore
      refine ⟨fun third hthird => ?_, ?_⟩
      · rcases live_create.mp hthird with hthird | ⟨heq, -⟩
        · exact hone third hthird
        · exact absurd heq hne
      · rw [hmem]
        exact hheld.imp id Or.inl
    · refine ⟨fun third hthird => ?_, Or.inr ((hmem _).mpr (Or.inr rfl))⟩
      rcases live_create.mp hthird with hthird | ⟨-, heq⟩
      · rw [hidle] at hthird
        contradiction
      · exact heq

theorem RunnerOk.store {record : WorkerContext Id} (h : RunnerOk runner)
    (hold : runner.handlers[position]? = some (.storing context))
    (hrecord : runner.contexts[context]? = some record)
    (hfree : runner.free record.worker = true) :
    RunnerOk (runner.store position context record) := by
  have hbefore : .storing context ∈ runner.handlers :=
    List.mem_of_getElem? hold
  have hcount : ∀ other,
      (runner.store position context record).handlers.count (.storing other) =
        runner.handlers.count (.storing other) -
          if context = other then 1 else 0 := by
    intro other
    rw [Runner.store, count_set hold]
    simp
  have hmem : ∀ other, .storing other ∈
      (runner.store position context record).handlers ↔
        .storing other ∈ runner.handlers ∧ other ≠ context := by
    intro other
    have honce := h.once other
    rw [← List.count_pos_iff, hcount, ← List.count_pos_iff]
    split <;> omega
  have hself : (runner.store position context record).workers record.worker =
      some context := Function.update_self ..
  have hothers : ∀ other, other ≠ record.worker →
      (runner.store position context record).workers other =
        runner.workers other := fun other hne => Function.update_of_ne hne ..
  refine { mapped := ?_, once := ?_, created := ?_, unstored := ?_, one := ?_ }
  · refine update_forall h.mapped fun stored hnew => ?_
    cases Option.some.inj hnew
    exact ⟨record, hrecord, rfl⟩
  · intro other
    have honce := h.once other
    rw [hcount]
    omega
  · intro other hstoring
    exact h.created other ((hmem other).mp hstoring).1
  · intro other storing hstoring
    obtain ⟨hkept, hne⟩ := (hmem storing).mp hstoring
    intro hstored
    rcases update_some_cases hstored with ⟨-, hnew⟩ | ⟨-, hold⟩
    · exact hne (Option.some.inj hnew).symm
    · exact h.unstored other storing hkept hold
  · intro other live hlive
    obtain ⟨hone, hheld⟩ := h.one other live hlive
    refine ⟨hone, ?_⟩
    by_cases heq : live = context
    · subst heq
      obtain ⟨found, hfound, rfl, -⟩ := live_iff.mp hlive
      cases Option.some.inj (hrecord.symm.trans hfound)
      exact Or.inl hself
    · rcases hheld with hstored | hstoring
      · refine Or.inl ?_
        rw [hothers other, hstored]
        rintro rfl
        rw [Runner.free, hstored, Option.all_some, Bool.not_eq_true'] at hfree
        exact absurd (hfree.symm.trans hlive) nofun
      · exact Or.inr ((hmem live).mpr ⟨hstoring, heq⟩)

theorem Runner.step_cases {event : RunnerEvent Id}
    (taken : before.step event = some after) :
    Fades before after ∧ before.overDestroyed event = true ∨
      (∃ position worker forceRa, event = .proceed position ∧
        before.handlers[position]? = some (.creating worker forceRa) ∧
        after = before.create position worker forceRa) ∨
      ∃ position context record, event = .proceed position ∧
        before.handlers[position]? = some (.storing context) ∧
        before.contexts[context]? = some record ∧
        after = before.store position context record := by
  cases event with
  | restart ids forceRa =>
      cases taken
      exact Or.inl ⟨restart_fades before ids forceRa, rfl⟩
  | kick ids =>
      cases taken
      exact Or.inl ⟨kick_fades before ids, rfl⟩
  | handle context event =>
      cases taken
      exact Or.inl ⟨Fades.update (WorkerContext.handle_fading event), rfl⟩
  | destroys context failed =>
      simp only [step] at taken
      split at taken
      · split at taken
        · cases taken
          exact Or.inl ⟨Fades.update (WorkerContext.destroys_fading failed), rfl⟩
        · cases taken
      · cases taken
  | proceed position =>
      simp only [step, proceed] at taken
      split at taken
      · next context forceRa hold =>
          obtain ⟨record, -, rfl⟩ := Option.map_eq_some_iff.mp taken
          refine Or.inl ⟨?_, by simp [overDestroyed, hold]⟩
          exact (Fades.update WorkerContext.destroy_fading).trans
            (Fades.setHandler hold nofun nofun)
      · next worker forceRa hold =>
          cases taken
          exact Or.inr (Or.inl ⟨position, worker, forceRa, rfl, hold, rfl⟩)
      · next context hold =>
          obtain ⟨record, hrecord, rfl⟩ := Option.map_eq_some_iff.mp taken
          exact Or.inr (Or.inr
            ⟨position, context, record, rfl, hold, hrecord, rfl⟩)
      · cases taken
      · cases taken
  | reject position =>
      simp only [step] at taken
      split at taken
      · next hold =>
          cases taken
          exact Or.inl ⟨Fades.setHandler hold nofun nofun, rfl⟩
      · next hold =>
          cases taken
          exact Or.inl ⟨Fades.setHandler hold nofun nofun, rfl⟩
      · cases taken

theorem runnerOk_step {event : RunnerEvent Id} (h : RunnerOk before)
    (hguard : destroyedFirst before event)
    (taken : before.step event = some after) : RunnerOk after := by
  rcases Runner.step_cases taken with ⟨hfades, -⟩ |
    ⟨position, worker, forceRa, rfl, hold, rfl⟩ |
    ⟨position, context, record, rfl, hold, hrecord, rfl⟩
  · exact hfades.ok h
  · simp only [destroyedFirst, Runner.overDestroyed, hold] at hguard
    exact h.create hold (h.idle_iff.mp hguard)
  · simp only [destroyedFirst, Runner.overDestroyed, hold, hrecord,
      Option.all_some] at hguard
    exact h.store hold hrecord hguard

/-- A context that is created or stored over a live one is one too many. -/
theorem destroyedFirst_of_oneLive {event : RunnerEvent Id}
    (h : RunnerOk before) (taken : before.step event = some after)
    (hone : OneLive after) : destroyedFirst before event := by
  rcases Runner.step_cases taken with ⟨-, hguard⟩ |
    ⟨position, worker, forceRa, rfl, hold, rfl⟩ |
    ⟨position, context, record, rfl, hold, hrecord, rfl⟩
  · exact hguard
  · simp only [destroyedFirst, Runner.overDestroyed, hold]
    refine h.idle_iff.mpr fun context => ?_
    cases hlive : before.live worker context with
    | false => rfl
    | true =>
        have hnew := (hone worker context
          (live_create.mpr (Or.inl hlive))).1 before.contexts.length
            (live_create.mpr (Or.inr ⟨rfl, rfl⟩))
        exact absurd (live_lt hlive) (by omega)
  · simp only [destroyedFirst, Runner.overDestroyed, hold, hrecord,
      Option.all_some, Runner.free, Option.all_eq_true, Bool.not_eq_true']
    intro other hstored
    cases hlive : before.live record.worker other with
    | false => rfl
    | true =>
        have hunstored := h.unstored record.worker other
        rcases (hone record.worker other hlive).2 with hnow | hstoring
        · have hself : (before.store position context record).workers
              record.worker = some context := Function.update_self ..
          rw [hself] at hnow
          cases hnow
          exact absurd hstored (hunstored (List.mem_of_getElem? hold))
        · rcases List.mem_or_eq_of_mem_set hstoring with hmem | heq
          · exact absurd hstored (hunstored hmem)
          · cases heq

theorem runnerOk_reaches {ids : List Id}
    (h : (runnerMachine ids).Reaches destroyedFirst runner) :
    RunnerOk runner := by
  have hpreserved : (runnerMachine ids).Preserves destroyedFirst
      fun runner => RunnerOk runner := by
    intro before event after hguard hbefore taken
    exact runnerOk_step hbefore hguard taken
  have hnone : ∀ context, .storing context ∉
      (runnerMachine ids).start.handlers := by
    intro context hmem
    obtain ⟨worker, -, heq⟩ := List.mem_map.mp hmem
    cases heq
  refine hpreserved.reaches ?_ h
  exact
    { mapped := nofun
      once := fun context => by
        rw [List.count_eq_zero.mpr (hnone context)]
        exact Nat.zero_le 1
      created := fun context hmem => absurd hmem (hnone context)
      unstored := fun worker context hmem => absurd hmem (hnone context)
      one := nofun }

/-- While contexts are created and stored over destroyed ones only, a worker has
at most one live context, and the map holds it as soon as the handler that has
created it is past its await.  Any other step breaks this. -/
theorem contexts_unique (ids : List Id) (runner : Runner Id)
    (h : (runnerMachine ids).Reaches destroyedFirst runner) :
    (∀ worker context, runner.live worker context = true →
      (∀ other, runner.live worker other = true → other = context) ∧
        (runner.workers worker = some context ↔
          .storing context ∉ runner.handlers)) ∧
    ∀ event after, (runnerMachine ids).step runner event = some after →
      (OneLive after ↔ destroyedFirst runner event) := by
  have hok := runnerOk_reaches h
  refine ⟨fun worker context hlive => ?_, fun event after taken => ?_⟩
  · obtain ⟨hone, hheld⟩ := hok.one worker context hlive
    refine ⟨hone, fun hstored hmem => ?_, fun hpast => ?_⟩
    · exact hok.unstored worker context hmem hstored
    · exact hheld.resolve_right hpast
  · exact ⟨destroyedFirst_of_oneLive hok taken,
      fun hguard => (runnerOk_step hok hguard taken).one⟩

end

/-- The worker is started and restarted. -/
def restartsOnce : List (RunnerEvent Nat) :=
  [.proceed 0, .proceed 0, .restart [0] false, .proceed 1, .proceed 1,
    .proceed 1]

theorem contexts_unique_restarted :
    ((runnerMachine [0]).endedIf Runner.overDestroyed restartsOnce).workers 0 =
        some 1 ∧
      ∀ other, ((runnerMachine [0]).endedIf Runner.overDestroyed
        restartsOnce).live 0 other = true → other = 1 :=
  ⟨rfl, ((contexts_unique [0] _
    (Machine.reaches_endedIf (fun _ _ h => h) rfl)).1 0 1 rfl).1⟩

/-- A restart and a refresh find the same context, and each creates one. -/
def restartsTwice : List (RunnerEvent Nat) :=
  [.proceed 0, .proceed 0, .restart [0] false, .restart [0] true, .proceed 1,
    .proceed 2, .proceed 1, .proceed 2, .proceed 1, .proceed 2]

theorem contexts_two_live :
    ¬ ∀ runner : Runner Nat, (runnerMachine [0]).Reachable runner →
      ∀ worker context, runner.live worker context = true →
        (∀ other, runner.live worker other = true → other = context) ∧
          runner.workers worker = some context := by
  intro hclaim
  have hlast := hclaim ((runnerMachine [0]).ended restartsTwice)
    (Machine.reachable_ended rfl) 0 2 rfl
  exact absurd (hlast.1 1 rfl) (by decide)

end RuntimeBridge.Lifecycle
