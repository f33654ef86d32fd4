import RuntimeBridge.Lifecycle.LoopDeath
import RuntimeBridge.Lifecycle.StoppedSync

/-! What a destroyed context still does: `destroyWorkerContext` clears the queue
and stops the loops, but it does not stop the action that is suspended. -/

namespace RuntimeBridge.Lifecycle

open Library

/-- The message loop goes on to one more `dispatchTx`: the check of `shouldStop`
stands before the wait. -/
def MessageSync.Acts (state : MessageSync) : Prop :=
  state.loop = .next ∨ state.dispatching = false ∧
    ∃ attempt ignore, state.loop = .running () attempt ignore

structure MessageSync.Stopped (state : MessageSync) : Prop where
  shouldStop : state.shouldStop = true
  settled : state.synchedToTargetPromise.isSettled = true

namespace Worker

def SyncResolves (worker : Worker) : Prop :=
  ∃ sync, worker.sync = some sync ∧ sync.CanResolve

def MessageResolved (worker : Worker) : Prop :=
  ∃ message, worker.message = some message ∧
    message.synchedToTargetPromise = .resolved ()

/-- The suspended action can still dispatch a transaction or start loops, though
the loops that run are stopped. -/
def AwaitActs (worker : Worker) : Prop :=
  match worker.await with
  | .nothing | .restarting | .startComputing => False
  | .initRuntime =>
      worker.status = .S_STARTING ∧ .init ∈ worker.innerTxQueue.tasks
  | .workerAssignments | .subscribeOnChainState => worker.status = .S_STARTING
  | .waitUntilSynched =>
      worker.status = .S_SYNCHING ∧
        (worker.settings.forceRa = true ∨ worker.settings.syncOnly = false) ∧
        worker.SyncResolves
  | .registerWorker .onSynched (.registering _) =>
      worker.settings.syncOnly = false ∧
        .dispatchTx .REGISTER_WORKER ∈ worker.innerTxQueue.tasks
  | .registerWorker .onPreActive (.registering _) =>
      .dispatchTx .REGISTER_WORKER ∈ worker.innerTxQueue.tasks
  | .registerWorker _ .adding =>
      .dispatchTx .ADD_WORKER ∈ worker.innerTxQueue.tasks
  | .registerWorker _ _ => True
  | .waitUntilMqSynched =>
      worker.status = .S_SYNCHED ∧ worker.MessageResolved
  | .onChainState | .workerBindings | .stakes | .waitUntilWorkerReady => True

def MessageActs (worker : Worker) : Prop :=
  ∃ message, worker.message = some message ∧ message.Acts

def Quiet (worker : Worker) : Prop :=
  ¬ worker.AwaitActs ∧ ¬ worker.MessageActs

structure Stopped (worker : Worker) : Prop where
  sync : ∀ sync, worker.sync = some sync → sync.shouldStop = true
  message : ∀ message, worker.message = some message → message.Stopped

end Worker

variable {before middle after : Worker} {findings : Findings}

/-- A step of an action that does nothing and will do nothing. -/
structure Hush (before after : Worker) : Prop where
  acts : after.acts = before.acts
  sync : after.sync = before.sync
  message : after.message = before.message
  action : ¬ after.AwaitActs

namespace Hush

theorem quiet (hush : Hush before after) (h : before.Quiet) : after.Quiet := by
  refine ⟨hush.action, ?_⟩
  unfold Worker.MessageActs
  rw [hush.message]
  exact h.2

theorem stopped (hush : Hush before after) (h : before.Stopped) :
    after.Stopped where
  sync := hush.sync ▸ h.sync
  message := hush.message ▸ h.message

theorem of_nothing (await : after.await = .nothing)
    (acts : after.acts = before.acts) (sync : after.sync = before.sync)
    (message : after.message = before.message) : Hush before after where
  acts := acts
  sync := sync
  message := message
  action := by
    unfold Worker.AwaitActs
    rw [await]
    exact fun h => h

theorem of_prepared (h : Hush middle after) (acts : middle.acts = before.acts)
    (sync : middle.sync = before.sync)
    (message : middle.message = before.message) : Hush before after where
  acts := h.acts.trans acts
  sync := h.sync.trans sync
  message := h.message.trans message
  action := h.action

end Hush

namespace Worker

variable (worker : Worker)

theorem throws_hush : Hush worker worker.throws := by
  obtain ⟨_, _, _, hthrows⟩ := worker.throws_cases
  rw [hthrows]
  exact .of_nothing rfl rfl rfl rfl

theorem handle_elsewhere_hush {event : EVENTS}
    (unknown : ∀ next, transitionTo worker.status event ≠ some next)
    (findings : Findings) : Hush worker (worker.handle event findings) := by
  unfold handle
  split
  · next next hnext => exact absurd hnext (unknown next)
  · exact worker.throws_hush

theorem handle_active_hush (findings : Findings) :
    Hush worker (worker.handle .SHOULD_MARK_ACTIVE findings) := by
  by_cases hstatus : worker.status = .S_PRE_ACTIVE
  · unfold handle
    rw [hstatus]
    exact .of_nothing rfl rfl rfl rfl
  · exact worker.handle_elsewhere_hush
      (fun _ hnext => hstatus (known_active hnext).1) findings

theorem startMessages_hush (hsyncOnly : worker.settings.syncOnly = true)
    (findings : Findings) : Hush worker (worker.startMessages findings) := by
  unfold startMessages
  split
  · exact worker.throws_hush
  · exact .of_nothing rfl rfl rfl rfl
  · rw [if_pos hsyncOnly]
    exact .of_nothing rfl rfl rfl rfl

theorem handle_synched_hush
    (h : ¬ (worker.status = .S_SYNCHING ∧ (worker.settings.forceRa = true ∨
      worker.settings.syncOnly = false))) (findings : Findings) :
    Hush worker (worker.handle .SHOULD_MARK_SYNCHED findings) := by
  by_cases hstatus : worker.status = .S_SYNCHING
  · have hsettings : ¬ (worker.settings.forceRa = true ∨
        worker.settings.syncOnly = false) := fun hnoisy => h ⟨hstatus, hnoisy⟩
    rw [not_or, Bool.not_eq_true, Bool.not_eq_false] at hsettings
    unfold handle
    rw [hstatus]
    simp only [transitionTo, act, onSynched, hsettings.1, Bool.false_eq_true,
      if_false]
    refine .of_prepared (startMessages_hush _ ?_ findings) rfl rfl rfl
    exact hsettings.2
  · exact worker.handle_elsewhere_hush
      (fun _ hnext => hstatus (known_synched hnext).1) findings

theorem resumes_hush (quiet : ¬ worker.AwaitActs)
    (taken : worker.resumes findings = some after) : Hush worker after := by
  cases hawait : worker.await with
  | nothing => simp [resumes, hawait] at taken
  | initRuntime => simp [resumes, hawait] at taken
  | restarting => simp [resumes, hawait] at taken
  | startComputing => simp [resumes, hawait] at taken
  | workerAssignments =>
      simp only [resumes, hawait] at taken
      simp only [AwaitActs, hawait] at quiet
      split at taken
      · cases taken
        exact worker.throws_hush
      · cases taken
        exact ⟨rfl, rfl, rfl, quiet⟩
  | subscribeOnChainState =>
      simp only [resumes, hawait] at taken
      simp only [AwaitActs, hawait] at quiet
      cases taken
      exact worker.handle_elsewhere_hush
        (fun _ hnext => quiet (known_synching hnext).1) findings
  | waitUntilSynched =>
      simp only [resumes, hawait] at taken
      simp only [AwaitActs, SyncResolves, hawait] at quiet
      obtain ⟨sync, hsync, taken⟩ := Option.bind_eq_some_iff.mp taken
      split at taken
      · contradiction
      · next value hresolved =>
          cases taken
          refine worker.handle_synched_hush (fun hnoisy => ?_) findings
          refine quiet ⟨hnoisy.1, hnoisy.2, sync, hsync, ?_⟩
          simp only [SyncState.CanResolve, hresolved]
      · cases taken
        exact worker.throws_hush
  | registerWorker caller await =>
      cases await with
      | registering assigned => simp [resumes, registerWorker, hawait] at taken
      | adding => simp [resumes, registerWorker, hawait] at taken
      | workerAssignments => simp [AwaitActs, hawait] at quiet
      | workers assigned => simp [AwaitActs, hawait] at quiet
      | runtimeInfo assigned => simp [AwaitActs, hawait] at quiet
      | initialScore => simp [AwaitActs, hawait] at quiet
  | waitUntilMqSynched =>
      simp only [resumes, hawait] at taken
      simp only [AwaitActs, MessageResolved, hawait] at quiet
      obtain ⟨message, hmessage, taken⟩ := Option.bind_eq_some_iff.mp taken
      split at taken
      · contradiction
      · next value hresolved =>
          cases taken
          exact worker.handle_elsewhere_hush (fun _ hnext =>
            quiet ⟨(known_preActive hnext).1, message, hmessage, hresolved⟩)
            findings
      · cases taken
        exact worker.throws_hush
  | onChainState => simp [AwaitActs, hawait] at quiet
  | workerBindings => simp [AwaitActs, hawait] at quiet
  | stakes => simp [AwaitActs, hawait] at quiet
  | waitUntilWorkerReady => simp [AwaitActs, hawait] at quiet

theorem taskDone_hush (quiet : ¬ worker.AwaitActs)
    (taken : worker.taskDone findings = some after) : Hush worker after := by
  obtain ⟨task, htask, taken⟩ := Option.bind_eq_some_iff.mp taken
  split at taken
  · next hrunning =>
      have htasks : task ∈ worker.innerTxQueue.tasks :=
        PQueue.mem_tasks.mpr (Or.inl hrunning)
      split at taken
      · next hawait =>
          simp only [hawait, Await.task, Option.some.injEq] at htask
          subst htask
          simp only [AwaitActs, hawait] at quiet
          cases taken
          exact ⟨rfl, rfl, rfl, fun hstarting => quiet ⟨hstarting, htasks⟩⟩
      · next caller assigned hawait =>
          simp only [hawait, Await.task, Option.some.injEq] at htask
          subst htask
          cases caller with
          | onSynched =>
              simp only [AwaitActs, hawait, not_and] at quiet
              cases taken
              have hsyncOnly : worker.settings.syncOnly = true := by
                by_contra hfalse
                exact quiet (Bool.not_eq_true _ ▸ hfalse) htasks
              refine .of_prepared (startMessages_hush _ ?_ findings) rfl rfl rfl
              exact hsyncOnly
          | onPreActive =>
              simp only [AwaitActs, hawait] at quiet
              exact absurd htasks quiet
      · next caller hawait =>
          simp only [hawait, Await.task, Option.some.injEq] at htask
          subst htask
          cases caller <;> simp only [AwaitActs, hawait] at quiet <;>
            exact absurd htasks quiet
      · cases taken
        exact (handle_active_hush _ findings).of_prepared rfl rfl rfl
  · contradiction

theorem taskFails_hush (taken : worker.taskFails = some after) :
    Hush worker after := by
  obtain ⟨task, _, taken⟩ := Option.bind_eq_some_iff.mp taken
  split at taken
  · cases taken
    exact (throws_hush _).of_prepared rfl rfl rfl
  · contradiction

theorem awaitFails_hush (taken : worker.awaitFails = some after) :
    Hush worker after := by
  rw [awaitFails_eq worker taken]
  exact worker.throws_hush

end Worker

/-- A step around the suspended action that opens nothing to it. -/
structure Around (before after : Worker) : Prop where
  await : after.await = before.await
  settings : after.settings = before.settings
  status : after.status = before.status ∨ after.status.Down
  sync : after.SyncResolves → before.SyncResolves
  message : after.MessageResolved → before.MessageResolved
  tasks : ∀ task ∈ after.innerTxQueue.tasks, task ∈ before.innerTxQueue.tasks

namespace Around

theorem status_of {status : Status} (around : Around before after)
    (up : ¬ status.Down) (h : after.status = status) :
    before.status = status := by
  rcases around.status with hsame | hdown
  · exact hsame ▸ h
  · exact absurd (h ▸ hdown) up

theorem awaitActs (around : Around before after) (h : after.AwaitActs) :
    before.AwaitActs := by
  unfold Worker.AwaitActs at h ⊢
  rw [around.await, around.settings] at h
  generalize before.await = await at h ⊢
  split at h
  · exact h
  · exact h
  · exact h
  · exact ⟨around.status_of (by simp [Status.Down]) h.1, around.tasks _ h.2⟩
  · exact around.status_of (by simp [Status.Down]) h
  · exact around.status_of (by simp [Status.Down]) h
  · exact ⟨around.status_of (by simp [Status.Down]) h.1, h.2.1,
      around.sync h.2.2⟩
  · exact ⟨h.1, around.tasks _ h.2⟩
  · exact around.tasks _ h
  · exact around.tasks _ h
  · exact True.intro
  · exact ⟨around.status_of (by simp [Status.Down]) h.1, around.message h.2⟩
  · exact True.intro
  · exact True.intro
  · exact True.intro
  · exact True.intro

end Around

namespace MessageSync

variable {state next : MessageSync}

/-- A stopped loop that goes on ends. -/
theorem resumed_stopped (stopped : state.Stopped) :
    state.resumed.Stopped ∧ ¬ state.resumed.Acts ∧
      state.resumed.synchedToTargetPromise = state.synchedToTargetPromise := by
  have htarget : state.synchedToTargetPromise.reject "" =
      state.synchedToTargetPromise :=
    Promise.reject_of_settled stopped.settled ""
  have hresumed : state.resumed =
      { state with loop := .ended, dispatching := false } := by
    unfold resumed
    rw [if_pos stopped.shouldStop, htarget]
  rw [hresumed]
  refine ⟨⟨stopped.shouldStop, stopped.settled⟩, ?_, rfl⟩
  rintro (hnext | ⟨_, _, _, hrunning⟩)
  · cases hnext
  · cases hrunning

theorem failed_stopped (stopped : state.Stopped)
    (taken : state.failed = some next) :
    next.Stopped ∧ ¬ next.Acts ∧
      next.synchedToTargetPromise = state.synchedToTargetPromise := by
  obtain ⟨loop, hloop, rfl⟩ := Option.map_eq_some_iff.mp taken
  obtain ⟨fn, attempt, ignore, _, hfailed | hfailed⟩ := Loop.step_fails hloop
  all_goals
    refine ⟨⟨stopped.shouldStop, stopped.settled⟩, ?_, rfl⟩
    subst hfailed
    rintro (hnext | ⟨_, _, _, hrunning⟩)
    · cases hnext
    · cases hrunning

end MessageSync

namespace Worker

theorem endDestroy_stopped (taken : before.endDestroy = some after) :
    after.Stopped ∧ after.acts = before.acts := by
  unfold endDestroy at taken
  split at taken
  · contradiction
  · cases taken
    refine ⟨⟨fun sync hsync => ?_, fun message hmessage => ?_⟩, rfl⟩
    · obtain ⟨other, _, rfl⟩ := Option.map_eq_some_iff.mp hsync
      rfl
    · obtain ⟨other, _, rfl⟩ := Option.map_eq_some_iff.mp hmessage
      exact ⟨rfl, Promise.isSettled_reject _ _⟩

/-- Stopping the loops makes no action quiet that is not. -/
theorem endDestroy_quiet (taken : before.endDestroy = some after) :
    after.Quiet ↔ before.Quiet := by
  unfold endDestroy at taken
  split at taken
  · contradiction
  · cases taken
    constructor
    · rintro ⟨haction, hmessages⟩
      refine ⟨fun hacts => haction (Around.awaitActs ?_ hacts), ?_⟩
      · exact
          { await := rfl
            settings := rfl
            status := Or.inl rfl
            sync := fun ⟨sync, hsync, hresolves⟩ =>
              ⟨sync.stopSync, by simp [hsync], hresolves⟩
            message := fun ⟨message, hmessage, hresolved⟩ =>
              ⟨message.stopSyncMessage, by simp [hmessage],
                by simp [MessageSync.stopSyncMessage, hresolved,
                  Promise.reject]⟩
            tasks := fun _ member => member }
      · rintro ⟨message, hmessage, hacts⟩
        exact hmessages ⟨message.stopSyncMessage, by simp [hmessage], hacts⟩
    · rintro ⟨haction, hmessages⟩
      refine ⟨fun hacts => haction (Around.awaitActs ?_ hacts), ?_⟩
      · exact
          { await := rfl
            settings := rfl
            status := Or.inl rfl
            sync := by
              rintro ⟨sync, hsync, hresolves⟩
              obtain ⟨other, hother, rfl⟩ := Option.map_eq_some_iff.mp hsync
              exact ⟨other, hother, hresolves⟩
            message := by
              rintro ⟨message, hmessage, hresolved⟩
              obtain ⟨other, hother, rfl⟩ := Option.map_eq_some_iff.mp hmessage
              exact ⟨other, hother, Promise.resolved_of_reject hresolved⟩
            tasks := fun _ member => member }
      · rintro ⟨message, hmessage, hacts⟩
        obtain ⟨other, hother, rfl⟩ := Option.map_eq_some_iff.mp hmessage
        exact hmessages ⟨other, hother, hacts⟩

end Worker

structure Destroyed (worker : Worker) : Prop where
  stopped : worker.Stopped
  quiet : worker.Quiet

namespace Destroyed

theorem of_hush (h : Destroyed before) (hush : Hush before after) :
    Destroyed after ∧ after.acts = before.acts :=
  ⟨⟨hush.stopped h.stopped, hush.quiet h.quiet⟩, hush.acts⟩

theorem of_around (h : Destroyed before) (around : Around before after)
    (stopped : after.Stopped) (messages : ¬ after.MessageActs) :
    Destroyed after :=
  ⟨stopped, fun hacts => h.quiet.1 (around.awaitActs hacts), messages⟩

/-- The state machine handles an event, or a restart begins. -/
theorem of_event (h : Destroyed before) (await : after.await = before.await)
    (settings : after.settings = before.settings)
    (status : after.status = before.status ∨ after.status.Down)
    (sync : after.sync = before.sync) (message : after.message = before.message)
    (tasks : ∀ task ∈ after.innerTxQueue.tasks,
      task ∈ before.innerTxQueue.tasks) : Destroyed after := by
  have haround : Around before after :=
    { await
      settings
      status
      sync := fun ⟨other, hother, hresolves⟩ => ⟨other, sync ▸ hother, hresolves⟩
      message := fun ⟨other, hother, hresolved⟩ =>
        ⟨other, message ▸ hother, hresolved⟩
      tasks }
  refine h.of_around haround ⟨sync ▸ h.stopped.sync,
    message ▸ h.stopped.message⟩ ?_
  rintro ⟨other, hother, hacts⟩
  exact h.quiet.2 ⟨other, message ▸ hother, hacts⟩

theorem of_message (h : Destroyed before) {message next : MessageSync}
    (hmessage : before.message = some message)
    (went : next.Stopped ∧ ¬ next.Acts ∧
      next.synchedToTargetPromise = message.synchedToTargetPromise)
    (await : after.await = before.await)
    (settings : after.settings = before.settings)
    (status : after.status = before.status) (sync : after.sync = before.sync)
    (hnext : after.message = some next)
    (tasks : ∀ task ∈ after.innerTxQueue.tasks,
      task ∈ before.innerTxQueue.tasks) : Destroyed after := by
  have haround : Around before after :=
    { await
      settings
      status := Or.inl status
      sync := fun ⟨other, hother, hresolves⟩ => ⟨other, sync ▸ hother, hresolves⟩
      message := by
        rintro ⟨other, hother, hresolved⟩
        rw [hnext] at hother
        cases hother
        exact ⟨message, hmessage, went.2.2 ▸ hresolved⟩
      tasks }
  refine h.of_around haround ⟨sync ▸ h.stopped.sync, fun other hother => ?_⟩ ?_
  · rw [hnext] at hother
    cases hother
    exact went.1
  · rintro ⟨other, hother, hacts⟩
    rw [hnext] at hother
    cases hother
    exact went.2.1 hacts

theorem messages_quiet (h : Destroyed before) {message : MessageSync}
    (hmessage : before.message = some message) : ¬ message.Acts :=
  fun hacts => h.quiet.2 ⟨message, hmessage, hacts⟩

theorem polls_none (h : Destroyed before) :
    before.setMessage MessageSync.polls = none := by
  cases hmessage : before.message with
  | none => simp [Worker.setMessage, hmessage]
  | some message =>
      have hquiet := h.messages_quiet hmessage
      have hpolls : message.polls = none := by
        unfold MessageSync.polls
        split
        · next hloop => exact absurd (Or.inl hloop) hquiet
        · rfl
      simp [Worker.setMessage, hmessage, hpolls]

theorem messagesFetched_none (h : Destroyed before) (empty : Bool) :
    before.messagesFetched empty = none := by
  cases htaken : before.messagesFetched empty with
  | none => rfl
  | some after =>
      exfalso
      obtain ⟨message, hmessage, taken⟩ := Option.bind_eq_some_iff.mp htaken
      have hquiet := h.messages_quiet hmessage
      split at taken
      · contradiction
      · next hdispatching =>
          have hfree := Bool.not_eq_true _ ▸ hdispatching
          split at taken
          · obtain ⟨loop, hloop, _⟩ := Option.map_eq_some_iff.mp taken
            obtain ⟨_, attempt, ignore, hrunning⟩ := Loop.step_succeeds hloop
            exact hquiet (Or.inr ⟨hfree, attempt, ignore, hrunning⟩)
          · split at taken
            · next hloop => exact hquiet (Or.inr ⟨hfree, _, _, hloop⟩)
            · contradiction

theorem fetchFails_none (h : Destroyed before) :
    (before.setMessage fun message =>
      if message.dispatching then none else message.failed) = none := by
  cases hmessage : before.message with
  | none => simp [Worker.setMessage, hmessage]
  | some message =>
      have hquiet := h.messages_quiet hmessage
      cases hdispatching : message.dispatching with
      | true => simp [Worker.setMessage, hmessage, hdispatching]
      | false =>
          cases hfailed : message.failed with
          | none => simp [Worker.setMessage, hmessage, hdispatching, hfailed]
          | some next =>
              obtain ⟨loop, hloop, _⟩ := Option.map_eq_some_iff.mp hfailed
              obtain ⟨_, attempt, ignore, hrunning, _⟩ := Loop.step_fails hloop
              exact absurd (Or.inr ⟨hdispatching, attempt, ignore, hrunning⟩)
                hquiet

theorem messagesSent (h : Destroyed before) {failed : Bool}
    (taken : before.messagesSent failed = some after) :
    Destroyed after ∧ after.acts = before.acts := by
  obtain ⟨message, hmessage, taken⟩ := Option.bind_eq_some_iff.mp taken
  have hstopped := h.stopped.message message hmessage
  split at taken
  · next hrunning =>
      obtain ⟨next, hnext, rfl⟩ := Option.map_eq_some_iff.mp taken
      refine ⟨h.of_message hmessage ?_ rfl rfl rfl rfl rfl ?_, rfl⟩
      · cases failed with
        | true => exact MessageSync.failed_stopped hstopped hnext
        | false =>
            obtain ⟨loop, _, rfl⟩ := Option.map_eq_some_iff.mp hnext
            exact MessageSync.resumed_stopped hstopped
      · intro task member
        rw [PQueue.tasks_finish hrunning.2] at member
        exact List.mem_of_mem_erase member
  · contradiction

theorem recovers (h : Destroyed before)
    (taken : before.setMessage MessageSync.recovers = some after) :
    Destroyed after ∧ after.acts = before.acts := by
  obtain ⟨next, hnext, rfl⟩ := Option.map_eq_some_iff.mp taken
  obtain ⟨message, hmessage, hrecovers⟩ := Option.bind_eq_some_iff.mp hnext
  obtain ⟨loop, _, rfl⟩ := Option.map_eq_some_iff.mp hrecovers
  have hwent := MessageSync.resumed_stopped (h.stopped.message message hmessage)
  exact ⟨h.of_message hmessage hwent rfl rfl rfl rfl rfl fun _ member => member,
    rfl⟩

theorem synched (h : Destroyed before) {event : SyncEvent}
    {sync next : SyncState} (hsync : before.sync = some sync)
    (taken : sync.step event = some next) :
    Destroyed { before with sync := some next } := by
  obtain ⟨hstop, hresolves⟩ :=
    SyncState.stopped_step (h.stopped.sync sync hsync) taken
  have haround : Around before { before with sync := some next } :=
    { await := rfl
      settings := rfl
      status := Or.inl rfl
      sync := by
        rintro ⟨other, hother, hnext⟩
        cases hother
        exact ⟨sync, hsync, hresolves hnext⟩
      message := fun hresolved => hresolved
      tasks := fun _ member => member }
  refine h.of_around haround ⟨fun other hother => ?_, h.stopped.message⟩ h.quiet.2
  cases hother
  exact hstop

theorem endDestroy (h : Destroyed before)
    (taken : before.endDestroy = some after) :
    Destroyed after ∧ after.acts = before.acts := by
  obtain ⟨hstopped, hacts⟩ := Worker.endDestroy_stopped taken
  exact ⟨⟨hstopped, (Worker.endDestroy_quiet taken).mpr h.quiet⟩, hacts⟩

theorem enters (h : Destroyed before) {status : Status} (down : status.Down)
    (event : EVENTS) :
    Destroyed (before.enters status event) ∧
      (before.enters status event).acts = before.acts := by
  obtain ⟨queue, _, hqueue, hentered⟩ := before.enters_cases status event
  rw [hentered]
  refine ⟨h.of_event rfl rfl (Or.inr down) rfl rfl fun task member => ?_, rfl⟩
  exact (PQueue.tasks_cleared hqueue).subset member

theorem restart (h : Destroyed before) : Destroyed before.beginDestroy :=
  h.of_event rfl rfl (Or.inl rfl) rfl rfl fun _ member =>
    (PQueue.tasks_cleared (Or.inr rfl)).subset member

end Destroyed

theorem destroyed_step (h : Destroyed before) {event : WorkerEvent}
    (taken : before.step event = some after) :
    Destroyed after ∧ after.acts = before.acts := by
  cases event with
  | resumes findings =>
      exact h.of_hush (Worker.resumes_hush before h.quiet.1 taken)
  | awaitFails => exact h.of_hush (Worker.awaitFails_hush before taken)
  | taskDone findings =>
      exact h.of_hush (Worker.taskDone_hush before h.quiet.1 taken)
  | taskFails => exact h.of_hush (Worker.taskFails_hush before taken)
  | sync event =>
      obtain ⟨sync, hsync, taken⟩ := Option.bind_eq_some_iff.mp taken
      obtain ⟨next, hnext, rfl⟩ := Option.map_eq_some_iff.mp taken
      exact ⟨h.synched hsync hnext, rfl⟩
  | messagePolls =>
      rw [Worker.step, h.polls_none] at taken
      contradiction
  | messagesFetched empty =>
      rw [Worker.step, h.messagesFetched_none] at taken
      contradiction
  | fetchFails =>
      rw [Worker.step, h.fetchFails_none] at taken
      contradiction
  | messagesSent failed => exact h.messagesSent taken
  | messageRecovers => exact h.recovers taken
  | updateInfoFails =>
      simp only [Worker.step, Worker.updateInfoFails] at taken
      split at taken
      · cases taken
        have hended : Destroyed { before with updateInfoLoop := false } :=
          h.of_event rfl rfl (Or.inl rfl) rfl rfl fun _ member => member
        exact hended.enters (Or.inl rfl) .ERROR
      · contradiction
  | restart =>
      cases taken
      exact ⟨h.restart, rfl⟩
  | kick =>
      cases taken
      exact h.enters (Or.inr rfl) .SHOULD_KICK
  | endDestroy => exact h.endDestroy taken

end RuntimeBridge.Lifecycle
