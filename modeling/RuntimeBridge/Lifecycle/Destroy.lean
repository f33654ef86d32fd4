import RuntimeBridge.Lifecycle.InnerQueue
import RuntimeBridge.Lifecycle.Quiet

/-! Every await that `destroyWorkerContext` leaves open leads to a transaction or
to new loops, and the others lead to nothing. -/

namespace RuntimeBridge.Lifecycle

open Library

variable {before middle after : Worker} {settings : Settings}

/-- No order of events makes the context act. -/
def Worker.Silent (worker : Worker) (settings : Settings) : Prop :=
  ∀ later, (Lifecycle.worker settings).Leads Machine.anyEvent worker later →
    later.acts = worker.acts

/-- Some order of events makes the context act. -/
def Worker.Noisy (worker : Worker) (settings : Settings) : Prop :=
  ∃ later, (Lifecycle.worker settings).Leads Machine.anyEvent worker later ∧
    later.acts ≠ worker.acts

namespace Noisy

theorem of_leads
    (leads : (worker settings).Leads Machine.anyEvent before middle)
    (acts : middle.acts = before.acts) (noisy : middle.Noisy settings) :
    before.Noisy settings := by
  obtain ⟨later, hlater, hacts⟩ := noisy
  exact ⟨later, leads.trans hlater, acts ▸ hacts⟩

theorem of_step {event : WorkerEvent}
    (taken : before.step event = some middle) (acts : middle.acts = before.acts)
    (noisy : middle.Noisy settings) : before.Noisy settings :=
  of_leads (Machine.Next.leads ⟨event, True.intro, taken⟩) acts noisy

theorem of_act {event : WorkerEvent} (taken : before.step event = some after)
    {act : Act} (acts : after.acts = before.acts ++ [act]) :
    before.Noisy settings :=
  ⟨after, Machine.Next.leads ⟨event, True.intro, taken⟩, by simp [acts]⟩

end Noisy

/-- What an action finds that goes on as far as it can. -/
def willing (state : SessionState) : Findings where
  assigned := none
  shouldRegister := true
  scored := true
  sessionState := some state
  stakeRaised := true
  info := { headernum := 0, paraHeadernum := 0, blocknum := 0 }
  fetchStatus := none

namespace Worker

variable {worker : Worker}

theorem noisy_stakes (h : worker.await = .stakes) : worker.Noisy settings := by
  have taken : worker.step (.resumes (willing .ready)) =
      some (worker.dispatchTx .RESTART_COMPUTING .restarting) := by
    simp [step, resumes, h, willing]
  exact Noisy.of_act taken rfl

theorem noisy_workerBindings (h : worker.await = .workerBindings) :
    worker.Noisy settings := by
  have taken : worker.step (.resumes (willing .ready)) =
      some { worker with await := .stakes } := by
    simp [step, resumes, h]
  exact Noisy.of_step taken rfl (noisy_stakes rfl)

theorem noisy_initialScore {caller : Caller}
    (h : worker.await = .registerWorker caller .initialScore) :
    worker.Noisy settings := by
  have taken : worker.step (.resumes (willing .ready)) =
      some (worker.dispatchTx .ADD_WORKER (.registerWorker caller .adding)) := by
    simp [step, resumes, registerWorker, h, willing]
  exact Noisy.of_act taken rfl

theorem noisy_runtimeInfo {caller : Caller} {assigned : Bool}
    (h : worker.await = .registerWorker caller (.runtimeInfo assigned)) :
    worker.Noisy settings := by
  have taken : worker.step (.resumes (willing .ready)) =
      some (worker.dispatchTx .REGISTER_WORKER
        (.registerWorker caller (.registering assigned))) := by
    simp [step, resumes, registerWorker, h]
  exact Noisy.of_act taken rfl

theorem noisy_workers {caller : Caller} {assigned : Bool}
    (h : worker.await = .registerWorker caller (.workers assigned)) :
    worker.Noisy settings := by
  have taken : worker.step (.resumes (willing .ready)) = some { worker with
      await := .registerWorker caller (.runtimeInfo assigned) } := by
    simp [step, resumes, registerWorker, h, willing]
  exact Noisy.of_step taken rfl (noisy_runtimeInfo rfl)

theorem noisy_registerWorker {caller : Caller}
    (h : worker.await = .registerWorker caller .workerAssignments) :
    worker.Noisy settings := by
  have taken : worker.step (.resumes (willing .ready)) = some { worker with
      await := .registerWorker caller (.workers false) } := by
    simp [step, resumes, registerWorker, h, willing]
  exact Noisy.of_step taken rfl (noisy_workers rfl)

theorem noisy_onChainState (h : worker.await = .onChainState) :
    worker.Noisy settings := by
  have taken : worker.step (.resumes (willing .ready)) = some { worker with
      await := .registerWorker .onPreActive .workerAssignments } := by
    simp [step, resumes, h]
  exact Noisy.of_step taken rfl (noisy_registerWorker rfl)

theorem noisy_waitUntilWorkerReady (h : worker.await = .waitUntilWorkerReady) :
    worker.Noisy settings := by
  have taken : worker.step (.resumes (willing .ready)) =
      some (worker.dispatchTx .START_COMPUTING .startComputing) := by
    simp [step, resumes, h, willing]
  exact Noisy.of_act taken rfl

theorem noisy_waitUntilMqSynched (h : worker.await = .waitUntilMqSynched)
    (hstatus : worker.status = .S_SYNCHED) (hmessage : worker.MessageResolved) :
    worker.Noisy settings := by
  obtain ⟨message, hmessage, hresolved⟩ := hmessage
  have taken : worker.step (.resumes (willing .ready)) =
      some { worker.entered .S_PRE_ACTIVE .SHOULD_MARK_PRE_ACTIVE with
        await := .onChainState } := by
    simp [step, resumes, h, hmessage, hresolved, handle, hstatus, transitionTo,
      act, entered]
  exact Noisy.of_step taken rfl (noisy_onChainState rfl)

theorem startMessages_acts (h : worker.settings.syncOnly = false) :
    (worker.startMessages (willing .ready)).acts =
      worker.acts ++ [.startSyncMessage] := by
  simp [startMessages, willing, h]

theorem noisy_subscribeOnChainState (h : worker.await = .subscribeOnChainState)
    (hstatus : worker.status = .S_STARTING) : worker.Noisy settings := by
  have taken : worker.step (.resumes (willing .ready)) =
      some ((worker.entered .S_SYNCHING .SHOULD_MARK_SYNCHING).onSynching
        (willing .ready)) := by
    simp [step, resumes, h, handle, hstatus, transitionTo, act, entered]
  exact Noisy.of_act taken rfl

theorem noisy_workerAssignments (h : worker.await = .workerAssignments)
    (hstatus : worker.status = .S_STARTING) : worker.Noisy settings := by
  have taken : worker.step (.resumes (willing .ready)) =
      some { worker with await := .subscribeOnChainState } := by
    simp [step, resumes, h, willing]
  exact Noisy.of_step taken rfl (noisy_subscribeOnChainState rfl hstatus)

theorem noisy_onSynched (h : worker.await = .waitUntilSynched)
    (hstatus : worker.status = .S_SYNCHING)
    (hsettings : worker.settings.forceRa = true ∨
      worker.settings.syncOnly = false)
    {sync : SyncState} {value : Int} (hsync : worker.sync = some sync)
    (hresolved : sync.synchedToTargetPromise = .resolved value) :
    worker.Noisy settings := by
  let entered := worker.entered .S_SYNCHED .SHOULD_MARK_SYNCHED
  have taken : worker.step (.resumes (willing .ready)) =
      some (entered.onSynched (willing .ready)) := by
    simp [step, resumes, h, hsync, hresolved, handle, hstatus, transitionTo, act,
      entered, Worker.entered]
  cases hforce : worker.settings.forceRa with
  | true =>
      have honSynched : entered.onSynched (willing .ready) = { entered with
          await := .registerWorker .onSynched .workerAssignments } := by
        simp [onSynched, entered, Worker.entered, hforce]
      rw [honSynched] at taken
      exact Noisy.of_step taken rfl (noisy_registerWorker rfl)
  | false =>
      have honSynched : entered.onSynched (willing .ready) =
          entered.startMessages (willing .ready) := by
        simp [onSynched, entered, Worker.entered, hforce]
      rw [honSynched] at taken
      have hsyncOnly : worker.settings.syncOnly = false :=
        hsettings.resolve_left (by simp [hforce])
      exact Noisy.of_act taken (@startMessages_acts entered hsyncOnly)

theorem noisy_running (h : worker.await = .waitUntilSynched)
    (hstatus : worker.status = .S_SYNCHING)
    (hsettings : worker.settings.forceRa = true ∨
      worker.settings.syncOnly = false)
    {sync : SyncState} {name : LoopName} {attempt : Nat} {ignore : Bool}
    {heights : FetchStatus} (hsync : worker.sync = some sync)
    (hfetched : sync.fetchStatus = some heights)
    (hpending : sync.synchedToTargetPromise = .pending)
    (hrunning : (sync.loops name).loop = .running .paraBlock attempt ignore) :
    worker.Noisy settings := by
  have hstep : ∃ next, sync.step (.dispatched name heights.paraProcessedHeight) =
      some next ∧
        next.synchedToTargetPromise = .resolved heights.paraProcessedHeight := by
    simp [SyncState.step, SyncState.dispatched, hrunning, hfetched, hpending,
      SyncState.setLoop, Promise.resolve]
  obtain ⟨next, hnext, hresolved⟩ := hstep
  have taken : worker.step
      (.sync (.dispatched name heights.paraProcessedHeight)) =
        some { worker with sync := some next } := by
    simp [step, hsync, hnext]
  exact Noisy.of_step taken rfl (noisy_onSynched h hstatus hsettings rfl hresolved)

theorem noisy_waitUntilSynched (h : worker.await = .waitUntilSynched)
    (hstatus : worker.status = .S_SYNCHING)
    (hsettings : worker.settings.forceRa = true ∨
      worker.settings.syncOnly = false)
    {sync : SyncState} (ok : SyncOk sync) (hsync : worker.sync = some sync)
    (hresolves : sync.CanResolve) : worker.Noisy settings := by
  cases htarget : sync.synchedToTargetPromise with
  | resolved value => exact noisy_onSynched h hstatus hsettings hsync htarget
  | rejected error => simp [SyncState.CanResolve, htarget] at hresolves
  | pending =>
      simp only [SyncState.CanResolve, htarget] at hresolves
      obtain ⟨name, attempt, ignore, hdispatches⟩ := hresolves
      have hbusy : ¬ (sync.loops name).loop.Idle := by
        rcases hdispatches with hrunning | ⟨_, hrecovering⟩
        · rw [hrunning]
          exact fun h => h
        · rw [hrecovering]
          exact fun h => h
      obtain ⟨heights, hfetched⟩ :=
        Option.ne_none_iff_exists'.mp (fetchStatus_of_busy ok name hbusy)
      rcases hdispatches with hrunning | ⟨hvariant, hrecovering⟩
      · exact noisy_running h hstatus hsettings hsync hfetched htarget hrunning
      · let next := sync.setLoop name
          { loop := .running .paraBlock (attempt + 1) ignore
            position := (sync.loops name).position
            count := 0 }
        have hnext : sync.step (.recoveryFails name) = some next := by
          simp [SyncState.step, SyncState.recoveryFails, hrecovering, Loop.step,
            SyncState.call, SyncState.returnsAtOnce, hvariant, next]
        have taken : worker.step (.sync (.recoveryFails name)) =
            some { worker with sync := some next } := by
          simp [step, hsync, hnext]
        apply Noisy.of_step taken rfl
        refine @noisy_running _ { worker with sync := some next } h hstatus
          hsettings next name (attempt + 1) ignore heights rfl hfetched htarget ?_
        simp [next, SyncState.setLoop]

/-- The action is where it was, and the transaction of the message loop is out of
the way of its task. -/
structure Served (before after : Worker) (task : Task) : Prop where
  acts : after.acts = before.acts
  await : after.await = before.await
  settings : after.settings = before.settings
  status : after.status = before.status
  running : task ∈ after.innerTxQueue.running

/-- The task of an action is run if it is still in the queue. -/
theorem exists_served (ok : QueueOk worker) {task : Task}
    (htask : worker.await.task = some task)
    (member : task ∈ worker.innerTxQueue.tasks) :
    ∃ next, (Lifecycle.worker settings).Leads Machine.anyEvent worker next ∧
      Served worker next task := by
  have hpositive : 0 < worker.innerTxQueue.concurrency := by
    rw [ok.single]
    exact Nat.one_pos
  have howns : ∀ other ∈ worker.innerTxQueue.tasks, other = task ∨
      other = .dispatchTx .BATCH_SYNC_MQ_MESSAGE ∧ worker.Dispatching :=
    fun other hother => (ok.owned other hother).imp_left fun hown => by
      rw [htask] at hown
      exact (Option.some.inj hown).symm
  cases htasks : worker.innerTxQueue.tasks with
  | nil =>
      rw [htasks] at member
      cases member
  | cons head rest =>
      have hhead := PQueue.head_running hpositive htasks
      rcases howns head (htasks ▸ List.mem_cons_self) with
        rfl | ⟨rfl, message, hmessage, hdispatching⟩
      · exact ⟨worker, Relation.ReflTransGen.refl, rfl, rfl, rfl, rfl, hhead⟩
      · obtain ⟨attempt, ignore, hloop⟩ :=
          ok.running message hmessage hdispatching
        let queue := (worker.innerTxQueue.finish
          (.dispatchTx .BATCH_SYNC_MQ_MESSAGE)).1
        have taken : worker.step (.messagesSent false) = some { worker with
            message := some message.resumed
            innerTxQueue := queue } := by
          simp [step, messagesSent, hmessage, hdispatching, hhead, hloop,
            Loop.step, queue]
        have hqueue : queue.tasks = rest := by
          rw [PQueue.tasks_finish hhead, htasks, List.erase_cons_head]
        have hnodup := ok.nodup
        rw [htasks, List.nodup_cons] at hnodup
        have hrest : ∀ other ∈ rest, other = task := fun other hother => by
          rcases howns other (htasks ▸ List.mem_cons_of_mem _ hother) with
            hsame | ⟨rfl, _⟩
          · exact hsame
          · exact absurd hother hnodup.1
        have htask : task ∈ rest := by
          rw [htasks] at member
          rcases List.mem_cons.mp member with rfl | hlater
          · exact absurd htask (Await.task_ne _)
          · exact hlater
        refine ⟨_, Machine.Next.leads ⟨.messagesSent false, True.intro, taken⟩,
          rfl, rfl, rfl, rfl, ?_⟩
        change task ∈ queue.running
        cases hcons : rest with
        | nil =>
            rw [hcons] at htask
            cases htask
        | cons first others =>
            rw [← hrest first (hcons ▸ List.mem_cons_self)]
            refine PQueue.head_running ?_ (hqueue.trans hcons)
            rw [PQueue.finish_concurrency]
            exact hpositive

theorem noisy_initRuntime (ok : QueueOk worker) (h : worker.await = .initRuntime)
    (hstatus : worker.status = .S_STARTING)
    (member : .init ∈ worker.innerTxQueue.tasks) : worker.Noisy settings := by
  obtain ⟨next, hleads, served⟩ := exists_served ok (by rw [h]; rfl) member
  apply Noisy.of_leads hleads served.acts
  have hawait : next.await = .initRuntime := served.await.trans h
  have taken : next.step (.taskDone (willing .ready)) =
      some { next.freed .init with
        await := .workerAssignments
        updateInfoLoop := true } := by
    simp [step, taskDone, hawait, Await.task, served.running, freed]
  exact Noisy.of_step taken rfl
    (noisy_workerAssignments rfl (served.status.trans hstatus))

theorem registered_workerBindings (worker : Worker) :
    worker.registered (willing .restartable) =
      { worker with await := .workerBindings } := by
  simp [registered, willing]

theorem noisy_adding (ok : QueueOk worker) {caller : Caller}
    (h : worker.await = .registerWorker caller .adding)
    (member : .dispatchTx .ADD_WORKER ∈ worker.innerTxQueue.tasks) :
    worker.Noisy settings := by
  obtain ⟨next, hleads, served⟩ := exists_served ok (by rw [h]; rfl) member
  apply Noisy.of_leads hleads served.acts
  have hawait := served.await.trans h
  have taken : next.step (.taskDone (willing .restartable)) =
      some { next.freed (.dispatchTx .ADD_WORKER) with
        await := .workerBindings } := by
    rw [← registered_workerBindings]
    simp [step, taskDone, hawait, Await.task, served.running, freed]
  exact Noisy.of_step taken rfl (noisy_workerBindings rfl)

theorem noisy_registering (ok : QueueOk worker) {caller : Caller}
    {assigned : Bool}
    (h : worker.await = .registerWorker caller (.registering assigned))
    (hsettings : caller = .onSynched → worker.settings.syncOnly = false)
    (member : .dispatchTx .REGISTER_WORKER ∈ worker.innerTxQueue.tasks) :
    worker.Noisy settings := by
  obtain ⟨next, hleads, served⟩ := exists_served ok (by rw [h]; rfl) member
  apply Noisy.of_leads hleads served.acts
  have hawait := served.await.trans h
  let freed := next.freed (.dispatchTx .REGISTER_WORKER)
  have taken : ∀ findings, next.step (.taskDone findings) =
      some (freed.addWorker caller assigned findings) := by
    intro findings
    simp [step, taskDone, hawait, Await.task, served.running, freed,
      Worker.freed]
  cases caller with
  | onSynched =>
      have hsyncOnly : freed.settings.syncOnly = false := by
        rw [← hsettings rfl, ← served.settings]
        rfl
      exact Noisy.of_act (taken (willing .ready)) (startMessages_acts hsyncOnly)
  | onPreActive =>
      cases assigned with
      | true =>
          have hadd : freed.addWorker .onPreActive true (willing .restartable) =
              { freed with await := .workerBindings } :=
            registered_workerBindings freed
          exact Noisy.of_step (taken (willing .restartable)) (by rw [hadd]; rfl)
            (noisy_workerBindings (by rw [hadd]))
      | false =>
          exact Noisy.of_step (taken (willing .ready)) rfl
            (noisy_initialScore rfl)

/-- Whatever the action may still do, it does in some run. -/
theorem noisy_of_awaitActs (queueOk : QueueOk worker) (ok : WorkerOk worker)
    (h : worker.AwaitActs) : worker.Noisy settings := by
  cases hawait : worker.await with
  | nothing => simp [AwaitActs, hawait] at h
  | restarting => simp [AwaitActs, hawait] at h
  | startComputing => simp [AwaitActs, hawait] at h
  | initRuntime =>
      simp only [AwaitActs, hawait] at h
      exact noisy_initRuntime queueOk hawait h.1 h.2
  | workerAssignments =>
      simp only [AwaitActs, hawait] at h
      exact noisy_workerAssignments hawait h
  | subscribeOnChainState =>
      simp only [AwaitActs, hawait] at h
      exact noisy_subscribeOnChainState hawait h
  | waitUntilSynched =>
      simp only [AwaitActs, hawait] at h
      obtain ⟨hstatus, hsettings, sync, hsync, hresolves⟩ := h
      exact noisy_waitUntilSynched hawait hstatus hsettings (ok.sync sync hsync)
        hsync hresolves
  | registerWorker caller await =>
      cases await with
      | workerAssignments => exact noisy_registerWorker hawait
      | workers assigned => exact noisy_workers hawait
      | runtimeInfo assigned => exact noisy_runtimeInfo hawait
      | initialScore => exact noisy_initialScore hawait
      | registering assigned =>
          cases caller with
          | onSynched =>
              simp only [AwaitActs, hawait] at h
              exact noisy_registering queueOk hawait (fun _ => h.1) h.2
          | onPreActive =>
              simp only [AwaitActs, hawait] at h
              exact noisy_registering queueOk hawait (fun hcaller => by
                cases hcaller) h
      | adding =>
          cases caller <;> simp only [AwaitActs, hawait] at h <;>
            exact noisy_adding queueOk hawait h
  | waitUntilMqSynched =>
      simp only [AwaitActs, hawait] at h
      exact noisy_waitUntilMqSynched hawait h.1 h.2
  | onChainState => exact noisy_onChainState hawait
  | workerBindings => exact noisy_workerBindings hawait
  | stakes => exact noisy_stakes hawait
  | waitUntilWorkerReady => exact noisy_waitUntilWorkerReady hawait

theorem noisy_fetching {message : MessageSync} {attempt : Nat} {ignore : Bool}
    (hmessage : worker.message = some message)
    (hfree : message.dispatching = false)
    (hloop : message.loop = .running () attempt ignore) :
    worker.Noisy settings := by
  have taken : worker.step (.messagesFetched false) = some { worker with
      message := some { message with dispatching := true }
      innerTxQueue := (worker.innerTxQueue.add
        (.dispatchTx .BATCH_SYNC_MQ_MESSAGE)).1
      acts := worker.acts ++ [.dispatchTx .BATCH_SYNC_MQ_MESSAGE] } := by
    simp [step, messagesFetched, hmessage, hfree, hloop]
  exact Noisy.of_act taken rfl

theorem noisy_of_messageActs (ok : QueueOk worker) (h : worker.MessageActs) :
    worker.Noisy settings := by
  obtain ⟨message, hmessage, hnext | ⟨hfree, attempt, ignore, hloop⟩⟩ := h
  · have hfree := ok.not_dispatching hmessage (by simp [hnext])
    have taken : worker.step .messagePolls = some { worker with
        message := some { message with loop := .running () 0 false } } := by
      simp [step, setMessage, hmessage, MessageSync.polls, hnext, Loop.step]
    exact Noisy.of_step taken rfl (noisy_fetching rfl hfree rfl)
  · exact noisy_fetching hmessage hfree hloop

end Worker

/-- A kick before the initialization is done. -/
def kickedRun : List WorkerEvent :=
  [.kick]

/-- A restart while `onStarting` awaits `workerAssignments`. -/
def restartedRun : List WorkerEvent :=
  [.taskDone (plainFindings none), .restart, .endDestroy]

def resumedRun : List WorkerEvent :=
  [.resumes (plainFindings none), .resumes (plainFindings none)]

end RuntimeBridge.Lifecycle
