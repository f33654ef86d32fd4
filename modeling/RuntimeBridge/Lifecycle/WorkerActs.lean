import RuntimeBridge.Lifecycle.SyncDeath

/-! How the action of a worker context can go on, and what that does to its state
machine and to its sync loops: only `onSynching` starts loops, and it runs
once. -/

namespace RuntimeBridge.Lifecycle

open Library

/-- The states in which no `SHOULD_MARK_*` event is known. -/
def Status.Down (status : Status) : Prop :=
  status = .S_ERROR ∨ status = .S_KICKED

def EVENTS.Marks : EVENTS → Prop
  | .SHOULD_MARK_SYNCHING => True
  | .SHOULD_MARK_SYNCHED => True
  | .SHOULD_MARK_PRE_ACTIVE => True
  | .SHOULD_MARK_ACTIVE => True
  | _ => False

/-- The awaits before the message loop is started. -/
def Await.Early : Await → Prop
  | .initRuntime => True
  | .workerAssignments => True
  | .subscribeOnChainState => True
  | .waitUntilSynched => True
  | .registerWorker .onSynched _ => True
  | _ => False

theorem known_synching {status next : Status}
    (h : transitionTo status .SHOULD_MARK_SYNCHING = some next) :
    status = .S_STARTING ∧ next = .S_SYNCHING := by
  cases status <;> cases h
  exact ⟨rfl, rfl⟩

theorem known_synched {status next : Status}
    (h : transitionTo status .SHOULD_MARK_SYNCHED = some next) :
    status = .S_SYNCHING ∧ next = .S_SYNCHED := by
  cases status <;> cases h
  exact ⟨rfl, rfl⟩

theorem known_preActive {status next : Status}
    (h : transitionTo status .SHOULD_MARK_PRE_ACTIVE = some next) :
    status = .S_SYNCHED ∧ next = .S_PRE_ACTIVE := by
  cases status <;> cases h
  exact ⟨rfl, rfl⟩

theorem known_active {status next : Status}
    (h : transitionTo status .SHOULD_MARK_ACTIVE = some next) :
    status = .S_PRE_ACTIVE ∧ next = .S_ACTIVE := by
  cases status <;> cases h
  exact ⟨rfl, rfl⟩

theorem transitionTo_marks {status next : Status} {event : EVENTS}
    (marks : event.Marks) (h : transitionTo status event = some next) :
    ¬ status.Down ∧ ¬ next.Down ∧ next ≠ .S_STARTING := by
  cases event with
  | SHOULD_START => exact marks.elim
  | SHOULD_KICK => exact marks.elim
  | ERROR => exact marks.elim
  | SHOULD_MARK_SYNCHING =>
      obtain ⟨rfl, rfl⟩ := known_synching h
      simp [Status.Down]
  | SHOULD_MARK_SYNCHED =>
      obtain ⟨rfl, rfl⟩ := known_synched h
      simp [Status.Down]
  | SHOULD_MARK_PRE_ACTIVE =>
      obtain ⟨rfl, rfl⟩ := known_preActive h
      simp [Status.Down]
  | SHOULD_MARK_ACTIVE =>
      obtain ⟨rfl, rfl⟩ := known_active h
      simp [Status.Down]

/-- The machine has taken a transition; its action is still to begin. -/
def Worker.entered (worker : Worker) (status : Status) (event : EVENTS) :
    Worker :=
  { worker with status, received := worker.received ++ [event] }

/-- An action goes on up to its next await. -/
inductive Went : Worker → Worker → Prop where
  | throws (worker : Worker) : Went worker worker.throws
  | awaits (worker : Worker) (await : Await) (task : await.task = none)
      (early : await.Early → worker.await.Early) :
      Went worker { worker with await }
  | dispatches (worker : Worker) (action : TxAction) (await : Await)
      (task : await.task = some (.dispatchTx action))
      (early : await.Early → worker.await.Early)
      (message : action ≠ .BATCH_SYNC_MQ_MESSAGE) :
      Went worker (worker.dispatchTx action await)
  | synching (worker : Worker) (findings : Findings)
      (starting : worker.status = .S_STARTING) (early : worker.await.Early) :
      Went worker
        ((worker.entered .S_SYNCHING .SHOULD_MARK_SYNCHING).onSynching findings)
  | messages (worker : Worker) (early : worker.await.Early) :
      Went worker { worker with
        message := some .startSyncMessage
        await := .waitUntilMqSynched
        acts := worker.acts ++ [.startSyncMessage] }
  | marks {worker after : Worker} {event : EVENTS} {status : Status}
      (transition : transitionTo worker.status event = some status)
      (marks : event.Marks)
      (went : Went (worker.entered status event) after) : Went worker after

variable {before middle after : Worker} {findings : Findings}

namespace Worker

variable (worker : Worker)

theorem startMessages_went (early : worker.await.Early) (findings : Findings) :
    Went worker (worker.startMessages findings) := by
  unfold startMessages
  split
  · exact .throws worker
  · exact .awaits worker .nothing rfl False.elim
  · split
    · exact .awaits worker .nothing rfl False.elim
    · exact .messages worker early

theorem onSynched_went (early : worker.await.Early) (findings : Findings) :
    Went worker (worker.onSynched findings) := by
  unfold onSynched
  split
  · exact .awaits worker _ rfl fun _ => early
  · exact worker.startMessages_went early findings

theorem handle_synching_went (early : worker.await.Early)
    (findings : Findings) :
    Went worker (worker.handle .SHOULD_MARK_SYNCHING findings) := by
  unfold handle
  split
  · next next hnext =>
      obtain ⟨hstarting, rfl⟩ := known_synching hnext
      exact .synching worker findings hstarting early
  · exact .throws worker

theorem handle_synched_went (early : worker.await.Early) (findings : Findings) :
    Went worker (worker.handle .SHOULD_MARK_SYNCHED findings) := by
  unfold handle
  split
  · next next hnext =>
      obtain ⟨_, rfl⟩ := known_synched hnext
      refine .marks hnext True.intro ?_
      exact onSynched_went (worker.entered _ _) early findings
  · exact .throws worker

theorem handle_preActive_went (findings : Findings) :
    Went worker (worker.handle .SHOULD_MARK_PRE_ACTIVE findings) := by
  unfold handle
  split
  · next next hnext =>
      obtain ⟨_, rfl⟩ := known_preActive hnext
      refine .marks hnext True.intro ?_
      exact .awaits (worker.entered _ _) .onChainState rfl False.elim
  · exact .throws worker

theorem handle_active_went (findings : Findings) :
    Went worker (worker.handle .SHOULD_MARK_ACTIVE findings) := by
  unfold handle
  split
  · next next hnext =>
      obtain ⟨_, rfl⟩ := known_active hnext
      refine .marks hnext True.intro ?_
      exact .awaits (worker.entered _ _) .nothing rfl False.elim
  · exact .throws worker

theorem registered_went (findings : Findings) :
    Went worker (worker.registered findings) := by
  unfold registered
  split
  · exact .throws worker
  · exact .awaits worker _ rfl False.elim
  · split
    · exact worker.handle_active_went findings
    · exact .awaits worker _ rfl False.elim

theorem addWorker_went {caller : Caller} (assigned : Bool)
    (early : caller = .onSynched → worker.await.Early) (findings : Findings) :
    Went worker (worker.addWorker caller assigned findings) := by
  unfold addWorker
  split
  · exact worker.startMessages_went (early rfl) findings
  · split
    · exact worker.registered_went findings
    · exact .awaits worker _ rfl False.elim

theorem registerWorker_went {caller : Caller} {await : RegisterAwait}
    (hawait : worker.await = .registerWorker caller await)
    (taken : worker.registerWorker caller findings await = some after) :
    Went worker after := by
  have hearly : ∀ other, (Await.registerWorker caller other).Early →
      worker.await.Early := by
    intro other h
    rw [hawait]
    cases caller with
    | onSynched => exact True.intro
    | onPreActive => exact h
  cases await with
  | workerAssignments =>
      simp only [registerWorker] at taken
      split at taken
      · cases taken
        exact .throws worker
      · cases taken
        exact .awaits worker _ rfl (hearly _)
  | workers assigned =>
      simp only [registerWorker] at taken
      split at taken
      · cases taken
        exact .awaits worker _ rfl (hearly _)
      · cases taken
        refine worker.addWorker_went assigned (fun hcaller => ?_) findings
        subst hcaller
        exact hearly .initialScore True.intro
  | runtimeInfo assigned =>
      cases taken
      exact .dispatches worker _ _ rfl (hearly _) (by decide)
  | initialScore =>
      simp only [registerWorker] at taken
      split at taken
      · cases taken
        exact .dispatches worker _ _ rfl (hearly _) (by decide)
      · rw [← Option.some.inj taken]
        exact .awaits worker worker.await (by rw [hawait]; rfl) fun h => h
  | registering assigned => cases taken
  | adding => cases taken

theorem resumes_went (taken : worker.resumes findings = some after) :
    Went worker after := by
  unfold resumes at taken
  split at taken
  · next hawait =>
      split at taken
      · cases taken
        exact .throws worker
      · cases taken
        exact .awaits worker _ rfl fun _ => by rw [hawait]; exact True.intro
  · next hawait =>
      cases taken
      exact worker.handle_synching_went (by rw [hawait]; exact True.intro)
        findings
  · next hawait =>
      obtain ⟨sync, _, taken⟩ := Option.bind_eq_some_iff.mp taken
      split at taken
      · contradiction
      · cases taken
        exact worker.handle_synched_went (by rw [hawait]; exact True.intro)
          findings
      · cases taken
        exact .throws worker
  · next hawait => exact registerWorker_went worker hawait taken
  · obtain ⟨message, _, taken⟩ := Option.bind_eq_some_iff.mp taken
    split at taken
    · contradiction
    · cases taken
      exact worker.handle_preActive_went findings
    · cases taken
      exact .throws worker
  · cases taken
    exact .awaits worker _ rfl False.elim
  · cases taken
    exact .awaits worker _ rfl False.elim
  · split at taken
    · cases taken
      exact .dispatches worker _ _ rfl False.elim (by decide)
    · cases taken
      exact worker.handle_active_went findings
  · next hawait =>
      split at taken
      · cases taken
        exact .throws worker
      · cases taken
        exact .dispatches worker _ _ rfl False.elim (by decide)
      · rw [← Option.some.inj taken]
        exact .awaits worker worker.await (by rw [hawait]; rfl) fun h => h
  · contradiction
  · contradiction
  · contradiction
  · contradiction

def freed (task : Task) : Worker :=
  { worker with innerTxQueue := (worker.innerTxQueue.finish task).1 }

theorem taskDone_went (taken : worker.taskDone findings = some after) :
    ∃ task, worker.await.task = some task ∧
      task ∈ worker.innerTxQueue.running ∧
      ∃ updateInfoLoop,
        Went { worker.freed task with updateInfoLoop } after := by
  obtain ⟨task, htask, taken⟩ := Option.bind_eq_some_iff.mp taken
  split at taken
  · next hrunning =>
      refine ⟨task, htask, hrunning, ?_⟩
      split at taken
      · next hawait =>
          cases taken
          refine ⟨true, .awaits { worker.freed task with updateInfoLoop := true }
            .workerAssignments rfl fun _ => ?_⟩
          change worker.await.Early
          rw [hawait]
          exact True.intro
      · next caller assigned hawait =>
          cases taken
          refine ⟨worker.updateInfoLoop, addWorker_went (worker.freed task)
            assigned (fun hcaller => ?_) findings⟩
          change worker.await.Early
          rw [hawait, hcaller]
          exact True.intro
      · cases taken
        exact ⟨worker.updateInfoLoop, registered_went (worker.freed task) findings⟩
      · cases taken
        exact ⟨worker.updateInfoLoop,
          handle_active_went (worker.freed task) findings⟩
  · contradiction

theorem taskFails_went (taken : worker.taskFails = some after) :
    ∃ task, worker.await.task = some task ∧
      task ∈ worker.innerTxQueue.running ∧ Went (worker.freed task) after := by
  obtain ⟨task, htask, taken⟩ := Option.bind_eq_some_iff.mp taken
  split at taken
  · next hrunning =>
      cases taken
      exact ⟨task, htask, hrunning, .throws (worker.freed task)⟩
  · contradiction

theorem awaitFails_eq (taken : worker.awaitFails = some after) :
    after = worker.throws := by
  unfold awaitFails at taken
  split at taken <;> cases taken <;> rfl

theorem awaitFails_went (taken : worker.awaitFails = some after) :
    Went worker after := by
  rw [awaitFails_eq worker taken]
  exact .throws worker

end Worker

namespace Worker

theorem enters_cases (worker : Worker) (status : Status) (event : EVENTS) :
    ∃ innerTxQueue destroying,
      (innerTxQueue = worker.innerTxQueue ∨
        innerTxQueue = worker.innerTxQueue.clear) ∧
      worker.enters status event = { worker.entered status event with
        innerTxQueue
        destroying } := by
  unfold enters
  simp only
  split
  · exact ⟨_, _, Or.inl rfl, rfl⟩
  · exact ⟨_, _, Or.inr rfl, rfl⟩

theorem throws_cases (worker : Worker) :
    ∃ innerTxQueue destroying,
      (innerTxQueue = worker.innerTxQueue ∨
        innerTxQueue = worker.innerTxQueue.clear) ∧
      worker.throws = { worker.entered .S_ERROR .ERROR with
        await := .nothing
        innerTxQueue
        destroying } :=
  enters_cases { worker with await := .nothing } .S_ERROR .ERROR

theorem throws_received (worker : Worker) : .ERROR ∈ worker.throws.received := by
  obtain ⟨_, _, _, hthrows⟩ := worker.throws_cases
  rw [hthrows]
  exact List.mem_append_right _ (List.mem_singleton.mpr rfl)

theorem throws_status (worker : Worker) : worker.throws.status = .S_ERROR := by
  obtain ⟨_, _, _, hthrows⟩ := worker.throws_cases
  rw [hthrows]
  rfl

end Worker

/-- What an action may do to the state machine and to the sync loops. -/
structure Acted (before after : Worker) : Prop where
  received : ∀ event ∈ before.received, event ∈ after.received
  down : before.status.Down → after.status.Down
  errors : .ERROR ∈ after.received →
    .ERROR ∈ before.received ∨ after.status.Down
  starting : after.status = .S_STARTING → before.status = .S_STARTING
  sync : after.sync = before.sync ∨
    before.status = .S_STARTING ∧ after.status ≠ .S_STARTING ∧
      after.await = .waitUntilSynched ∧ ∃ variant fetchStatus info,
        after.sync = some (.startSync variant fetchStatus info)

namespace Acted

theorem of_same (status : after.status = before.status)
    (received : after.received = before.received)
    (sync : after.sync = before.sync) : Acted before after where
  received := fun _ member => received ▸ member
  down := fun h => status ▸ h
  errors := fun h => Or.inl (received ▸ h)
  starting := fun h => status ▸ h
  sync := Or.inl sync

/-- A change of anything else comes before an action. -/
theorem of_prepared (h : Acted middle after)
    (status : middle.status = before.status)
    (received : middle.received = before.received)
    (sync : middle.sync = before.sync) : Acted before after where
  received := fun event member => h.received event (received ▸ member)
  down := fun hdown => h.down (status ▸ hdown)
  errors := fun herror => received ▸ h.errors herror
  starting := fun hstart => status ▸ h.starting hstart
  sync := by
    rw [← status, ← sync]
    exact h.sync

theorem of_down (down : after.status.Down) {event : EVENTS}
    (received : after.received = before.received ++ [event])
    (sync : after.sync = before.sync) : Acted before after where
  received := fun _ member => received ▸ List.mem_append_left _ member
  down := fun _ => down
  errors := fun _ => Or.inr down
  starting := fun h => by
    rw [h] at down
    exact absurd down (by simp [Status.Down])
  sync := Or.inl sync

theorem of_marks {event : EVENTS} {status : Status}
    (transition : transitionTo before.status event = some status)
    (marks : event.Marks) (h : Acted (before.entered status event) after) :
    Acted before after := by
  obtain ⟨hup, hentered, hstarted⟩ := transitionTo_marks marks transition
  exact
    { received := fun other member =>
        h.received other (List.mem_append_left _ member)
      down := fun hdown => absurd hdown hup
      errors := fun member => by
        rcases h.errors member with hold | hdown
        · rcases List.mem_append.mp hold with hbefore | hnew
          · exact Or.inl hbefore
          · rw [← List.mem_singleton.mp hnew] at marks
            exact marks.elim
        · exact Or.inr hdown
      starting := fun hstart => absurd (h.starting hstart) hstarted
      sync := by
        rcases h.sync with hsame | ⟨hstart, _⟩
        · exact Or.inl hsame
        · exact absurd hstart hstarted }

end Acted

theorem Worker.enters_acted (worker : Worker) {status : Status}
    (down : status.Down) (event : EVENTS) :
    Acted worker (worker.enters status event) := by
  obtain ⟨_, _, _, hentered⟩ := worker.enters_cases status event
  rw [hentered]
  exact .of_down down rfl rfl

theorem Went.acted (went : Went before after) : Acted before after := by
  induction went with
  | throws worker =>
      obtain ⟨_, _, _, hthrows⟩ := worker.throws_cases
      rw [hthrows]
      exact .of_down (Or.inl rfl) rfl rfl
  | awaits worker await => exact .of_same rfl rfl rfl
  | dispatches worker action await => exact .of_same rfl rfl rfl
  | synching worker findings starting =>
      exact
        { received := fun _ member => List.mem_append_left _ member
          down := fun hdown => by
            rw [starting] at hdown
            exact absurd hdown (by simp [Status.Down])
          errors := fun member => by
            rcases List.mem_append.mp member with hold | hnew
            · exact Or.inl hold
            · cases List.mem_singleton.mp hnew
          starting := fun _ => starting
          sync := Or.inr ⟨starting, by simp [Worker.onSynching, Worker.entered],
            rfl, _, _, _, rfl⟩ }
  | messages worker => exact .of_same rfl rfl rfl
  | marks transition marks _ acted => exact acted.of_marks transition marks

end RuntimeBridge.Lifecycle
