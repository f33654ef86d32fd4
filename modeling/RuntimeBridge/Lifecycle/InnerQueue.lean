import RuntimeBridge.Lifecycle.WorkerActs

/-! Whose tasks the inner queue holds: the one that the action awaits and the one
of the message loop, each once. -/

namespace RuntimeBridge.Lifecycle

open Library

def Worker.Dispatching (worker : Worker) : Prop :=
  ∃ message, worker.message = some message ∧ message.dispatching = true

def Worker.Owns (worker : Worker) (task : Task) : Prop :=
  worker.await.task = some task ∨
    task = .dispatchTx .BATCH_SYNC_MQ_MESSAGE ∧ worker.Dispatching

structure QueueOk (worker : Worker) : Prop where
  single : worker.innerTxQueue.concurrency = 1
  nodup : worker.innerTxQueue.tasks.Nodup
  owned : ∀ task ∈ worker.innerTxQueue.tasks, worker.Owns task
  early : worker.await.Early → worker.message = none
  running : ∀ message, worker.message = some message →
    message.dispatching = true →
      ∃ attempt ignore, message.loop = .running () attempt ignore

variable {before after : Worker} {settings : Settings} {findings : Findings}

theorem Await.task_ne (await : Await) :
    await.task ≠ some (.dispatchTx .BATCH_SYNC_MQ_MESSAGE) := by
  intro h
  cases await with
  | registerWorker caller await => cases await <;> cases h
  | _ => cases h

namespace QueueOk

theorem of_sublist (ok : QueueOk before)
    (single : after.innerTxQueue.concurrency =
      before.innerTxQueue.concurrency)
    (tasks : after.innerTxQueue.tasks.Sublist before.innerTxQueue.tasks)
    (await : after.await = before.await)
    (message : after.message = before.message) : QueueOk after where
  single := single.trans ok.single
  nodup := ok.nodup.sublist tasks
  owned := fun task member => by
    unfold Worker.Owns Worker.Dispatching
    rw [await, message]
    exact ok.owned task (tasks.subset member)
  early := by
    rw [await, message]
    exact ok.early
  running := by
    rw [message]
    exact ok.running

end QueueOk

/-- An action goes on while the queue holds no task of its own. -/
theorem Went.queueOk (went : Went before after) (ok : QueueOk before)
    (free : ∀ task ∈ before.innerTxQueue.tasks,
      task = .dispatchTx .BATCH_SYNC_MQ_MESSAGE ∧ before.Dispatching) :
    QueueOk after := by
  induction went with
  | throws worker =>
      obtain ⟨_, _, hqueue, hthrows⟩ := worker.throws_cases
      have htasks := PQueue.tasks_cleared hqueue
      rw [hthrows]
      exact
        { single := (PQueue.concurrency_cleared hqueue).trans ok.single
          nodup := ok.nodup.sublist htasks
          owned := fun task member => Or.inr (free task (htasks.subset member))
          early := False.elim
          running := ok.running }
  | awaits worker await task early =>
      exact
        { single := ok.single
          nodup := ok.nodup
          owned := fun task member => Or.inr (free task member)
          early := fun h => ok.early (early h)
          running := ok.running }
  | dispatches worker action await task early message =>
      have htasks : (worker.dispatchTx action await).innerTxQueue.tasks =
          worker.innerTxQueue.tasks ++ [.dispatchTx action] :=
        PQueue.tasks_add _ _
      exact
        { single := (PQueue.add_concurrency _ _).trans ok.single
          nodup := by
            rw [htasks]
            refine List.nodup_append.mpr ⟨ok.nodup, by simp, ?_⟩
            rintro other hold _ hnew rfl
            cases List.mem_singleton.mp hnew
            exact message (Task.dispatchTx.inj (free _ hold).1)
          owned := fun other member => by
            rw [htasks] at member
            rcases List.mem_append.mp member with hold | hnew
            · exact Or.inr (free other hold)
            · rw [List.mem_singleton.mp hnew]
              exact Or.inl task
          early := fun h => ok.early (early h)
          running := ok.running }
  | synching worker findings starting early =>
      exact
        { single := ok.single
          nodup := ok.nodup
          owned := fun task member => Or.inr (free task member)
          early := fun _ => ok.early early
          running := ok.running }
  | messages worker early =>
      have hnone := ok.early early
      exact
        { single := ok.single
          nodup := ok.nodup
          owned := fun task member => by
            obtain ⟨_, message, hmessage, _⟩ := free task member
            rw [hnone] at hmessage
            cases hmessage
          early := False.elim
          running := fun message hmessage hdispatching => by
            cases hmessage
            cases hdispatching }
  | marks transition marks _ ih =>
      exact ih
        { single := ok.single
          nodup := ok.nodup
          owned := ok.owned
          early := ok.early
          running := ok.running } free

namespace QueueOk

theorem free (ok : QueueOk before) (h : before.await.task = none) (task : Task)
    (member : task ∈ before.innerTxQueue.tasks) :
    task = .dispatchTx .BATCH_SYNC_MQ_MESSAGE ∧ before.Dispatching := by
  apply (ok.owned task member).resolve_left
  intro hown
  rw [h] at hown
  cases hown

theorem freed (ok : QueueOk before) {task : Task}
    (htask : before.await.task = some task)
    (hrunning : task ∈ before.innerTxQueue.running) :
    QueueOk (before.freed task) ∧
      ∀ other ∈ (before.freed task).innerTxQueue.tasks,
        other = .dispatchTx .BATCH_SYNC_MQ_MESSAGE ∧ before.Dispatching := by
  have htasks : (before.freed task).innerTxQueue.tasks =
      before.innerTxQueue.tasks.erase task := PQueue.tasks_finish hrunning
  constructor
  · refine ok.of_sublist (PQueue.finish_concurrency _ _) ?_ rfl rfl
    rw [htasks]
    exact List.erase_sublist
  · intro other member
    rw [htasks, ok.nodup.mem_erase_iff] at member
    apply (ok.owned other member.2).resolve_left
    intro hown
    rw [htask] at hown
    exact member.1 (Option.some.inj hown).symm

end QueueOk

namespace Worker

variable {worker : Worker}

theorem resumes_task (taken : worker.resumes findings = some after) :
    worker.await.task = none := by
  cases hawait : worker.await with
  | initRuntime => simp [resumes, hawait] at taken
  | restarting => simp [resumes, hawait] at taken
  | startComputing => simp [resumes, hawait] at taken
  | registerWorker caller await =>
      cases await with
      | registering assigned => simp [resumes, registerWorker, hawait] at taken
      | adding => simp [resumes, registerWorker, hawait] at taken
      | _ => rfl
  | _ => rfl

theorem awaitFails_task (taken : worker.awaitFails = some after) :
    worker.await.task = none := by
  unfold awaitFails at taken
  split at taken
  all_goals first | (next hawait => rw [hawait]; rfl) | contradiction

end Worker

namespace QueueOk

theorem of_message (ok : QueueOk before) {message next : MessageSync}
    (hmessage : before.message = some message)
    (dispatching : next.dispatching = message.dispatching)
    (running : next.dispatching = true →
      ∃ attempt ignore, next.loop = .running () attempt ignore) :
    QueueOk { before with message := some next } where
  single := ok.single
  nodup := ok.nodup
  owned := fun task member =>
    (ok.owned task member).imp_right fun ⟨hbatch, other, hother, hown⟩ => by
      rw [hmessage] at hother
      cases hother
      exact ⟨hbatch, next, rfl, dispatching.trans hown⟩
  early := fun hearly => by
    rw [ok.early hearly] at hmessage
    cases hmessage
  running := fun other hother => by
    cases hother
    exact running

theorem not_dispatching (ok : QueueOk before) {message : MessageSync}
    (hmessage : before.message = some message)
    (h : ∀ attempt ignore, message.loop ≠ .running () attempt ignore) :
    message.dispatching = false := by
  cases hdispatching : message.dispatching with
  | false => rfl
  | true =>
      obtain ⟨attempt, ignore, hrunning⟩ :=
        ok.running message hmessage hdispatching
      exact absurd hrunning (h attempt ignore)

end QueueOk

theorem MessageSync.resumed_dispatching (state : MessageSync) :
    state.resumed.dispatching = false := by
  unfold resumed
  split <;> rfl

namespace QueueOk

theorem polls (ok : QueueOk before)
    (taken : before.setMessage MessageSync.polls = some after) :
    QueueOk after := by
  obtain ⟨next, hnext, rfl⟩ := Option.map_eq_some_iff.mp taken
  obtain ⟨message, hmessage, hpolls⟩ := Option.bind_eq_some_iff.mp hnext
  unfold MessageSync.polls at hpolls
  split at hpolls
  · next hloop =>
      obtain ⟨loop, _, rfl⟩ := Option.map_eq_some_iff.mp hpolls
      have hfree := ok.not_dispatching hmessage (by simp [hloop])
      refine ok.of_message hmessage rfl fun hdispatching => ?_
      rw [hfree] at hdispatching
      cases hdispatching
  · contradiction

theorem recovers (ok : QueueOk before)
    (taken : before.setMessage MessageSync.recovers = some after) :
    QueueOk after := by
  obtain ⟨next, hnext, rfl⟩ := Option.map_eq_some_iff.mp taken
  obtain ⟨message, hmessage, hrecovers⟩ := Option.bind_eq_some_iff.mp hnext
  obtain ⟨loop, hloop, rfl⟩ := Option.map_eq_some_iff.mp hrecovers
  obtain ⟨fn, attempt, ignore, hbefore, _⟩ := Loop.step_recovers hloop
  have hfree := ok.not_dispatching hmessage (by simp [hbefore])
  have hafter := message.resumed_dispatching
  apply ok.of_message hmessage (hafter.trans hfree.symm)
  intro hdispatching
  rw [hafter] at hdispatching
  cases hdispatching

theorem fetchFails (ok : QueueOk before)
    (taken : (before.setMessage fun message =>
      if message.dispatching then none else message.failed) = some after) :
    QueueOk after := by
  obtain ⟨next, hnext, rfl⟩ := Option.map_eq_some_iff.mp taken
  obtain ⟨message, hmessage, hfails⟩ := Option.bind_eq_some_iff.mp hnext
  split at hfails
  · contradiction
  · next hfree =>
      obtain ⟨loop, _, rfl⟩ := Option.map_eq_some_iff.mp hfails
      apply ok.of_message hmessage (by simpa using hfree)
      intro h
      cases h

theorem messagesFetched (ok : QueueOk before) {empty : Bool}
    (taken : before.messagesFetched empty = some after) : QueueOk after := by
  obtain ⟨message, hmessage, taken⟩ := Option.bind_eq_some_iff.mp taken
  split at taken
  · contradiction
  · next hfree =>
      split at taken
      · obtain ⟨loop, _, rfl⟩ := Option.map_eq_some_iff.mp taken
        have hafter := MessageSync.resumed_dispatching { message with
          synchedToTargetPromise := message.synchedToTargetPromise.resolve () }
        refine ok.of_message hmessage ?_ fun hdispatching => ?_
        · rw [hafter]
          simpa using hfree
        · rw [hafter] at hdispatching
          cases hdispatching
      · split at taken
        · next attempt ignore hloop =>
            cases taken
            exact
              { single := (PQueue.add_concurrency _ _).trans ok.single
                nodup := by
                  rw [PQueue.tasks_add]
                  refine List.nodup_append.mpr ⟨ok.nodup, by simp, ?_⟩
                  rintro other hold _ hnew rfl
                  cases List.mem_singleton.mp hnew
                  rcases ok.owned _ hold with hown | ⟨_, other, hother, hown⟩
                  · exact Await.task_ne _ hown
                  · rw [hmessage] at hother
                    cases hother
                    exact hfree hown
                owned := fun task member => by
                  rw [PQueue.tasks_add] at member
                  rcases List.mem_append.mp member with hold | hnew
                  · exact (ok.owned task hold).imp_right fun ⟨hbatch, _⟩ =>
                      ⟨hbatch, _, rfl, rfl⟩
                  · exact Or.inr ⟨List.mem_singleton.mp hnew, _, rfl, rfl⟩
                early := fun hearly => by
                  rw [ok.early hearly] at hmessage
                  cases hmessage
                running := fun other hother _ => by
                  cases hother
                  exact ⟨attempt, ignore, hloop⟩ }
        · contradiction

theorem messagesSent (ok : QueueOk before) {failed : Bool}
    (taken : before.messagesSent failed = some after) : QueueOk after := by
  obtain ⟨message, hmessage, taken⟩ := Option.bind_eq_some_iff.mp taken
  split at taken
  · next hsent =>
      obtain ⟨next, hnext, rfl⟩ := Option.map_eq_some_iff.mp taken
      have hafter : next.dispatching = false := by
        cases failed with
        | true =>
            obtain ⟨loop, _, rfl⟩ := Option.map_eq_some_iff.mp hnext
            rfl
        | false =>
            obtain ⟨loop, _, rfl⟩ := Option.map_eq_some_iff.mp hnext
            exact message.resumed_dispatching
      have htasks := PQueue.tasks_finish hsent.2
      exact
        { single := (PQueue.finish_concurrency _ _).trans ok.single
          nodup := by
            rw [htasks]
            exact ok.nodup.erase _
          owned := fun task member => by
            rw [htasks, ok.nodup.mem_erase_iff] at member
            exact (ok.owned task member.2).imp_right fun ⟨hbatch, _⟩ =>
              absurd hbatch member.1
          early := fun hearly => by
            rw [ok.early hearly] at hmessage
            cases hmessage
          running := fun other hother hdispatching => by
            cases hother
            rw [hafter] at hdispatching
            cases hdispatching }
  · contradiction

theorem endDestroy (ok : QueueOk before)
    (taken : before.endDestroy = some after) : QueueOk after := by
  unfold Worker.endDestroy at taken
  split at taken
  · contradiction
  · cases taken
    exact
      { single := ok.single
        nodup := ok.nodup
        owned := fun task member =>
          (ok.owned task member).imp_right fun ⟨hbatch, message, hmessage, hown⟩ =>
            ⟨hbatch, message.stopSyncMessage, by simp [hmessage], hown⟩
        early := fun hearly => by simp [ok.early hearly]
        running := fun other hother hdispatching => by
          obtain ⟨message, hmessage, rfl⟩ := Option.map_eq_some_iff.mp hother
          exact ok.running message hmessage hdispatching }

theorem enters (ok : QueueOk before) (status : Status) (event : EVENTS) :
    QueueOk (before.enters status event) := by
  obtain ⟨_, _, hqueue, hentered⟩ := before.enters_cases status event
  rw [hentered]
  exact ok.of_sublist (PQueue.concurrency_cleared hqueue)
    (PQueue.tasks_cleared hqueue) rfl rfl

end QueueOk

theorem queueOk_step (ok : QueueOk before) {event : WorkerEvent}
    (taken : before.step event = some after) : QueueOk after := by
  cases event with
  | resumes findings =>
      exact (Worker.resumes_went before taken).queueOk ok
        (ok.free (Worker.resumes_task taken))
  | awaitFails =>
      exact (Worker.awaitFails_went before taken).queueOk ok
        (ok.free (Worker.awaitFails_task taken))
  | taskDone findings =>
      obtain ⟨task, htask, hrunning, _, hwent⟩ :=
        Worker.taskDone_went before taken
      obtain ⟨hok, hfree⟩ := ok.freed htask hrunning
      exact hwent.queueOk
        { single := hok.single
          nodup := hok.nodup
          owned := hok.owned
          early := hok.early
          running := hok.running } hfree
  | taskFails =>
      obtain ⟨task, htask, hrunning, hwent⟩ :=
        Worker.taskFails_went before taken
      obtain ⟨hok, hfree⟩ := ok.freed htask hrunning
      exact hwent.queueOk hok hfree
  | sync event =>
      obtain ⟨sync, _, taken⟩ := Option.bind_eq_some_iff.mp taken
      obtain ⟨next, _, rfl⟩ := Option.map_eq_some_iff.mp taken
      exact ok.of_sublist rfl (List.Sublist.refl _) rfl rfl
  | messagePolls => exact ok.polls taken
  | messagesFetched empty => exact ok.messagesFetched taken
  | fetchFails => exact ok.fetchFails taken
  | messagesSent failed => exact ok.messagesSent taken
  | messageRecovers => exact ok.recovers taken
  | updateInfoFails =>
      simp only [Worker.step, Worker.updateInfoFails] at taken
      split at taken
      · cases taken
        have hended : QueueOk { before with updateInfoLoop := false } :=
          ok.of_sublist rfl (List.Sublist.refl _) rfl rfl
        exact hended.enters .S_ERROR .ERROR
      · contradiction
  | restart =>
      cases taken
      exact ok.of_sublist rfl (PQueue.tasks_cleared (Or.inr rfl)) rfl rfl
  | kick =>
      cases taken
      exact ok.enters .S_KICKED .SHOULD_KICK
  | endDestroy => exact ok.endDestroy taken

theorem queueOk_create (settings : Settings) : QueueOk (.create settings) where
  single := rfl
  nodup := by
    change [Task.init].Nodup
    decide
  owned := fun task member => by
    cases List.mem_singleton.mp member
    exact Or.inl rfl
  early := fun _ => rfl
  running := fun _ h => by cases h

theorem queueOk_reachable (h : (worker settings).Reachable after) :
    QueueOk after :=
  Machine.Preserves.reaches (fun _ _ _ _ ok taken => queueOk_step ok taken)
    (queueOk_create settings) h

end RuntimeBridge.Lifecycle
