import RuntimeBridge.Trade.BatchOrder

/-! What the manager sends and receives keeps its batches in order, and so does
what the trader does meanwhile. -/

namespace RuntimeBridge.Trade

open Library

variable {state after : State} {ref : BatchRef} {payload : Payload}

namespace ManagerOk

theorem trader (h : ManagerOk state) {toTrader : List Payload}
    {toManager : List Message} {traderOnline : Bool}
    {traderAddQueue processQueue : PQueue Payload}
    {poolQueues : Nat → PQueue Payload} {reported : List Nat}
    {started ended : List Payload} :
    ManagerOk { state with
      toTrader, toManager, traderOnline, traderAddQueue, processQueue,
      poolQueues, reported, started, ended } where
  order := h.order
  fresh := h.fresh
  nodup := h.nodup
  timer := h.timer
  contents := h.contents
  jobs := h.jobs
  sentOrder := h.sentOrder
  sentCalls := h.sentCalls
  single := h.single
  awaiting := h.awaiting
  up := h.up
  inactive := h.inactive

theorem settleAddBatch (h : ManagerOk state)
    (running : ref ∈ state.addQueue.running)
    (awaiting : state.awaitingAdded = true) :
    ManagerOk (state.settleAddBatch ref) := by
  have hunsent : state.unsent = [] := by
    rw [State.unsent, if_pos awaiting]
  have hpools : ∀ pid, ((state.settleAddBatch ref).pools pid).currentBatch =
      (state.pools pid).currentBatch ∧
      ((state.settleAddBatch ref).pools pid).queue =
        (state.pools pid).queue := by
    intro pid
    by_cases heq : pid = ref.pid
    · subst heq
      simp [State.settleAddBatch, State.setPool]
    · simp [State.settleAddBatch, State.setPool, heq]
  refine
    { order := ?_, fresh := h.fresh, nodup := h.nodup, timer := ?_,
      contents := h.contents, jobs := h.jobs, sentOrder := ?_,
      sentCalls := h.sentCalls, single := ?_, awaiting := ?_, up := h.up,
      inactive := h.inactive }
  · intro pid
    rw [(hpools pid).1]
    exact h.order pid
  · intro other member
    rw [(hpools other.pid).1]
    exact h.timer other member
  · intro pid
    have horder := h.sentOrder pid
    have hfifo := congrArg (ofPool pid) (state.addQueue.finish_fifo ref)
    rw [ofPool_append] at hfifo
    have hnext : (state.settleAddBatch ref).unsent =
        (state.addQueue.finish ref).2.toList :=
      PQueue.finish_single h.single running
    rw [hunsent, ofPool_nil, List.append_nil, ← hfifo, ← List.append_assoc]
      at horder
    rw [hnext, (hpools pid).2]
    exact horder
  · simpa [State.settleAddBatch] using h.single
  · intro hwait
    cases hwait

theorem send (h : ManagerOk state) (idle : state.awaitingAdded = false)
    (running : state.addQueue.running = [ref]) (batchJobs : List Nat)
    (toTrader : List Payload)
    (matches_ref : payload.ref = ref)
    (calls : payload.calls = (state.batches ref.id).calls) :
    ManagerOk { state with
      awaitingAdded := true
      batchJobs := batchJobs
      toTrader := toTrader
      sent := state.sent ++ [payload] } where
  order := h.order
  fresh := h.fresh
  nodup := h.nodup
  timer := h.timer
  contents := h.contents
  jobs := h.jobs
  sentOrder := fun pid => by
    have horder := h.sentOrder pid
    have hunsent : state.unsent = [ref] := by
      rw [State.unsent, idle, running]
      rfl
    have hmoved : (ofPid pid [payload]).map Payload.ref =
        ofPool pid [ref] := by
      have hpid : ref.pid = payload.pid := by
        rw [← matches_ref]
        rfl
      by_cases heq : payload.pid = pid
      · simp [ofPid, ofPool, heq, hpid, matches_ref]
      · simp [ofPid, ofPool, heq, hpid]
    rw [hunsent] at horder
    apply horder.trans
    simp only [ofPid_append, List.map_append, hmoved, State.unsent, if_true,
      ofPool_nil, List.append_nil]
  sentCalls := fun other member => by
    rcases List.mem_append.mp member with hold | hnew
    · exact h.sentCalls other hold
    · rw [List.mem_singleton.mp hnew, calls, ← matches_ref]
      rfl
  single := h.single
  awaiting := fun _ hnone => by
    rw [running] at hnone
    cases hnone
  up := h.up
  inactive := h.inactive

theorem payload_ref (h : ManagerOk state) (member : ref ∈ state.committed)
    {firstJob : Job} (first : (state.batches ref.id).jobs.head? = some firstJob)
    (calls : List Call) :
    Payload.ref { id := ref.id, pid := firstJob.pid, calls } = ref := by
  have hok := h.contents ref (h.created_of_committed member)
  have hpid := hok.pids firstJob (List.mem_of_head? first)
  rw [Payload.ref, hpid]

end ManagerOk

/-- While the trader lives, a taken `#addBatch` sends its batch. -/
theorem State.addBatch_cases (h : ManagerOk state)
    (taken : state.addBatch = some after) :
    ∃ ref payload, state.awaitingAdded = false ∧
      state.addQueue.running = [ref] ∧ ref ∈ state.unsent ∧
      payload.ref = ref ∧
      payload.calls = (state.batches ref.id).calls ∧
      after = { state.setBatch ref.id
          { state.batches ref.id with addedPromise := .pending } with
        awaitingAdded := true
        batchJobs := state.batchJobs ++ [ref.id]
        toTrader := state.toTrader ++ [payload]
        sent := state.sent ++ [payload] } := by
  simp only [State.addBatch, Option.bind_eq_bind, Option.bind_eq_some_iff]
    at taken
  obtain ⟨ref, hhead, taken⟩ := taken
  have hrunning := PQueue.running_eq h.single (List.mem_of_head? hhead)
  split at taken
  · contradiction
  · next hidle =>
      have hunsent : ref ∈ state.unsent := by
        rw [State.unsent, if_neg hidle, hrunning]
        simp
      have hcommitted := h.committed_of_unsent hunsent
      have hdown : state.status.isDown = false := by
        rcases h.up with hup | hup <;> rw [hup] <;> rfl
      rw [hdown] at taken
      simp only [Bool.false_eq_true, if_false] at taken
      split at taken
      · obtain ⟨firstJob, hfirst, htaken⟩ := Option.bind_eq_some_iff.mp taken
        cases htaken
        exact ⟨ref, _, by simpa using hidle, hrunning, hunsent,
          h.payload_ref hcommitted hfirst _, rfl, rfl⟩
      · contradiction

namespace ManagerOk

theorem addBatch (h : ManagerOk state)
    (taken : state.addBatch = some after) : ManagerOk after := by
  obtain ⟨ref, payload, hidle, hrunning, -, href, hcalls, rfl⟩ :=
    State.addBatch_cases h taken
  have hset := @ManagerOk.setBatch state h ref.id
    { state.batches ref.id with addedPromise := .pending } rfl rfl rfl rfl
  apply hset.send hidle hrunning _ _ href
  simpa [State.setBatch] using hcalls

theorem handleProcessMessage (h : ManagerOk state) (message : Message) :
    ManagerOk (state.handleProcessMessage message) := by
  cases message with
  | online =>
      exact { h with up := Or.inr rfl }
  | added number =>
      simp only [State.handleProcessMessage, State.onBatchJobAdded]
      split
      · have hset := @ManagerOk.setBatch state h number
          { state.batches number with
            addedPromise := (state.batches number).addedPromise.resolve () }
          rfl rfl rfl rfl
        split
        · next ref hhead =>
            split
            · next hguard =>
                exact hset.settleAddBatch (List.mem_of_head? hhead) hguard.1
            · exact hset
        · exact hset
      · exact h
  | working number =>
      simp only [State.handleProcessMessage, State.onBatchJobWorking]
      split
      · exact h.setBatch number rfl rfl rfl rfl
      · exact h
  | finished number failedCalls =>
      simp only [State.handleProcessMessage, State.onBatchJobFinished]
      split
      · exact h.setBatch number rfl rfl rfl rfl
      · exact h
  | failed number error =>
      simp only [State.handleProcessMessage, State.onBatchJobFailed]
      split
      · exact h.setBatch number rfl rfl rfl rfl
      · exact h

end ManagerOk

theorem State.handleProcessMessage_frame (state : State) (message : Message) :
    ∃ batches pools status addQueue awaitingAdded,
      state.handleProcessMessage message =
        { state with batches, pools, status, addQueue, awaitingAdded } := by
  cases message with
  | online => exact ⟨_, _, _, _, _, rfl⟩
  | added number =>
      simp only [handleProcessMessage, onBatchJobAdded]
      split
      · split
        · split
          · exact ⟨_, _, _, _, _, rfl⟩
          · exact ⟨_, _, _, _, _, rfl⟩
        · exact ⟨_, _, _, _, _, rfl⟩
      · exact ⟨_, _, _, _, _, rfl⟩
  | working number =>
      simp only [handleProcessMessage, onBatchJobWorking]
      split
      · exact ⟨_, _, _, _, _, rfl⟩
      · exact ⟨_, _, _, _, _, rfl⟩
  | finished number failedCalls =>
      simp only [handleProcessMessage, onBatchJobFinished]
      split
      · exact ⟨_, _, _, _, _, rfl⟩
      · exact ⟨_, _, _, _, _, rfl⟩
  | failed number error =>
      simp only [handleProcessMessage, onBatchJobFailed]
      split
      · exact ⟨_, _, _, _, _, rfl⟩
      · exact ⟨_, _, _, _, _, rfl⟩

/-- No batch is registered as active, so the loop of `#onProcessExited` is
empty and the next process is started. -/
theorem State.processExits_eq (h : ManagerOk state) (kept : Nat) :
    state.processExits kept =
      { state.processGone kept with status := .starting } := by
  have hstatus : (state.processGone kept).status = .down := by
    rcases h.up with hup | hup <;> simp [processGone, hup]
  have hloop : (state.processGone kept).onProcessExited =
      some (state.processGone kept) := by
    have hactive : (state.processGone kept).activeBatchJobIds = [] :=
      h.inactive
    rw [onProcessExited, hactive, rejectActive, ← hactive]
  simp only [processExits, hloop, startProcess, hstatus]
  rfl

theorem managerOk_start : ManagerOk pipeline.start where
  order := fun _ => rfl
  fresh := fun _ member => by cases member
  nodup := List.nodup_nil
  timer := fun _ member => by cases member
  contents := fun _ member => by cases member
  jobs := fun _ => rfl
  sentOrder := fun _ => rfl
  sentCalls := fun _ member => by cases member
  single := rfl
  awaiting := fun hwait => by cases hwait
  up := Or.inl rfl
  inactive := rfl

theorem managerOk_step : pipeline.Preserves Machine.anyEvent ManagerOk := by
  intro state event after _ h taken
  cases event with
  | addJob job =>
      cases taken
      exact h.addJob job
  | timeout ref => exact h.timeout taken
  | dequeue pid => exact h.dequeue taken
  | addBatch => exact h.addBatch taken
  | deliverToTrader =>
      obtain ⟨payload, rest, -, -, rfl⟩ := State.deliverToTrader_cases taken
      obtain ⟨_, _, _, _, _, hframe⟩ := State.traderAddBatchJob_frame
        { state with toTrader := rest } payload
      rw [hframe]
      exact h.trader
  | doAddJobSettles payload =>
      obtain ⟨-, ⟨started, -, rfl⟩ | ⟨-, rfl⟩⟩ :=
        State.doAddJobSettles_cases taken
      · obtain ⟨_, _, _, hframe⟩ := State.enterProcess_frame { state with
          traderAddQueue := (state.traderAddQueue.finish payload).1
          toManager := state.toManager ++ [.added started.id] } started
        simp only [State.doAddJob, hframe]
        exact h.trader
      · exact h.trader
  | reportWorking payload =>
      obtain ⟨-, rfl⟩ := State.reportWorking_cases taken
      exact h.trader
  | processBatchEnds payload outcome =>
      obtain ⟨-, rfl⟩ := State.processBatchEnds_cases taken
      exact h.trader
  | sendSlotFreed payload =>
      obtain ⟨-, ⟨_, -, rfl⟩ | ⟨-, rfl⟩⟩ := State.sendSlotFreed_cases taken
      · exact h.trader
      · exact h.trader
  | deliverToManager =>
      obtain ⟨message, rest, -, rfl⟩ := State.deliverToManager_cases taken
      have hmanager : ManagerOk { state with toManager := rest } :=
        h.trader
      exact hmanager.handleProcessMessage message
  | traderBoots =>
      obtain ⟨-, rfl⟩ := State.traderBoots_cases taken
      exact h.trader
  | exit kept =>
      cases taken
      rw [State.processExits_eq h]
      have hgone : ManagerOk { state with
          toTrader := [], toManager := state.toManager.take kept,
          traderOnline := false, traderAddQueue := .idle 1,
          processQueue := .idle TX_SEND_QUEUE_SIZE,
          poolQueues := fun _ => .idle 1, reported := [] } := h.trader
      exact { hgone with up := Or.inl rfl }

theorem managerOk_reachable (reached : pipeline.Reachable state) :
    ManagerOk state :=
  managerOk_step.reaches managerOk_start reached

end RuntimeBridge.Trade
