import RuntimeBridge.Trade.Pipeline

/-! The trader process keeps the batches of each pool in the order in which
they were sent, and runs one of them at a time. -/

namespace RuntimeBridge.Trade

open Library

def ofPid (pid : Nat) (payloads : List Payload) : List Payload :=
  payloads.filter fun payload => payload.pid = pid

@[simp] theorem ofPid_nil (pid : Nat) : ofPid pid [] = [] := rfl

@[simp] theorem ofPid_append (pid : Nat) (left right : List Payload) :
    ofPid pid (left ++ right) = ofPid pid left ++ ofPid pid right :=
  List.filter_append _ _

theorem ofPid_self {payloads : List Payload} {pid : Nat}
    (h : ∀ payload ∈ payloads, payload.pid = pid) :
    ofPid pid payloads = payloads := by
  rw [ofPid, List.filter_eq_self]
  intro payload member
  simp [h payload member]

theorem ofPid_other {payloads : List Payload} {pid : Nat}
    (h : ∀ payload ∈ payloads, payload.pid ≠ pid) :
    ofPid pid payloads = [] := by
  rw [ofPid, List.filter_eq_nil_iff]
  intro payload member
  simp [h payload member]

namespace State

/-- The batches of a pool up to its own queue, the send queue and the add
queue of the trader. -/
def poolLine (state : State) (pid : Nat) : List Payload :=
  ofPid pid state.started ++ (state.poolQueues pid).waiting

def processLine (state : State) (pid : Nat) : List Payload :=
  state.poolLine pid ++ ofPid pid state.processQueue.waiting

def traderLine (state : State) (pid : Nat) : List Payload :=
  state.processLine pid ++ ofPid pid state.traderAddQueue.waiting

end State

structure PoolsOk (state : State) : Prop where
  pids : ∀ pid payload, payload ∈ (state.poolQueues pid).running ∨
    payload ∈ (state.poolQueues pid).waiting → payload.pid = pid
  serial : ∀ pid, ofPid pid state.started =
    ofPid pid state.ended ++ (state.poolQueues pid).running
  single : ∀ pid, (state.poolQueues pid).concurrency = 1

/-- A batch holds its send slot until its pool has run it. -/
structure SendOk (state : State) : Prop extends PoolsOk state where
  sendSlots : state.processQueue.concurrency = TX_SEND_QUEUE_SIZE
  slots : ∀ payload ∈ state.processQueue.running, payload ∈ state.ended ∨
    payload ∈ (state.poolQueues payload.pid).running ∨
    payload ∈ (state.poolQueues payload.pid).waiting

structure TraderOk (state : State) : Prop extends SendOk state where
  order : ∀ pid, ofPid pid state.sent =
    state.traderLine pid ++ ofPid pid state.toTrader
  addSlots : state.traderAddQueue.concurrency = 1

variable {state after : State} {payload : Payload} {pid : Nat}

namespace State

theorem enterPool_line (state : State) (payload : Payload) (pid : Nat) :
    (state.enterPool payload).poolLine pid =
      state.poolLine pid ++ ofPid pid [payload] := by
  have hstarted : ∀ other ∈ ((state.poolQueues payload.pid).add
      payload).2.toList, other.pid = payload.pid := fun other member => by
    rw [PQueue.add_started (Option.mem_toList.mp member)]
  simp only [poolLine, enterPool, ofPid_append]
  by_cases heq : pid = payload.pid
  · subst heq
    have hself : ofPid payload.pid [payload] = [payload] :=
      ofPid_self (by simp)
    rw [Function.update_self, ofPid_self hstarted, hself, List.append_assoc,
      PQueue.add_fifo, List.append_assoc]
  · have hother : ofPid pid [payload] = [] :=
      ofPid_other (by simpa using Ne.symm heq)
    have hnone : ofPid pid ((state.poolQueues payload.pid).add
        payload).2.toList = [] :=
      ofPid_other fun other member => by
        rw [hstarted other member]
        exact Ne.symm heq
    rw [Function.update_of_ne heq, hother, hnone, List.append_nil,
      List.append_nil]

theorem enterProcess_line (state : State) (payload : Payload) (pid : Nat) :
    (state.enterProcess payload).processLine pid =
      state.processLine pid ++ ofPid pid [payload] := by
  have hfifo := congrArg (ofPid pid) (state.processQueue.add_fifo payload)
  rw [ofPid_append, ofPid_append] at hfifo
  simp only [enterProcess]
  split
  · next started hstarted =>
      rw [hstarted] at hfifo
      have hline := enterPool_line { state with
        processQueue := (state.processQueue.add payload).1 } started pid
      rw [processLine, hline, List.append_assoc]
      apply (congrArg (state.poolLine pid ++ ·) hfifo).trans
      rw [← List.append_assoc]
      rfl
  · next hnone =>
      rw [hnone] at hfifo
      apply (congrArg (state.poolLine pid ++ ·) hfifo).trans
      rw [← List.append_assoc]
      rfl

@[simp] theorem doAddJob_line (state : State) (payload : Payload) (pid : Nat) :
    (state.doAddJob payload).processLine pid =
      state.processLine pid ++ ofPid pid [payload] :=
  enterProcess_line _ payload pid

theorem traderAddBatchJob_line (state : State) (payload : Payload)
    (pid : Nat) :
    (state.traderAddBatchJob payload).traderLine pid =
      state.traderLine pid ++ ofPid pid [payload] := by
  have hfifo := congrArg (ofPid pid) (state.traderAddQueue.add_fifo payload)
  rw [ofPid_append, ofPid_append] at hfifo
  simp only [traderAddBatchJob]
  split
  · next started hstarted =>
      rw [hstarted] at hfifo
      have hline := doAddJob_line { state with
        traderAddQueue := (state.traderAddQueue.add payload).1 } started pid
      have hkept : (State.doAddJob { state with
          traderAddQueue := (state.traderAddQueue.add payload).1 }
          started).traderAddQueue =
            (state.traderAddQueue.add payload).1 := by
        simp only [doAddJob, enterProcess]
        split <;> rfl
      rw [traderLine, hline, hkept, List.append_assoc]
      apply (congrArg (state.processLine pid ++ ·) hfifo).trans
      rw [← List.append_assoc]
      rfl
  · next hnone =>
      rw [hnone] at hfifo
      apply (congrArg (state.processLine pid ++ ·) hfifo).trans
      rw [← List.append_assoc]
      rfl

theorem enterProcess_frame (state : State) (payload : Payload) :
    ∃ processQueue poolQueues started, state.enterProcess payload =
      { state with processQueue, poolQueues, started } := by
  simp only [enterProcess]
  split
  · exact ⟨_, _, _, rfl⟩
  · exact ⟨_, _, _, rfl⟩

theorem traderAddBatchJob_frame (state : State) (payload : Payload) :
    ∃ traderAddQueue processQueue poolQueues started added,
      state.traderAddBatchJob payload =
        { state with
          traderAddQueue, processQueue, poolQueues, started
          toManager := state.toManager ++ added } := by
  simp only [traderAddBatchJob]
  split
  · next first _ =>
      obtain ⟨processQueue, poolQueues, started, heq⟩ :=
        enterProcess_frame { state with
          traderAddQueue := (state.traderAddQueue.add payload).1
          toManager := state.toManager ++ [.added first.id] } first
      exact ⟨_, _, _, _, _, heq⟩
  · exact ⟨_, _, _, _, [], by rw [List.append_nil]⟩

end State

theorem PoolsOk.enterPool (h : PoolsOk state) (payload : Payload) :
    PoolsOk (state.enterPool payload) where
  pids := fun pid other member => by
    simp only [State.enterPool] at member
    by_cases heq : pid = payload.pid
    · subst heq
      rw [Function.update_self] at member
      rcases PQueue.mem_of_mem_add member with rfl | hold
      · rfl
      · exact h.pids _ other hold
    · rw [Function.update_of_ne heq] at member
      exact h.pids pid other member
  serial := fun pid => by
    have hstarted : ∀ other ∈ ((state.poolQueues payload.pid).add
        payload).2.toList, other.pid = payload.pid := fun other member => by
      rw [PQueue.add_started (Option.mem_toList.mp member)]
    simp only [State.enterPool, ofPid_append]
    by_cases heq : pid = payload.pid
    · subst heq
      rw [Function.update_self, PQueue.add_running, ofPid_self hstarted,
        h.serial, List.append_assoc]
    · have hnone : ofPid pid ((state.poolQueues payload.pid).add
          payload).2.toList = [] :=
        ofPid_other fun other member => by
          rw [hstarted other member]
          exact Ne.symm heq
      rw [Function.update_of_ne heq, hnone, List.append_nil, h.serial]
  single := fun pid => by
    simp only [State.enterPool]
    by_cases heq : pid = payload.pid
    · subst heq
      rw [Function.update_self, PQueue.add_concurrency, h.single]
    · rw [Function.update_of_ne heq, h.single]

theorem mem_enterPool {other : Payload}
    (h : other ∈ (state.poolQueues other.pid).running ∨
      other ∈ (state.poolQueues other.pid).waiting) :
    other ∈ ((state.enterPool payload).poolQueues other.pid).running ∨
      other ∈ ((state.enterPool payload).poolQueues other.pid).waiting := by
  simp only [State.enterPool]
  by_cases heq : other.pid = payload.pid
  · rw [heq, Function.update_self]
    rw [heq] at h
    exact PQueue.mem_add_of_mem _ h
  · rw [Function.update_of_ne heq]
    exact h

theorem SendOk.takeSlot (h : SendOk state) {processQueue : PQueue Payload}
    (payload : Payload)
    (hslots : processQueue.concurrency = TX_SEND_QUEUE_SIZE)
    (hrunning : ∀ other ∈ processQueue.running,
      other ∈ state.processQueue.running ∨ other = payload) :
    SendOk (State.enterPool { state with processQueue } payload) where
  toPoolsOk := by
    have hpools : PoolsOk { state with processQueue } :=
      { pids := h.pids, serial := h.serial, single := h.single }
    exact hpools.enterPool payload
  sendSlots := hslots
  slots := fun other member => by
    rcases hrunning other member with hold | rfl
    · rcases h.slots other hold with hended | hpool
      · exact Or.inl hended
      · exact Or.inr (@mem_enterPool { state with processQueue } payload other
          hpool)
    · apply Or.inr
      simp only [State.enterPool, Function.update_self]
      exact PQueue.mem_add _ _

theorem SendOk.enterProcess (h : SendOk state) (payload : Payload) :
    SendOk (state.enterProcess payload) := by
  have hrunning := state.processQueue.add_running payload
  simp only [State.enterProcess]
  split
  · next started hstarted =>
      apply h.takeSlot started (by simpa using h.sendSlots)
      intro other member
      rw [hrunning, hstarted] at member
      simpa using member
  · next hnone =>
      rw [hnone] at hrunning
      exact
        { pids := h.pids
          serial := h.serial
          single := h.single
          sendSlots := by simpa using h.sendSlots
          slots := fun other member => by
            rw [hrunning] at member
            exact h.slots other (by simpa using member) }

theorem SendOk.doAddJob (h : SendOk state) (payload : Payload) :
    SendOk (state.doAddJob payload) := by
  have hsend : SendOk { state with
      toManager := state.toManager ++ [.added payload.id] } :=
    { pids := h.pids, serial := h.serial, single := h.single,
      sendSlots := h.sendSlots, slots := h.slots }
  exact hsend.enterProcess payload

theorem SendOk.setAddQueue (h : SendOk state) (queue : PQueue Payload) :
    SendOk { state with traderAddQueue := queue } where
  pids := h.pids
  serial := h.serial
  single := h.single
  sendSlots := h.sendSlots
  slots := h.slots

theorem SendOk.traderAddBatchJob (h : SendOk state) (payload : Payload) :
    SendOk (state.traderAddBatchJob payload) := by
  simp only [State.traderAddBatchJob]
  split
  · exact (h.setAddQueue _).doAddJob _
  · exact h.setAddQueue _

theorem TraderOk.deliverToTrader (h : TraderOk state)
    (taken : state.deliverToTrader = some after) : TraderOk after := by
  obtain ⟨payload, rest, -, hmessages, rfl⟩ := State.deliverToTrader_cases taken
  have hsend : SendOk { state with toTrader := rest } :=
    { pids := h.pids, serial := h.serial, single := h.single,
      sendSlots := h.sendSlots, slots := h.slots }
  refine { hsend.traderAddBatchJob payload with order := ?_, addSlots := ?_ }
  · intro pid
    obtain ⟨_, _, _, _, _, hframe⟩ :=
      State.traderAddBatchJob_frame { state with toTrader := rest } payload
    have horder := h.order pid
    rw [State.traderAddBatchJob_line, hframe]
    rw [hmessages, ← List.singleton_append, ofPid_append,
      ← List.append_assoc] at horder
    exact horder
  · simp only [State.traderAddBatchJob]
    split
    · next started _ =>
        simp only [State.doAddJob, State.enterProcess]
        split <;> simpa [State.enterPool] using h.addSlots
    · simpa using h.addSlots

theorem TraderOk.doAddJobSettles (h : TraderOk state)
    (taken : state.doAddJobSettles payload = some after) : TraderOk after := by
  have hfifo := fun pid => congrArg (ofPid pid)
    (state.traderAddQueue.finish_fifo payload)
  obtain ⟨-, ⟨started, hstarted, rfl⟩ | ⟨hnone, rfl⟩⟩ :=
    State.doAddJobSettles_cases taken
  · refine { (h.toSendOk.setAddQueue _).doAddJob started with
      order := ?_, addSlots := ?_ }
    · intro pid
      obtain ⟨_, _, _, hframe⟩ := State.enterProcess_frame
        { state with
          traderAddQueue := (state.traderAddQueue.finish payload).1
          toManager := state.toManager ++ [.added started.id] } started
      have horder := h.order pid
      have hmoved := hfifo pid
      rw [hstarted, ofPid_append] at hmoved
      rw [State.traderLine, ← hmoved, ← List.append_assoc] at horder
      rw [State.traderLine, State.doAddJob_line]
      simp only [State.doAddJob, hframe]
      exact horder
    · simp only [State.doAddJob, State.enterProcess]
      split <;> simpa [State.enterPool] using h.addSlots
  · refine { h.toSendOk.setAddQueue _ with order := ?_, addSlots := ?_ }
    · intro pid
      have hmoved := hfifo pid
      rw [hnone] at hmoved
      have horder := h.order pid
      rw [State.traderLine, ← hmoved] at horder
      exact horder
    · simpa using h.addSlots

theorem TraderOk.processBatchEnds {outcome : State.Outcome}
    (h : TraderOk state)
    (taken : state.processBatchEnds payload outcome = some after) :
    TraderOk after := by
  obtain ⟨hguard, rfl⟩ := State.processBatchEnds_cases taken
  have hmember := hguard.1
  have hpid : ∀ other ∈ ((state.poolQueues payload.pid).finish
      payload).2.toList, other.pid = payload.pid := fun other member => by
    refine h.pids payload.pid other (Or.inr ?_)
    rw [← (state.poolQueues payload.pid).finish_fifo payload]
    exact List.mem_append_left _ member
  have hother : ∀ pid, pid ≠ payload.pid → ofPid pid
      ((state.poolQueues payload.pid).finish payload).2.toList = [] :=
    fun pid hne => ofPid_other fun other member => by
      rw [hpid other member]
      exact Ne.symm hne
  have hself : ofPid payload.pid [payload] = [payload] :=
    ofPid_self (by simp)
  have hsingle := PQueue.running_eq (h.single payload.pid) hmember
  have hfinished := PQueue.finish_single (h.single payload.pid) hmember
  refine
    { pids := ?_, serial := ?_, single := ?_, sendSlots := h.sendSlots,
      slots := ?_, order := ?_, addSlots := h.addSlots }
  · intro pid other member
    by_cases heq : pid = payload.pid
    · subst heq
      simp only [Function.update_self] at member
      rw [hfinished] at member
      rcases member with hstarted | hwaiting
      · exact hpid other hstarted
      · refine h.pids _ other (Or.inr ?_)
        rw [← (state.poolQueues payload.pid).finish_fifo payload]
        exact List.mem_append_right _ hwaiting
    · simp only [Function.update_of_ne heq] at member
      exact h.pids pid other member
  · intro pid
    simp only [ofPid_append]
    by_cases heq : pid = payload.pid
    · subst heq
      rw [Function.update_self, hself, ofPid_self hpid, hfinished, h.serial,
        hsingle]
    · have hnone : ofPid pid [payload] = [] :=
        ofPid_other (by simpa using Ne.symm heq)
      rw [Function.update_of_ne heq, hnone, hother pid heq,
        List.append_nil, List.append_nil, h.serial]
  · intro pid
    by_cases heq : pid = payload.pid
    · subst heq
      simpa using h.single payload.pid
    · simpa [heq] using h.single pid
  · intro other member
    rcases h.slots other member with hended | hpool
    · exact Or.inl (List.mem_append_left _ hended)
    · by_cases heq : other.pid = payload.pid
      · rw [heq] at hpool
        simp only [heq, Function.update_self]
        rcases hpool with hrunning | hwaiting
        · rw [hsingle, List.mem_singleton] at hrunning
          exact Or.inl (by simp [hrunning])
        · apply Or.inr
          rw [← (state.poolQueues payload.pid).finish_fifo payload,
            ← hfinished] at hwaiting
          exact List.mem_append.mp hwaiting
      · simp only [Function.update_of_ne heq]
        exact Or.inr hpool
  · intro pid
    apply (h.order pid).trans
    simp only [State.traderLine, State.processLine, State.poolLine,
      ofPid_append]
    by_cases heq : pid = payload.pid
    · subst heq
      rw [Function.update_self, ofPid_self hpid,
        ← (state.poolQueues payload.pid).finish_fifo payload]
      simp only [List.append_assoc]
    · rw [Function.update_of_ne heq, hother pid heq, List.append_nil]

theorem TraderOk.sendSlotFreed (h : TraderOk state)
    (taken : state.sendSlotFreed payload = some after) : TraderOk after := by
  have hfifo := fun pid => congrArg (ofPid pid)
    (state.processQueue.finish_fifo payload)
  obtain ⟨hguard, htaken⟩ := State.sendSlotFreed_cases taken
  have hrunning := PQueue.finish_running hguard.1
  obtain ⟨started, hstarted, rfl⟩ | ⟨hnone, rfl⟩ := htaken
  · refine { h.toSendOk.takeSlot started (by simpa using h.sendSlots) ?_
      with order := ?_, addSlots := h.addSlots }
    · intro other member
      rw [hrunning, hstarted] at member
      rcases List.mem_append.mp member with hold | hnew
      · exact Or.inl (List.mem_of_mem_erase hold)
      · exact Or.inr (by simpa using hnew)
    · intro pid
      have horder := h.order pid
      have hmoved := hfifo pid
      rw [hstarted, ofPid_append] at hmoved
      rw [State.traderLine, State.processLine, ← hmoved,
        ← List.append_assoc] at horder
      rw [State.traderLine, State.processLine, State.enterPool_line]
      exact horder
  · rw [hnone] at hrunning
    refine
      { pids := h.pids, serial := h.serial, single := h.single,
        sendSlots := by simpa using h.sendSlots, slots := ?_,
        order := ?_, addSlots := h.addSlots }
    · intro other member
      rw [hrunning] at member
      exact h.slots other
        (List.mem_of_mem_erase (by simpa using member))
    · intro pid
      have horder := h.order pid
      have hmoved := hfifo pid
      rw [hnone] at hmoved
      rw [State.traderLine, State.processLine, ← hmoved] at horder
      exact horder

theorem TraderOk.send (h : TraderOk state) (payload : Payload)
    {batches : Nat → Batch} {awaitingAdded : Bool} {batchJobs : List Nat} :
    TraderOk { state with
      batches, awaitingAdded, batchJobs
      toTrader := state.toTrader ++ [payload]
      sent := state.sent ++ [payload] } where
  pids := h.pids
  serial := h.serial
  single := h.single
  sendSlots := h.sendSlots
  slots := h.slots
  order := fun pid => by
    simp only [ofPid_append]
    rw [h.order pid, List.append_assoc]
    rfl
  addSlots := h.addSlots

end RuntimeBridge.Trade
