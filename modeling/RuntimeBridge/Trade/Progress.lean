import RuntimeBridge.Trade.SendOrder

/-! While the trader lives, whoever waits in the pipeline waits for something
that is on its way. -/

namespace RuntimeBridge.Trade

open Library

/-- The batch is on its way to its acknowledgement. -/
def State.Acknowledging (state : State) (id : Nat) : Prop :=
  .added id ∈ state.toManager ∨ ∃ payload : Payload, payload.id = id ∧
    (payload ∈ state.toTrader ∨ payload ∈ state.traderAddQueue.waiting)

structure ProgressOk (state : State) : Prop where
  adding : ∀ pid ref, (state.pools pid).adding = some ref → ref.pid = pid ∧
    (ref ∈ state.addQueue.running ∨ ref ∈ state.addQueue.waiting)
  acknowledging : state.awaitingAdded = true →
    ∀ ref ∈ state.addQueue.running,
      ref.id ∈ state.batchJobs ∧ state.Acknowledging ref.id
  booting : state.status = .starting → state.traderOnline = true →
    .online ∈ state.toManager

variable {state after : State} {ref : BatchRef} {payload other : Payload}
  {pid : Nat}

namespace State

theorem traderAddBatchJob_acknowledges (state : State)
    (member : other ∈ state.traderAddQueue.waiting ∨ other = payload) :
    .added other.id ∈ (state.traderAddBatchJob payload).toManager ∨
      other ∈ (state.traderAddBatchJob payload).traderAddQueue.waiting := by
  have hmember : other ∈ (state.traderAddQueue.add payload).2.toList ++
      (state.traderAddQueue.add payload).1.waiting := by
    rw [PQueue.add_fifo]
    simpa using member
  simp only [traderAddBatchJob]
  split
  · next started hstarted =>
      obtain ⟨_, _, _, hframe⟩ := enterProcess_frame { state with
        traderAddQueue := (state.traderAddQueue.add payload).1
        toManager := state.toManager ++ [.added started.id] } started
      simp only [doAddJob, hframe]
      rw [hstarted] at hmember
      rcases List.mem_append.mp hmember with hfirst | hwaiting
      · refine Or.inl (List.mem_append_right _ ?_)
        rw [List.mem_singleton.mp hfirst]
        exact List.mem_singleton_self _
      · exact Or.inr hwaiting
  · next hnone =>
      rw [hnone] at hmember
      exact Or.inr (by simpa using hmember)

end State

namespace ProgressOk

theorem trader (h : ProgressOk state) {toTrader : List Payload}
    {toManager : List Message} {traderOnline : Bool}
    {traderAddQueue processQueue : PQueue Payload}
    {poolQueues : Nat → PQueue Payload} {reported : List Nat}
    {started ended : List Payload}
    (grown : ∀ message ∈ state.toManager, message ∈ toManager)
    (moved : ∀ payload, payload ∈ state.toTrader ∨
        payload ∈ state.traderAddQueue.waiting →
      .added payload.id ∈ toManager ∨
        payload ∈ toTrader ∨ payload ∈ traderAddQueue.waiting)
    (booted : traderOnline = true →
      state.traderOnline = true ∨ .online ∈ toManager) :
    ProgressOk { state with
      toTrader, toManager, traderOnline, traderAddQueue, processQueue,
      poolQueues, reported, started, ended } where
  adding := h.adding
  acknowledging := fun hwait ref member => by
    obtain ⟨hjob, hpending⟩ := h.acknowledging hwait ref member
    refine ⟨hjob, ?_⟩
    rcases hpending with hadded | ⟨payload, hid, hpayload⟩
    · exact Or.inl (grown _ hadded)
    · rcases moved payload hpayload with hadded | hmoved
      · exact Or.inl (hid ▸ hadded)
      · exact Or.inr ⟨payload, hid, hmoved⟩
  booting := fun hstatus honline => by
    rcases booted honline with hold | hsent
    · exact grown _ (h.booting hstatus hold)
    · exact hsent

theorem deliverToTrader (h : ProgressOk state)
    (taken : state.deliverToTrader = some after) : ProgressOk after := by
  obtain ⟨payload, rest, -, hmessages, rfl⟩ := State.deliverToTrader_cases taken
  have hadded := fun other => @State.traderAddBatchJob_acknowledges payload
    other { state with toTrader := rest }
  obtain ⟨_, _, _, _, _, hframe⟩ :=
    State.traderAddBatchJob_frame { state with toTrader := rest } payload
  rw [hframe] at hadded ⊢
  refine h.trader (fun message member => List.mem_append_left _ member)
    ?_ Or.inl
  intro other member
  rw [hmessages] at member
  rcases member with hsent | hwaiting
  · rcases List.mem_cons.mp hsent with rfl | hrest
    · exact (hadded other (Or.inr rfl)).imp_right Or.inr
    · exact Or.inr (Or.inl hrest)
  · exact (hadded other (Or.inl hwaiting)).imp_right Or.inr

theorem doAddJobSettles (h : ProgressOk state)
    (taken : state.doAddJobSettles payload = some after) :
    ProgressOk after := by
  have hfifo := state.traderAddQueue.finish_fifo payload
  obtain ⟨-, ⟨started, hstarted, rfl⟩ | ⟨hnone, rfl⟩⟩ :=
    State.doAddJobSettles_cases taken
  · obtain ⟨_, _, _, hframe⟩ := State.enterProcess_frame { state with
      traderAddQueue := (state.traderAddQueue.finish payload).1
      toManager := state.toManager ++ [.added started.id] } started
    simp only [State.doAddJob, hframe]
    refine h.trader (fun message member => List.mem_append_left _ member)
      ?_ Or.inl
    intro other member
    rcases member with hsent | hwaiting
    · exact Or.inr (Or.inl hsent)
    · rw [← hfifo, hstarted] at hwaiting
      rcases List.mem_append.mp hwaiting with hfirst | hstill
      · refine Or.inl (List.mem_append_right _ ?_)
        rw [List.mem_singleton.mp hfirst]
        exact List.mem_singleton_self _
      · exact Or.inr (Or.inr hstill)
  · refine h.trader (fun message member => member) ?_ Or.inl
    intro other member
    rw [← hfifo, hnone] at member
    exact Or.inr (by simpa using member)

theorem dequeue (h : ProgressOk state) (manager : ManagerOk state)
    (taken : state.dequeue pid = some after) : ProgressOk after := by
  obtain ⟨item, rest, hidle, hqueue, rfl⟩ := State.dequeue_cases taken
  have hpid : item.pid = pid :=
    (manager.committed_of_queued (by rw [hqueue]; simp)).2
  refine { adding := ?_, acknowledging := ?_, booting := h.booting }
  · intro other ref hadding
    simp only [State.addBatchJob, State.setPool] at hadding ⊢
    by_cases heq : other = pid
    · subst heq
      rw [Function.update_self] at hadding
      cases hadding
      exact ⟨hpid, PQueue.mem_add _ _⟩
    · rw [Function.update_of_ne heq] at hadding
      obtain ⟨hother, hmember⟩ := h.adding other ref hadding
      exact ⟨hother, PQueue.mem_add_of_mem _ hmember⟩
  · intro hwait ref member
    simp only [State.addBatchJob, State.setPool] at hwait member
    rw [PQueue.add_running, PQueue.add_of_full (manager.full hwait)]
      at member
    exact h.acknowledging hwait ref (by simpa using member)

theorem addBatch (h : ProgressOk state) (manager : ManagerOk state)
    (taken : state.addBatch = some after) : ProgressOk after := by
  obtain ⟨ref, payload, -, hrunning, -, href, -, rfl⟩ :=
    State.addBatch_cases manager taken
  refine { adding := h.adding, acknowledging := ?_, booting := h.booting }
  intro _ other member
  have hother : other = ref := by
    have hmember : other ∈ state.addQueue.running := member
    rw [hrunning] at hmember
    exact List.mem_singleton.mp hmember
  subst hother
  refine ⟨by simp, Or.inr ⟨payload, ?_, Or.inl (by simp)⟩⟩
  rw [← href]
  rfl

theorem settleAddBatch (h : ProgressOk state)
    (running : ref ∈ state.addQueue.running) {batches : Nat → Batch}
    {toManager : List Message}
    (booting : state.status = .starting → state.traderOnline = true →
      .online ∈ toManager) :
    ProgressOk (State.settleAddBatch { state with batches, toManager } ref) where
  adding := fun pid other hadding => by
    simp only [State.settleAddBatch, State.setPool] at hadding ⊢
    by_cases heq : pid = ref.pid
    · subst heq
      rw [Function.update_self] at hadding
      cases hadding
    · rw [Function.update_of_ne heq] at hadding
      obtain ⟨hpid, hmember⟩ := h.adding pid other hadding
      refine ⟨hpid, PQueue.mem_finish_of_ne running ?_ hmember⟩
      intro hsame
      exact heq (by rw [← hpid, hsame])
  acknowledging := fun hwait => by
    cases hwait
  booting := booting

/-- A message is taken that nobody in the pipeline waits for any more. -/
theorem take (h : ProgressOk state) {message : Message} {rest : List Message}
    (messages : state.toManager = message :: rest) {batches : Nat → Batch}
    {status : Status}
    (kept : state.awaitingAdded = true →
      ∀ ref ∈ state.addQueue.running, message ≠ .added ref.id)
    (booting : status = .starting →
      state.status = .starting ∧ message ≠ .online) :
    ProgressOk { state with batches, status, toManager := rest } where
  adding := h.adding
  acknowledging := fun hwait ref member => by
    obtain ⟨hjob, hpending⟩ := h.acknowledging hwait ref member
    refine ⟨hjob, hpending.imp_left fun hadded => ?_⟩
    rw [messages] at hadded
    exact List.mem_of_ne_of_mem (Ne.symm (kept hwait ref member)) hadded
  booting := fun hstatus honline => by
    obtain ⟨hstarting, hmessage⟩ := booting hstatus
    have hsent := h.booting hstarting honline
    rw [messages] at hsent
    exact List.mem_of_ne_of_mem (Ne.symm hmessage) hsent

theorem deliverToManager (h : ProgressOk state) (manager : ManagerOk state)
    (taken : state.deliverToManager = some after) : ProgressOk after := by
  obtain ⟨message, rest, hmessages, rfl⟩ := State.deliverToManager_cases taken
  cases message with
  | online =>
      exact h.take hmessages (fun _ _ _ hsame => by cases hsame)
        (fun hstatus => by cases hstatus)
  | added number =>
      have hstatus : state.status = .starting →
          state.status = .starting ∧ Message.added number ≠ .online :=
        fun hstarting => ⟨hstarting, fun hsame => by cases hsame⟩
      simp only [State.handleProcessMessage, State.onBatchJobAdded]
      split
      · split
        · next ref hhead =>
            have hmember := List.mem_of_head? hhead
            split
            · apply h.settleAddBatch hmember
              intro hstarting honline
              have hsent := h.booting hstarting honline
              rw [hmessages] at hsent
              exact List.mem_of_ne_of_mem (fun hsame => by cases hsame)
                hsent
            · next hguard =>
                refine h.take hmessages ?_ hstatus
                intro hwait other member hsame
                have hrunning : state.addQueue.running = [ref] :=
                  PQueue.running_eq manager.single hmember
                rw [hrunning, List.mem_singleton] at member
                subst member
                exact hguard ⟨hwait, (Message.added.inj hsame).symm⟩
        · next hhead =>
            refine h.take hmessages ?_ hstatus
            intro _ other member
            have hnone : state.addQueue.running = [] :=
              List.head?_eq_none_iff.mp hhead
            rw [hnone] at member
            cases member
      · next hjobs =>
          refine h.take hmessages ?_ hstatus
          intro hwait other member hsame
          apply hjobs
          rw [Message.added.inj hsame]
          exact (h.acknowledging hwait other member).1
  | working number =>
      simp only [State.handleProcessMessage, State.onBatchJobWorking]
      split <;> exact h.take hmessages (fun _ _ _ hsame => by cases hsame)
        fun hstarting => ⟨hstarting, fun hsame => by cases hsame⟩
  | finished number failedCalls =>
      simp only [State.handleProcessMessage, State.onBatchJobFinished]
      split <;> exact h.take hmessages (fun _ _ _ hsame => by cases hsame)
        fun hstarting => ⟨hstarting, fun hsame => by cases hsame⟩
  | failed number error =>
      simp only [State.handleProcessMessage, State.onBatchJobFailed]
      split <;> exact h.take hmessages (fun _ _ _ hsame => by cases hsame)
        fun hstarting => ⟨hstarting, fun hsame => by cases hsame⟩

end ProgressOk

structure PipelineOk (state : State) : Prop where
  manager : ManagerOk state
  trader : TraderOk state
  progress : ProgressOk state

theorem pipelineOk_start : PipelineOk pipeline.start where
  manager := managerOk_start
  trader :=
    { pids := fun _ _ member => by
        rcases member with member | member <;> cases member
      serial := fun _ => rfl
      single := fun _ => rfl
      sendSlots := rfl
      slots := fun _ member => by cases member
      order := fun _ => rfl
      addSlots := rfl }
  progress :=
    { adding := fun _ _ hadding => by cases hadding
      acknowledging := fun hwait => by cases hwait
      booting := fun _ honline => by cases honline }

theorem PipelineOk.bus (h : PipelineOk state) {nextId : Nat}
    {batches : Nat → Batch} {pools : Nat → PoolQueue} {jobs : List Job}
    {created committed : List BatchRef}
    (adding : ∀ pid, (pools pid).adding = (state.pools pid).adding)
    (manager : ManagerOk { state with
      nextId, batches, pools, jobs, created, committed }) :
    PipelineOk { state with
      nextId, batches, pools, jobs, created, committed } where
  manager := manager
  trader := { h.trader with }
  progress :=
    { adding := fun pid ref hadding =>
        h.progress.adding pid ref (by rw [← adding]; exact hadding)
      acknowledging := h.progress.acknowledging
      booting := h.progress.booting }

theorem pipelineOk_step : pipeline.Preserves noExit PipelineOk := by
  intro state event after admitted h taken
  have hmanager := managerOk_step state event after True.intro h.manager taken
  cases event with
  | addJob job =>
      cases taken
      obtain ⟨_, _, _, _, _, _, hframe, hadding, -⟩ := state.addJob_frame job
      rw [hframe] at hmanager ⊢
      exact h.bus hadding hmanager
  | timeout ref =>
      obtain ⟨-, rfl⟩ := State.timeout_cases taken
      obtain ⟨_, _, _, hframe, hadding, -⟩ := state.commit_frame ref
      rw [hframe] at hmanager ⊢
      exact h.bus hadding hmanager
  | dequeue pid =>
      have hprogress := h.progress.dequeue h.manager taken
      obtain ⟨_, _, -, -, rfl⟩ := State.dequeue_cases taken
      exact
        { manager := hmanager
          trader := { h.trader with }
          progress := hprogress }
  | addBatch =>
      have hprogress := h.progress.addBatch h.manager taken
      obtain ⟨_, payload, -, -, -, -, -, rfl⟩ :=
        State.addBatch_cases h.manager taken
      exact
        { manager := hmanager
          trader := h.trader.send payload
          progress := hprogress }
  | deliverToTrader =>
      exact
        { manager := hmanager
          trader := h.trader.deliverToTrader taken
          progress := h.progress.deliverToTrader taken }
  | doAddJobSettles payload =>
      exact
        { manager := hmanager
          trader := h.trader.doAddJobSettles taken
          progress := h.progress.doAddJobSettles taken }
  | reportWorking payload =>
      obtain ⟨-, rfl⟩ := State.reportWorking_cases taken
      exact
        { manager := hmanager
          trader := { h.trader with }
          progress := h.progress.trader
            (fun _ member => List.mem_append_left _ member)
            (fun _ member => Or.inr member) Or.inl }
  | processBatchEnds payload outcome =>
      have htrader := h.trader.processBatchEnds taken
      obtain ⟨-, rfl⟩ := State.processBatchEnds_cases taken
      exact
        { manager := hmanager
          trader := htrader
          progress := h.progress.trader
            (fun _ member => List.mem_append_left _ member)
            (fun _ member => Or.inr member) Or.inl }
  | sendSlotFreed payload =>
      have htrader := h.trader.sendSlotFreed taken
      have hprogress : ∀ processQueue poolQueues started,
          ProgressOk { state with processQueue, poolQueues, started } :=
        fun _ _ _ => h.progress.trader (fun _ member => member)
          (fun _ member => Or.inr member) Or.inl
      obtain ⟨-, ⟨_, -, rfl⟩ | ⟨-, rfl⟩⟩ := State.sendSlotFreed_cases taken
      · exact
          { manager := hmanager
            trader := htrader
            progress := hprogress _ _ _ }
      · exact
          { manager := hmanager
            trader := htrader
            progress := hprogress _ _ _ }
  | deliverToManager =>
      have hprogress := h.progress.deliverToManager h.manager taken
      obtain ⟨message, rest, -, rfl⟩ := State.deliverToManager_cases taken
      refine
        { manager := hmanager
          trader := ?_
          progress := hprogress }
      obtain ⟨_, _, _, _, _, hframe⟩ :=
        State.handleProcessMessage_frame { state with toManager := rest }
          message
      rw [hframe]
      exact { h.trader with }
  | traderBoots =>
      obtain ⟨-, rfl⟩ := State.traderBoots_cases taken
      exact
        { manager := hmanager
          trader := { h.trader with }
          progress := h.progress.trader
            (fun _ member => List.mem_append_left _ member)
            (fun _ member => Or.inr member)
            (fun _ => Or.inr (by simp)) }
  | exit kept =>
      exact absurd rfl (admitted kept)

theorem pipelineOk_reachable (reached : pipeline.Reaches noExit state) :
    PipelineOk state :=
  pipelineOk_step.reaches pipelineOk_start reached

end RuntimeBridge.Trade
