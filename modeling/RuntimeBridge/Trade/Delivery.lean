import RuntimeBridge.Trade.Progress

/-! While the trader lives, every job takes its calls to `processBatch` once
and in the order of its pool. -/

namespace RuntimeBridge.Trade

open Library

/-- Nothing can happen any more unless a job is added or the trader exits. -/
def State.Quiet (state : State) : Prop :=
  ∀ event, (∀ job, event ≠ .addJob job) → (∀ kept, event ≠ .exit kept) →
    step state event = none

/-- How far the jobs of every pool have come. -/
structure Delivered (state : State) : Prop where
  /-- Each job is in one batch of its pool, the batches in the order of their
  jobs, and the calls of a batch are the calls of its jobs. -/
  jobs : ∀ pid, (state.jobs.filter fun job => job.pid = pid) =
    (ofPool pid state.created).flatMap fun ref => (state.batches ref.id).jobs
  contents : ∀ ref ∈ state.created, BatchOk ref (state.batches ref.id)
  distinct : (state.created.map (·.id)).Nodup
  committed : ∀ pid, ofPool pid state.created =
    ofPool pid state.committed ++ (state.pools pid).currentBatch.toList
  /-- Only the timer of a current batch is running. -/
  timer : ∀ ref ∈ state.created,
    ((state.batches ref.id).commitTimeout = true ↔
      (state.pools ref.pid).currentBatch = some ref)
  sent : ∀ pid, (ofPid pid state.sent).map Payload.ref <+:
    ofPool pid state.committed
  sentCalls : ∀ payload ∈ state.sent,
    payload.calls = (state.batches payload.id).calls
  started : ∀ pid, ofPid pid state.started <+: ofPid pid state.sent
  /-- At most one execution of a pool has begun and not ended. -/
  serial : ∀ pid, ∃ current : Option Payload, ofPid pid state.started =
    ofPid pid state.ended ++ current.toList
  /-- Nothing is lost: what comes to rest has delivered everything. -/
  complete : state.Quiet → ∀ pid,
    (state.pools pid).currentBatch = none ∧
      (ofPid pid state.ended).map Payload.ref = ofPool pid state.created

variable {state : State}

namespace State.Quiet

theorem online (h : state.Quiet) : state.traderOnline = true := by
  by_contra honline
  have hboots := h .traderBoots (fun _ hsame => by cases hsame)
    fun _ hsame => by cases hsame
  simp [step, traderBoots, honline] at hboots

theorem toManager (h : state.Quiet) : state.toManager = [] := by
  have hdeliver := h .deliverToManager (fun _ hsame => by cases hsame)
    fun _ hsame => by cases hsame
  cases hmessages : state.toManager with
  | nil => rfl
  | cons message rest =>
      simp [step, deliverToManager, hmessages] at hdeliver

theorem toTrader (h : state.Quiet) : state.toTrader = [] := by
  have hdeliver := h .deliverToTrader (fun _ hsame => by cases hsame)
    fun _ hsame => by cases hsame
  cases hmessages : state.toTrader with
  | nil => rfl
  | cons payload rest =>
      simp [step, deliverToTrader, hmessages, h.online] at hdeliver

theorem status (h : state.Quiet) (ok : PipelineOk state) :
    state.status = .upIdle := by
  rcases ok.manager.up with hstarting | hup
  · have hsent := ok.progress.booting hstarting h.online
    rw [h.toManager] at hsent
    cases hsent
  · exact hup

theorem traderAddQueue (h : state.Quiet) (ok : PipelineOk state) :
    state.traderAddQueue.waiting = [] := by
  by_contra hwaiting
  obtain ⟨payload, hrunning⟩ := state.traderAddQueue.exists_running
    (by rw [ok.trader.addSlots]; exact Nat.one_pos) hwaiting
  have hsettles := h (.doAddJobSettles payload) (fun _ hsame => by cases hsame)
    fun _ hsame => by cases hsame
  simp only [step, doAddJobSettles, if_pos hrunning] at hsettles
  split at hsettles <;> cases hsettles

theorem addQueue (h : state.Quiet) (ok : PipelineOk state) :
    state.addQueue.running = [] ∧ state.addQueue.waiting = [] := by
  have hrunning : state.addQueue.running = [] := by
    by_contra hbusy
    obtain ⟨ref, hmember⟩ := List.exists_mem_of_ne_nil _ hbusy
    have hsingle := PQueue.running_eq ok.manager.single hmember
    cases hwait : state.awaitingAdded with
    | true =>
        rcases (ok.progress.acknowledging hwait ref hmember).2 with
          hadded | ⟨payload, -, hsent | hqueued⟩
        · rw [h.toManager] at hadded
          cases hadded
        · rw [h.toTrader] at hsent
          cases hsent
        · rw [h.traderAddQueue ok] at hqueued
          cases hqueued
    | false =>
        have hunsent : ref ∈ state.unsent := by
          rw [State.unsent, hwait, hsingle]
          simp
        have hcreated := ok.manager.created_of_committed
          (ok.manager.committed_of_unsent hunsent)
        obtain ⟨firstJob, rest, hjobs⟩ := List.exists_cons_of_ne_nil
          (ok.manager.contents ref hcreated).nonempty
        have hsend := h .addBatch (fun _ hsame => by cases hsame)
          fun _ hsame => by cases hsame
        simp [step, State.addBatch, hsingle, hwait, h.status ok,
          Status.isDown, Status.isUp, hjobs] at hsend
  refine ⟨hrunning, ?_⟩
  by_contra hwaiting
  obtain ⟨ref, hmember⟩ := state.addQueue.exists_running
    (by rw [ok.manager.single]; exact Nat.one_pos) hwaiting
  rw [hrunning] at hmember
  cases hmember

theorem poolQueue (h : state.Quiet) (ok : PipelineOk state) (pid : Nat) :
    (state.pools pid).queue = [] := by
  have hadding : (state.pools pid).adding = none := by
    cases hsome : (state.pools pid).adding with
    | none => rfl
    | some ref =>
        obtain ⟨hrunning, hwaiting⟩ := h.addQueue ok
        rcases (ok.progress.adding pid ref hsome).2 with hmember | hmember
        · rw [hrunning] at hmember
          cases hmember
        · rw [hwaiting] at hmember
          cases hmember
  cases hqueue : (state.pools pid).queue with
  | nil => rfl
  | cons item rest =>
      have hdequeue := h (.dequeue pid) (fun _ hsame => by cases hsame)
        fun _ hsame => by cases hsame
      simp [step, State.dequeue, hadding, hqueue] at hdequeue

theorem currentBatch (h : state.Quiet) (ok : PipelineOk state) (pid : Nat) :
    (state.pools pid).currentBatch = none := by
  cases hcurrent : (state.pools pid).currentBatch with
  | none => rfl
  | some ref =>
      obtain ⟨hcreated, hpid⟩ := ok.manager.created_of_current hcurrent
      have htimer := (ok.manager.timer ref hcreated).mpr
        (by rw [hpid]; exact hcurrent)
      have htimeout := h (.timeout ref) (fun _ hsame => by cases hsame)
        fun _ hsame => by cases hsame
      simp [step, State.timeout, hcreated, htimer] at htimeout

theorem poolRunning (h : state.Quiet) (pid : Nat) (ok : PipelineOk state) :
    (state.poolQueues pid).running = [] := by
  by_contra hbusy
  obtain ⟨payload, hmember⟩ := List.exists_mem_of_ne_nil _ hbusy
  have hpid := ok.trader.pids pid payload (Or.inl hmember)
  have hends := h (.processBatchEnds payload .thrown)
    (fun _ hsame => by cases hsame) fun _ hsame => by cases hsame
  simp [step, processBatchEnds, hpid, hmember, Outcome.isFinished] at hends

theorem poolWaiting (h : state.Quiet) (pid : Nat) (ok : PipelineOk state) :
    (state.poolQueues pid).waiting = [] := by
  by_contra hwaiting
  obtain ⟨payload, hmember⟩ := (state.poolQueues pid).exists_running
    (by rw [ok.trader.single]; exact Nat.one_pos) hwaiting
  rw [h.poolRunning pid ok] at hmember
  cases hmember

theorem processQueue (h : state.Quiet) (ok : PipelineOk state) :
    state.processQueue.waiting = [] := by
  by_contra hwaiting
  obtain ⟨payload, hmember⟩ := state.processQueue.exists_running
    (by rw [ok.trader.sendSlots]; exact Nat.succ_pos _) hwaiting
  rcases ok.trader.slots payload hmember with hended | hrunning | hqueued
  · have hfreed := h (.sendSlotFreed payload) (fun _ hsame => by cases hsame)
      fun _ hsame => by cases hsame
    simp only [step, sendSlotFreed, if_pos (And.intro hmember hended)] at hfreed
    split at hfreed <;> cases hfreed
  · rw [h.poolRunning payload.pid ok] at hrunning
    cases hrunning
  · rw [h.poolWaiting payload.pid ok] at hqueued
    cases hqueued

theorem ended_eq (h : state.Quiet) (ok : PipelineOk state) (pid : Nat) :
    (ofPid pid state.ended).map Payload.ref = ofPool pid state.created := by
  obtain ⟨hrunning, hwaiting⟩ := h.addQueue ok
  have hunsent : state.unsent = [] := by
    rw [State.unsent, hrunning]
    split <;> rfl
  have hstarted := ok.trader.serial pid
  rw [h.poolRunning pid ok, List.append_nil] at hstarted
  have hsent := ok.trader.order pid
  rw [traderLine, processLine, poolLine, h.poolWaiting pid ok,
    h.processQueue ok, h.traderAddQueue ok, h.toTrader, hstarted] at hsent
  simp only [ofPid_nil, List.append_nil] at hsent
  have hcommitted := ok.manager.sentOrder pid
  rw [hunsent, hwaiting, h.poolQueue ok, hsent] at hcommitted
  simp only [ofPool_nil, List.append_nil] at hcommitted
  have hcreated := ok.manager.order pid
  rw [h.currentBatch ok, Option.toList_none, List.append_nil, hcommitted]
    at hcreated
  exact hcreated.symm

end State.Quiet

theorem exists_current (queue : PQueue Payload) (hsingle : queue.concurrency = 1) :
    ∃ current : Option Payload, queue.running = current.toList := by
  cases hrunning : queue.running with
  | nil => exact ⟨none, rfl⟩
  | cons payload rest =>
      refine ⟨some payload, ?_⟩
      rw [← hrunning]
      exact PQueue.running_eq hsingle (by rw [hrunning]; simp)

theorem delivered_reachable (reached : pipeline.Reaches noExit state) :
    Delivered state := by
  have ok := pipelineOk_reachable reached
  exact
    { jobs := ok.manager.jobs
      contents := ok.manager.contents
      distinct := ok.manager.nodup
      committed := ok.manager.order
      timer := ok.manager.timer
      sent := fun pid => by
        rw [ok.manager.sentOrder, List.append_assoc, List.append_assoc]
        exact List.prefix_append _ _
      sentCalls := ok.manager.sentCalls
      started := fun pid => by
        rw [ok.trader.order, State.traderLine, State.processLine,
          State.poolLine]
        simp only [List.append_assoc]
        exact List.prefix_append _ _
      serial := fun pid => by
        obtain ⟨current, hcurrent⟩ :=
          exists_current (state.poolQueues pid) (ok.trader.single pid)
        exact ⟨current, by rw [ok.trader.serial, hcurrent]⟩
      complete := fun quiet pid =>
        ⟨quiet.currentBatch ok pid, quiet.ended_eq ok pid⟩ }

def deliveryRun : List Event :=
  let batch : BatchRef := { id := 0, pid := 7 }
  let calls : List Call := [[.property "phalaMq"], [.property "utility"]]
  let payload : Payload := { id := 0, pid := 7, calls }
  [.traderBoots, .deliverToManager,
    .addJob { id := 1, pid := 7, calls := [[.property "phalaMq"]] },
    .addJob { id := 2, pid := 7, calls := [[.property "utility"]] },
    .timeout batch, .dequeue 7, .addBatch, .deliverToTrader,
    .deliverToManager, .doAddJobSettles payload, .reportWorking payload,
    .processBatchEnds payload (.finished []), .sendSlotFreed payload,
    .deliverToManager, .deliverToManager]

theorem delivered_deliveryRun :
    (pipeline.ended deliveryRun).ended.map Payload.ref =
        [{ id := 0, pid := 7 }] ∧
      Delivered (pipeline.ended deliveryRun) := by
  refine ⟨by decide, delivered_reachable (Machine.reaches_ended ?_ (by decide))⟩
  intro _ event member kept hexit
  subst hexit
  simp [deliveryRun] at member

end RuntimeBridge.Trade
