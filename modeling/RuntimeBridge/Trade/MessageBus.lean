import RuntimeBridge.Trade.Answers
import RuntimeBridge.Trade.ProcessJob

/-! The jobs that `startMessageBus` takes from its queue, over the pool queues
and the trader that they share. -/

namespace RuntimeBridge.Trade

open Library

def Batch.attempt (batch : Batch) : Attempt where
  startedPromise := batch.startedPromise
  finishedPromise := batch.finishedPromise

/-- A run of the function that is given to `inputQueue.process`. -/
structure JobHandler where
  callMeta : CallMeta
  proc : JobProc
  remainingRetries : Nat
  /-- What `addJob` returned, once for every attempt. -/
  batches : List BatchRef
  deriving DecidableEq, Repr

/-- `callMeta` is what `preprocess` makes of the job, if it makes anything. -/
def JobHandler.begins (callMeta : CallMeta) : JobHandler where
  callMeta
  proc := .reportsInit
  remainingRetries := 0
  batches := []

/-- The promises of the batches of a handler, as they stand. -/
def JobHandler.attempts (pipe : State) (handler : JobHandler) (number : Nat) :
    Attempt :=
  match handler.batches[number]? with
  | some ref => (pipe.batches ref.id).attempt
  | none => .fresh

def JobHandler.job (pipe : State) (handler : JobHandler) : JobState where
  proc := handler.proc
  remainingRetries := handler.remainingRetries
  attempts := handler.attempts pipe
  enqueued := handler.batches.length

structure MessageBus where
  pipe : State
  handlers : List JobHandler

/-- What happens in the handler itself.  The promises of its batches are settled
by the manager of the trader. -/
def JobEvent.isOwn : JobEvent → Bool
  | .reportResolves | .reportRejects _ | .preprocessed _ | .continues => true
  | _ => false

namespace MessageBus

def initial : MessageBus where
  pipe := .initial
  handlers := []

/-- A handler goes on.  Where it comes to `enqueue`, its calls are added to the
current batch of the pool. -/
def goesOn (bus : MessageBus) (place : Nat) (event : JobEvent) :
    Option MessageBus := do
  let handler ← bus.handlers[place]?
  if event.isOwn then
    let after ← (handler.job bus.pipe).step handler.callMeta event
    let moved : JobHandler :=
      { handler with
        proc := after.proc
        remainingRetries := after.remainingRetries }
    if after.enqueued = handler.batches.length then
      return { bus with handlers := bus.handlers.set place moved }
    else
      let batch := (bus.pipe.findBatch handler.callMeta.pid).2
      return {
        pipe := bus.pipe.addJob handler.callMeta.toJob
        handlers := bus.handlers.set place
          { moved with batches := handler.batches ++ [batch] } }
  else
    none

end MessageBus

inductive BusEvent where
  | receives (callMeta : CallMeta)
  | goesOn (place : Nat) (event : JobEvent)
  | moves (event : Event)

def MessageBus.step (bus : MessageBus) : BusEvent → Option MessageBus
  | .receives callMeta => some { bus with
      handlers := bus.handlers ++ [.begins callMeta] }
  | .goesOn place event => bus.goesOn place event
  | .moves (.addJob _) => none
  | .moves event => (Trade.step bus.pipe event).map fun pipe =>
      { bus with pipe }

/-- What a message of the trader makes of the promises of its batch. -/
inductive Batch.Told (batch : Batch) (id : Nat) : Message → Attempt → Prop
  | working : Told batch id (.working id)
      { batch.attempt with
        startedPromise := batch.startedPromise.resolve () }
  | finished (failedCalls : List FailedCall) :
      Told batch id (.finished id failedCalls)
        { batch.attempt with
          finishedPromise := batch.finishedPromise.resolve
            { indexes := failedCalls.map (batch.callToJobId[·.index]?)
              reasons := failedCalls } }
  | failed (error : String) : Told batch id (.failed id error)
      { startedPromise := batch.startedPromise.reject error
        finishedPromise := batch.finishedPromise.reject error }

/-- What a step of the pipeline leaves of the batches. -/
structure State.Moves (state after : State) : Prop where
  /-- Only a batch that was sent is told of anything. -/
  attempts : (∀ id, (after.batches id).attempt = (state.batches id).attempt) ∨
    ∃ message ∈ state.toManager, ∃ number ∈ state.batchJobs,
      (state.batches number).Told number message
        (after.batches number).attempt ∧
      ∀ id, id ≠ number →
        (after.batches id).attempt = (state.batches id).attempt
  jobs : ∀ id < state.nextId, ∀ job ∈ (state.batches id).jobs,
    job ∈ (after.batches id).jobs
  callToJobId : ∀ id ∈ state.batchJobs,
    (after.batches id).callToJobId = (state.batches id).callToJobId
  created : ∀ ref ∈ state.created, ref ∈ after.created
  batchJobs : ∀ id ∈ state.batchJobs, id ∈ after.batchJobs
  sent : ∀ payload ∈ state.sent, payload ∈ after.sent

/-- The pipeline under its jobs.  A batch that was not sent is told nothing. -/
structure PipeOk (state : State) : Prop where
  manager : ManagerOk state
  answers : AnswerOk state
  untold : ∀ id, id ∉ state.batchJobs → (state.batches id).attempt = .fresh

variable {state after : State} {event : Event} {job : Job} {id : Nat}

namespace State

theorem Moves.of_batches (hbatches : after.batches = state.batches)
    (created : ∀ ref ∈ state.created, ref ∈ after.created)
    (batchJobs : ∀ id ∈ state.batchJobs, id ∈ after.batchJobs)
    (sent : ∀ payload ∈ state.sent, payload ∈ after.sent) :
    state.Moves after where
  attempts := Or.inl fun id => by rw [hbatches]
  jobs := fun id _ job member => by rwa [hbatches]
  callToJobId := fun id _ => by rw [hbatches]
  created := created
  batchJobs := batchJobs
  sent := sent

/-- Only the promises of a batch change. -/
theorem Moves.of_update {number : Nat} {batch : Batch}
    (hbatches : after.batches = Function.update state.batches number batch)
    (jobs : batch.jobs = (state.batches number).jobs)
    (callToJobId : batch.callToJobId = (state.batches number).callToJobId)
    (told : batch.attempt = (state.batches number).attempt ∨
      ∃ message ∈ state.toManager, number ∈ state.batchJobs ∧
        (state.batches number).Told number message batch.attempt)
    (created : ∀ ref ∈ state.created, ref ∈ after.created)
    (batchJobs : ∀ id ∈ state.batchJobs, id ∈ after.batchJobs)
    (sent : ∀ payload ∈ state.sent, payload ∈ after.sent) :
    state.Moves after where
  attempts := by
    rcases told with hsame | ⟨message, hmessage, hsent, htold⟩
    · left
      rw [hbatches]
      exact update_field Batch.attempt hsame
    · refine Or.inr ⟨message, hmessage, number, hsent, ?_, fun id hne => ?_⟩
      · rwa [hbatches, Function.update_self]
      · rw [hbatches, Function.update_of_ne hne]
  jobs := fun id _ job member => by
    rwa [hbatches, update_field Batch.jobs jobs]
  callToJobId := fun id _ => by
    rw [hbatches]
    exact update_field Batch.callToJobId callToJobId id
  created := created
  batchJobs := batchJobs
  sent := sent

theorem commit_batches (state : State) (ref : BatchRef) :
    (state.commit ref).batches = Function.update state.batches ref.id
      { state.batches ref.id with commitTimeout := false } := rfl

/-- `findBatch` only fills in the batch that it creates. -/
theorem findBatch_batches (state : State) (pid : Nat) (hne : id ≠ state.nextId) :
    (((state.findBatch pid).1.batches id).jobs = (state.batches id).jobs ∧
      ((state.findBatch pid).1.batches id).callToJobId =
        (state.batches id).callToJobId) := by
  simp only [findBatch]
  split
  · simp [createBatch, setPool, setBatch, hne]
  · next ref _ =>
      split
      · have hnext : id ≠ (state.commit ref).nextId := hne
        simp only [createBatch, setPool, setBatch, Function.update_of_ne hnext,
          commit_batches]
        exact ⟨update_field Batch.jobs (by rfl) id,
          update_field Batch.callToJobId (by rfl) id⟩
      · exact ⟨rfl, rfl⟩

theorem findBatch_attempt (state : State) (pid : Nat)
    (fresh : (state.batches state.nextId).attempt = .fresh) (id : Nat) :
    ((state.findBatch pid).1.batches id).attempt =
      (state.batches id).attempt := by
  have hcreates : ∀ batches : Nat → Batch,
      (batches state.nextId).attempt = .fresh →
      (Function.update batches state.nextId .fresh id).attempt =
        (batches id).attempt := fun batches hfresh =>
    update_field Batch.attempt (hfresh ▸ rfl) id
  simp only [findBatch]
  split
  · exact hcreates state.batches fresh
  · next ref _ =>
      split
      · have hcommits : ∀ id, ((state.commit ref).batches id).attempt =
            (state.batches id).attempt := fun id => by
          rw [commit_batches]
          exact update_field Batch.attempt (by rfl) id
        rw [← hcommits id]
        exact hcreates (state.commit ref).batches
          ((hcommits state.nextId).trans fresh)
      · rfl

theorem findBatch_cases (state : State) (pid : Nat) :
    (∃ ref, (state.pools pid).currentBatch = some ref ∧
        state.findBatch pid = (state, ref)) ∨
      ∃ found, state.findBatch pid = (found, { id := state.nextId, pid }) ∧
        found.created = state.created ++ [{ id := state.nextId, pid }] := by
  simp only [findBatch]
  split
  · exact Or.inr ⟨_, rfl, rfl⟩
  · next ref hcurrent =>
      split
      · exact Or.inr ⟨_, rfl, rfl⟩
      · exact Or.inl ⟨ref, hcurrent, rfl⟩

theorem addJob_jobs (state : State) (job : Job) :
    job ∈ ((state.addJob job).batches
      (state.findBatch job.pid).2.id).jobs := by
  simp only [addJob, setBatch, Function.update_self, Batch.addCalls]
  exact List.mem_append_right _ (List.mem_singleton.mpr rfl)

theorem addJob_attempt (state : State) (job : Job)
    (fresh : (state.batches state.nextId).attempt = .fresh) (id : Nat) :
    ((state.addJob job).batches id).attempt = (state.batches id).attempt := by
  rw [← state.findBatch_attempt job.pid fresh id]
  simp only [addJob, setBatch]
  exact update_field Batch.attempt (by rfl) id

end State

namespace PipeOk

/-- The batch that a job comes into was not sent. -/
theorem found (h : PipeOk state) (job : Job) :
    (state.findBatch job.pid).2 ∈ (state.addJob job).created ∧
      (state.findBatch job.pid).2.id ∉ state.batchJobs := by
  have hsent : ∀ id ∈ state.batchJobs, ∃ payload ∈ state.sent,
      payload.id = id := fun id member => by
    rw [h.answers.registered] at member
    exact List.mem_map.mp member
  rcases state.findBatch_cases job.pid with
    ⟨ref, hcurrent, hfound⟩ | ⟨found, hfound, hcreated⟩
  · simp only [State.addJob, State.setBatch, hfound]
    refine ⟨(h.manager.created_of_current hcurrent).1, fun member => ?_⟩
    obtain ⟨payload, hpayload, hsame⟩ := hsent _ member
    exact h.manager.current_uncommitted hcurrent
      (h.manager.committed_of_sent hpayload) hsame
  · simp only [State.addJob, State.setBatch, hfound, hcreated]
    refine ⟨by simp, fun member => ?_⟩
    obtain ⟨payload, hpayload, hsame⟩ := hsent _ member
    exact absurd hsame (Nat.ne_of_lt (h.manager.sent_lt hpayload))

theorem fresh (h : PipeOk state) :
    (state.batches state.nextId).attempt = .fresh := by
  refine h.untold _ fun member => ?_
  rw [h.answers.registered] at member
  obtain ⟨payload, hsent, hsame⟩ := List.mem_map.mp member
  exact absurd hsame (Nat.ne_of_lt (h.manager.sent_lt hsent))

theorem addJob_moves (h : PipeOk state) (job : Job) :
    state.Moves (state.addJob job) where
  attempts := Or.inl (state.addJob_attempt job h.fresh)
  jobs := fun id hlt other member => by
    have hold := (state.findBatch_batches job.pid (Nat.ne_of_lt hlt)).1
    rw [← hold] at member
    simp only [State.addJob, State.setBatch]
    rcases eq_or_ne id (state.findBatch job.pid).2.id with rfl | hne
    · rw [Function.update_self]
      exact List.mem_append_left _ member
    · rwa [Function.update_of_ne hne]
  callToJobId := fun id member => by
    have hne : id ≠ (state.findBatch job.pid).2.id := fun hsame =>
      (h.found job).2 (hsame ▸ member)
    have hnext : id ≠ state.nextId := fun hsame => by
      rw [h.answers.registered] at member
      obtain ⟨payload, hsent, rfl⟩ := List.mem_map.mp member
      exact absurd hsame (Nat.ne_of_lt (h.manager.sent_lt hsent))
    simp only [State.addJob, State.setBatch, Function.update_of_ne hne]
    exact (state.findBatch_batches job.pid hnext).2
  created := fun ref member => by
    rcases state.findBatch_cases job.pid with
      ⟨_, _, hfound⟩ | ⟨found, hfound, hcreated⟩
    · simpa only [State.addJob, State.setBatch, hfound]
    · simp only [State.addJob, State.setBatch, hfound, hcreated]
      exact List.mem_append_left _ member
  batchJobs := fun id member => by
    obtain ⟨_, _, _, _, _, _, hframe, -⟩ := state.addJob_frame job
    rwa [hframe]
  sent := fun payload member => by
    obtain ⟨_, _, _, _, _, _, hframe, -⟩ := state.addJob_frame job
    rwa [hframe]

theorem deliver_moves {message : Message} {rest : List Message}
    (h : state.toManager = message :: rest) :
    state.Moves (State.handleProcessMessage { state with toManager := rest }
      message) := by
  have hmessage : message ∈ state.toManager := by
    rw [h]
    exact List.mem_cons_self
  have hset : ∀ (number : Nat) (batch : Batch) (after : State),
      after.batches = Function.update state.batches number batch →
      batch.jobs = (state.batches number).jobs →
      batch.callToJobId = (state.batches number).callToJobId →
      (batch.attempt = (state.batches number).attempt ∨
        number ∈ state.batchJobs ∧
          (state.batches number).Told number message batch.attempt) →
      after.created = state.created → after.batchJobs = state.batchJobs →
      after.sent = state.sent → state.Moves after :=
    fun number batch after hbatches hjobs hcalls htold hcreated hids hsent =>
      .of_update hbatches hjobs hcalls
        (htold.imp_right fun htold => ⟨message, hmessage, htold⟩)
        (fun _ member => hcreated ▸ member) (fun _ member => hids ▸ member)
        fun _ member => hsent ▸ member
  have hstays : state.Moves { state with toManager := rest } :=
    .of_batches rfl (fun _ h => h) (fun _ h => h) fun _ h => h
  cases message with
  | online => exact .of_batches rfl (fun _ h => h) (fun _ h => h) fun _ h => h
  | added number =>
      simp only [State.handleProcessMessage, State.onBatchJobAdded]
      have hadds := hset number { state.batches number with
        addedPromise := (state.batches number).addedPromise.resolve () }
      split
      · split
        · split
          · exact hadds _ rfl rfl rfl (Or.inl rfl) rfl rfl rfl
          · exact hadds _ rfl rfl rfl (Or.inl rfl) rfl rfl rfl
        · exact hadds _ rfl rfl rfl (Or.inl rfl) rfl rfl rfl
      · exact hstays
  | working number =>
      simp only [State.handleProcessMessage, State.onBatchJobWorking]
      split
      · next hsent =>
          exact hset number _ _ rfl rfl rfl (Or.inr ⟨hsent, .working⟩) rfl rfl
            rfl
      · exact hstays
  | finished number failedCalls =>
      simp only [State.handleProcessMessage, State.onBatchJobFinished]
      split
      · next hsent =>
          exact hset number _ _ rfl rfl rfl
            (Or.inr ⟨hsent, .finished failedCalls⟩) rfl rfl rfl
      · exact hstays
  | failed number error =>
      simp only [State.handleProcessMessage, State.onBatchJobFailed]
      split
      · next hsent =>
          exact hset number _ _ rfl rfl rfl
            (Or.inr ⟨hsent, .failed error⟩) rfl rfl rfl
      · exact hstays

theorem step_moves (h : PipeOk state) (taken : step state event = some after) :
    state.Moves after := by
  cases event with
  | addJob job =>
      cases taken
      exact h.addJob_moves job
  | timeout ref =>
      obtain ⟨-, rfl⟩ := State.timeout_cases taken
      exact .of_update (state.commit_batches ref) rfl rfl (Or.inl rfl)
        (fun _ h => h) (fun _ h => h) fun _ h => h
  | dequeue pid =>
      obtain ⟨item, rest, -, -, rfl⟩ := State.dequeue_cases taken
      exact .of_batches rfl (fun _ h => h) (fun _ h => h) fun _ h => h
  | addBatch =>
      obtain ⟨ref, payload, -, -, -, -, -, rfl⟩ :=
        State.addBatch_cases h.manager taken
      exact @State.Moves.of_update state _ ref.id
        { state.batches ref.id with addedPromise := .pending } rfl rfl rfl
        (Or.inl rfl) (fun _ h => h) (fun _ => List.mem_append_left _)
        fun _ => List.mem_append_left _
  | deliverToTrader =>
      obtain ⟨payload, rest, -, -, rfl⟩ := State.deliverToTrader_cases taken
      obtain ⟨_, _, _, _, _, hframe⟩ := State.traderAddBatchJob_frame
        { state with toTrader := rest } payload
      rw [hframe]
      exact .of_batches rfl (fun _ h => h) (fun _ h => h) fun _ h => h
  | doAddJobSettles payload =>
      obtain ⟨-, ⟨started, -, rfl⟩ | ⟨-, rfl⟩⟩ :=
        State.doAddJobSettles_cases taken
      · obtain ⟨_, _, _, hframe⟩ := State.enterProcess_frame { state with
          traderAddQueue := (state.traderAddQueue.finish payload).1
          toManager := state.toManager ++ [.added started.id] } started
        simp only [State.doAddJob, hframe]
        exact .of_batches rfl (fun _ h => h) (fun _ h => h) fun _ h => h
      · exact .of_batches rfl (fun _ h => h) (fun _ h => h) fun _ h => h
  | reportWorking payload =>
      obtain ⟨-, rfl⟩ := State.reportWorking_cases taken
      exact .of_batches rfl (fun _ h => h) (fun _ h => h) fun _ h => h
  | processBatchEnds payload outcome =>
      obtain ⟨-, rfl⟩ := State.processBatchEnds_cases taken
      exact .of_batches rfl (fun _ h => h) (fun _ h => h) fun _ h => h
  | sendSlotFreed payload =>
      obtain ⟨-, ⟨_, -, rfl⟩ | ⟨-, rfl⟩⟩ := State.sendSlotFreed_cases taken
      · exact .of_batches rfl (fun _ h => h) (fun _ h => h) fun _ h => h
      · exact .of_batches rfl (fun _ h => h) (fun _ h => h) fun _ h => h
  | deliverToManager =>
      obtain ⟨message, rest, hmessages, rfl⟩ :=
        State.deliverToManager_cases taken
      exact deliver_moves hmessages
  | traderBoots =>
      obtain ⟨-, rfl⟩ := State.traderBoots_cases taken
      exact .of_batches rfl (fun _ h => h) (fun _ h => h) fun _ h => h
  | exit kept =>
      cases taken
      rw [State.processExits_eq h.manager]
      exact .of_batches rfl (fun _ h => h) (fun _ h => h) fun _ h => h

theorem step (h : PipeOk state) (taken : step state event = some after) :
    PipeOk after := by
  obtain ⟨hmanager, hanswers⟩ := answerOk_step state event after True.intro
    ⟨h.manager, h.answers⟩ taken
  have hmoves := h.step_moves taken
  refine ⟨hmanager, hanswers, fun id hunsent => ?_⟩
  have hbefore : id ∉ state.batchJobs := fun member =>
    hunsent (hmoves.batchJobs id member)
  rcases hmoves.attempts with hsame | ⟨_, -, number, hsent, -, hsame⟩
  · rw [hsame, h.untold id hbefore]
  · rw [hsame id fun heq => hbefore (heq ▸ hsent), h.untold id hbefore]

theorem start : PipeOk .initial where
  manager := managerOk_start
  answers := answerOk_start
  untold := fun _ _ => rfl

end PipeOk

end RuntimeBridge.Trade
