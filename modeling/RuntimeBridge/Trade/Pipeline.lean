import RuntimeBridge.Library.Machine
import RuntimeBridge.Library.PQueue
import RuntimeBridge.Library.Promise
import RuntimeBridge.Library.Update

/-! The way of a job to `processBatch`: the `PoolQueue`s of `bus.js`, the
`TraderManager` with its process, and the queues of `trader.js`.  Timers,
process messages and the ends of asynchronous work are events of their own. -/

namespace RuntimeBridge.Trade

open Library

/-- One element of a recorded call: a property name or the arguments of a call. -/
inductive Segment where
  | property (name : String)
  | apply (args : List String)
  deriving DecidableEq, Repr

abbrev Call := List Segment

structure Job where
  id : Nat
  pid : Nat
  calls : List Call
  deriving DecidableEq, Repr

structure FailedCall where
  index : Nat
  reason : String
  deriving DecidableEq, Repr

structure BatchResult where
  indexes : List (Option Nat)
  reasons : List FailedCall
  deriving DecidableEq, Repr

/-- The name of a batch and the pool queue it was created in. -/
structure BatchRef where
  id : Nat
  pid : Nat
  deriving DecidableEq, Repr

structure Batch where
  jobs : List Job
  calls : List Call
  /-- The job of each call, by the index of the call. -/
  callToJobId : List Nat
  commitTimeout : Bool
  addedPromise : Promise Unit
  startedPromise : Promise Unit
  finishedPromise : Promise BatchResult

def Batch.fresh : Batch where
  jobs := []
  calls := []
  callToJobId := []
  commitTimeout := false
  addedPromise := .pending
  startedPromise := .pending
  finishedPromise := .pending

def Batch.addCalls (batch : Batch) (job : Job) : Batch :=
  { batch with
    commitTimeout := true
    calls := batch.calls ++ job.calls
    callToJobId := batch.callToJobId ++ job.calls.map fun _ => job.id
    jobs := batch.jobs ++ [job] }

structure PoolQueue where
  queue : List BatchRef
  currentBatch : Option BatchRef
  /-- The batch that `#dequeue` waits for `addBatchJob` with. -/
  adding : Option BatchRef

inductive Status where
  | down
  | starting
  | upIdle
  | upWorking
  | error
  deriving DecidableEq, Repr

def Status.isUp : Status → Bool
  | .upIdle | .upWorking => true
  | _ => false

def Status.isDown : Status → Bool
  | .down | .error => true
  | _ => false

/-- The payload of `MA_ADD_BATCH`. -/
structure Payload where
  id : Nat
  pid : Nat
  calls : List Call
  deriving DecidableEq, Repr

def Payload.ref (payload : Payload) : BatchRef where
  id := payload.id
  pid := payload.pid

/-- What the trader process sends.  It never sends `MA_ERROR` or
`MA_BATCH_REJECTED`. -/
inductive Message where
  | online
  | added (id : Nat)
  | working (id : Nat)
  | finished (id : Nat) (failedCalls : List FailedCall)
  | failed (id : Nat) (error : String)
  deriving DecidableEq, Repr

/-- The message is the last one about the batch. -/
def Message.Ends (id : Nat) : Message → Prop
  | .finished number _ => number = id
  | .failed number _ => number = id
  | _ => False

@[simp] theorem Message.ends_working (id number : Nat) :
    ¬ (Message.working number).Ends id := fun h => h

@[simp] theorem Message.ends_finished (id number : Nat)
    (failedCalls : List FailedCall) :
    (Message.finished number failedCalls).Ends id ↔ number = id := Iff.rfl

@[simp] theorem Message.ends_failed (id number : Nat) (error : String) :
    (Message.failed number error).Ends id ↔ number = id := Iff.rfl

instance (id : Nat) : DecidablePred (Message.Ends id) := fun message =>
  match message with
  | .finished number _ => inferInstanceAs (Decidable (number = id))
  | .failed number _ => inferInstanceAs (Decidable (number = id))
  | .online => .isFalse fun h => h
  | .added _ => .isFalse fun h => h
  | .working _ => .isFalse fun h => h

structure State where
  nextId : Nat
  batches : Nat → Batch
  pools : Nat → PoolQueue
  status : Status
  addQueue : PQueue BatchRef
  /-- The running `#addBatch` has sent its batch. -/
  awaitingAdded : Bool
  batchJobs : List Nat
  activeBatchJobIds : List Nat
  currentBatchJobIds : List Nat
  toTrader : List Payload
  toManager : List Message
  traderOnline : Bool
  traderAddQueue : PQueue Payload
  processQueue : PQueue Payload
  poolQueues : Nat → PQueue Payload
  /-- The executions of `processBatch` that have sent `MA_BATCH_WORKING`. -/
  reported : List Nat
  jobs : List Job
  created : List BatchRef
  committed : List BatchRef
  sent : List Payload
  /-- The executions of `processBatch`, in the order they began. -/
  started : List Payload
  ended : List Payload

def TX_BATCH_SIZE : Nat := 100

def TX_SEND_QUEUE_SIZE : Nat := 10

namespace State

/-- `new TraderManager`: the first process is being started. -/
def initial : State where
  nextId := 0
  batches _ := .fresh
  pools _ := { queue := [], currentBatch := none, adding := none }
  status := .starting
  addQueue := .idle 1
  awaitingAdded := false
  batchJobs := []
  activeBatchJobIds := []
  currentBatchJobIds := []
  toTrader := []
  toManager := []
  traderOnline := false
  traderAddQueue := .idle 1
  processQueue := .idle TX_SEND_QUEUE_SIZE
  poolQueues _ := .idle 1
  reported := []
  jobs := []
  created := []
  committed := []
  sent := []
  started := []
  ended := []

def setBatch (state : State) (id : Nat) (batch : Batch) : State :=
  { state with batches := Function.update state.batches id batch }

def setPool (state : State) (pid : Nat) (pool : PoolQueue) : State :=
  { state with pools := Function.update state.pools pid pool }

/-- The `commit` of a batch clears the current batch of its queue. -/
def commit (state : State) (ref : BatchRef) : State :=
  let pool := state.pools ref.pid
  { (state.setBatch ref.id
      { state.batches ref.id with commitTimeout := false }).setPool ref.pid
      { pool with currentBatch := none, queue := pool.queue ++ [ref] } with
    committed := state.committed ++ [ref] }

def createBatch (state : State) (pid : Nat) : State × BatchRef :=
  let ref : BatchRef := { id := state.nextId, pid }
  ({ (state.setBatch ref.id .fresh).setPool pid
      { state.pools pid with currentBatch := some ref } with
    nextId := state.nextId + 1
    created := state.created ++ [ref] }, ref)

def findBatch (state : State) (pid : Nat) : State × BatchRef :=
  match (state.pools pid).currentBatch with
  | none => state.createBatch pid
  | some ref =>
      if TX_BATCH_SIZE < (state.batches ref.id).calls.length then
        (state.commit ref).createBatch pid
      else
        (state, ref)

def addJob (state : State) (job : Job) : State :=
  let (found, ref) := state.findBatch job.pid
  { found.setBatch ref.id ((found.batches ref.id).addCalls job) with
    jobs := state.jobs ++ [job] }

def timeout (state : State) (ref : BatchRef) : Option State :=
  if ref ∈ state.created ∧ (state.batches ref.id).commitTimeout then
    some (state.commit ref)
  else
    none

/-- A task of the queue of the manager starts with `waitUntilUp`. -/
def addBatchJob (state : State) (ref : BatchRef) : State :=
  { state with addQueue := (state.addQueue.add ref).1 }

/-- One pass of `#dequeueLoop`, if the previous one is through. -/
def dequeue (state : State) (pid : Nat) : Option State :=
  let pool := state.pools pid
  match pool.adding, pool.queue with
  | none, item :: rest =>
      some ((state.setPool pid
        { pool with queue := rest, adding := some item }).addBatchJob item)
  | _, _ => none

/-- `addBatchJob` settles: the slot and the loop that waited for it go on. -/
def settleAddBatch (state : State) (ref : BatchRef) : State :=
  { state.setPool ref.pid { state.pools ref.pid with adding := none } with
    addQueue := (state.addQueue.finish ref).1
    awaitingAdded := false }

/-- `#addBatch` behind its `waitUntilUp`.  While the process is down the batch
is given up with a `TraderDownError`. -/
def addBatch (state : State) : Option State := do
  let ref ← state.addQueue.running.head?
  if state.awaitingAdded then
    none
  else if state.status.isDown then
    return state.settleAddBatch ref
  else if state.status.isUp then
    let batch := state.batches ref.id
    let firstJob ← batch.jobs.head?
    let payload : Payload :=
      { id := ref.id, pid := firstJob.pid, calls := batch.calls }
    return { state.setBatch ref.id
        { batch with addedPromise := .pending } with
      awaitingAdded := true
      batchJobs := state.batchJobs ++ [ref.id]
      toTrader := state.toTrader ++ [payload]
      sent := state.sent ++ [payload] }
  else
    none

/-- A task of a pool's queue in the trader: `processBatch` begins. -/
def enterPool (state : State) (payload : Payload) : State :=
  let added := (state.poolQueues payload.pid).add payload
  { state with
    poolQueues := Function.update state.poolQueues payload.pid added.1
    started := state.started ++ added.2.toList }

def enterProcess (state : State) (payload : Payload) : State :=
  let added := state.processQueue.add payload
  let queued := { state with processQueue := added.1 }
  match added.2 with
  | some started => queued.enterPool started
  | none => queued

def doAddJob (state : State) (payload : Payload) : State :=
  State.enterProcess { state with
    toManager := state.toManager ++ [.added payload.id] } payload

/-- `addBatchJob` of the trader. -/
def traderAddBatchJob (state : State) (payload : Payload) : State :=
  let added := state.traderAddQueue.add payload
  let queued := { state with traderAddQueue := added.1 }
  match added.2 with
  | some started => queued.doAddJob started
  | none => queued

def deliverToTrader (state : State) : Option State :=
  match state.traderOnline, state.toTrader with
  | true, payload :: rest =>
      some (State.traderAddBatchJob { state with toTrader := rest } payload)
  | _, _ => none

/-- The promise of a `doAddJob` settles and frees its slot. -/
def doAddJobSettles (state : State) (payload : Payload) : Option State :=
  if payload ∈ state.traderAddQueue.running then
    let finished := state.traderAddQueue.finish payload
    let freed := { state with traderAddQueue := finished.1 }
    match finished.2 with
    | some started => some (freed.doAddJob started)
    | none => some freed
  else
    none

/-- `processBatch` sends `MA_BATCH_WORKING`. -/
def reportWorking (state : State) (payload : Payload) : Option State :=
  if payload ∈ (state.poolQueues payload.pid).running ∧
      payload.id ∉ state.reported then
    some { state with
      reported := state.reported ++ [payload.id]
      toManager := state.toManager ++ [.working payload.id] }
  else
    none

inductive Outcome where
  | finished (failedCalls : List FailedCall)
  | failed (error : String)
  /-- An exception ends it without a message. -/
  | thrown
  deriving DecidableEq, Repr

def Outcome.messages (id : Nat) : Outcome → List Message
  | .finished failedCalls => [.finished id failedCalls]
  | .failed error => [.failed id error]
  | .thrown => []

def Outcome.isFinished : Outcome → Bool
  | .finished _ => true
  | _ => false

def processBatchEnds (state : State) (payload : Payload)
    (outcome : Outcome) : Option State :=
  if payload ∈ (state.poolQueues payload.pid).running ∧
      (outcome.isFinished → payload.id ∈ state.reported) then
    let finished := (state.poolQueues payload.pid).finish payload
    some { state with
      poolQueues := Function.update state.poolQueues payload.pid finished.1
      started := state.started ++ finished.2.toList
      ended := state.ended ++ [payload]
      toManager := state.toManager ++ outcome.messages payload.id }
  else
    none

/-- The send slot of a batch is freed once its `processBatch` has ended. -/
def sendSlotFreed (state : State) (payload : Payload) : Option State :=
  if payload ∈ state.processQueue.running ∧ payload ∈ state.ended then
    let finished := state.processQueue.finish payload
    let freed := { state with processQueue := finished.1 }
    match finished.2 with
    | some started => some (freed.enterPool started)
    | none => some freed
  else
    none

def onBatchJobAdded (state : State) (id : Nat) : State :=
  if id ∈ state.batchJobs then
    let batch := state.batches id
    let resolved := state.setBatch id
      { batch with addedPromise := batch.addedPromise.resolve () }
    match state.addQueue.running.head? with
    | some ref =>
        if state.awaitingAdded ∧ ref.id = id then
          resolved.settleAddBatch ref
        else
          resolved
    | none => resolved
  else
    state

def onBatchJobWorking (state : State) (id : Nat) : State :=
  if id ∈ state.batchJobs then
    let batch := state.batches id
    state.setBatch id
      { batch with startedPromise := batch.startedPromise.resolve () }
  else
    state

def onBatchJobFinished (state : State) (id : Nat)
    (failedCalls : List FailedCall) : State :=
  if id ∈ state.batchJobs then
    let batch := state.batches id
    state.setBatch id
      { batch with
        finishedPromise := batch.finishedPromise.resolve
          { indexes := failedCalls.map (batch.callToJobId[·.index]?)
            reasons := failedCalls } }
  else
    state

def onBatchJobFailed (state : State) (id : Nat) (error : String) : State :=
  if id ∈ state.batchJobs then
    let batch := state.batches id
    state.setBatch id
      { batch with
        startedPromise := batch.startedPromise.reject error
        finishedPromise := batch.finishedPromise.reject error }
  else
    state

def handleProcessMessage (state : State) : Message → State
  | .online => { state with status := .upIdle }
  | .added id => state.onBatchJobAdded id
  | .working id => state.onBatchJobWorking id
  | .finished id failedCalls => state.onBatchJobFinished id failedCalls
  | .failed id error => state.onBatchJobFailed id error

def deliverToManager (state : State) : Option State :=
  match state.toManager with
  | message :: rest =>
      some (State.handleProcessMessage { state with toManager := rest } message)
  | [] => none

def traderBoots (state : State) : Option State :=
  if state.traderOnline then
    none
  else
    some { state with
      traderOnline := true
      toManager := state.toManager ++ [.online] }

/-- The loop of `#onProcessExited`.  It throws on a registered batch with jobs,
since a job has no `startedPromise__reject`. -/
def rejectActive (state : State) : List Nat → Option State
  | [] => some { state with activeBatchJobIds := [] }
  | id :: rest =>
      let shifted :=
        if state.currentBatchJobIds.head? = some id then
          { state with currentBatchJobIds := state.currentBatchJobIds.tail }
        else
          state
      if id ∈ state.batchJobs ∧ (state.batches id).jobs ≠ [] then
        none
      else
        shifted.rejectActive rest

def onProcessExited (state : State) : Option State :=
  state.rejectActive state.activeBatchJobIds

def startProcess (state : State) : State :=
  if state.status = .starting ∨ state.status.isUp then state
  else { state with status := .starting }

/-- The process is gone, and with it its queues and all but the first `kept` of
the messages on their way to the manager. -/
def processGone (state : State) (kept : Nat) : State :=
  { state with
    status := if state.status = .error then .error else .down
    toTrader := []
    toManager := state.toManager.take kept
    traderOnline := false
    traderAddQueue := .idle 1
    processQueue := .idle TX_SEND_QUEUE_SIZE
    poolQueues := fun _ => .idle 1
    reported := [] }

def processExits (state : State) (kept : Nat) : State :=
  let gone := state.processGone kept
  match gone.onProcessExited with
  | some handled => handled.startProcess
  | none => gone

end State

inductive Event where
  | addJob (job : Job)
  | timeout (ref : BatchRef)
  | dequeue (pid : Nat)
  | addBatch
  | deliverToTrader
  | doAddJobSettles (payload : Payload)
  | reportWorking (payload : Payload)
  | processBatchEnds (payload : Payload) (outcome : State.Outcome)
  | sendSlotFreed (payload : Payload)
  | deliverToManager
  | traderBoots
  | exit (kept : Nat)
  deriving DecidableEq

def step (state : State) : Event → Option State
  | .addJob job => some (state.addJob job)
  | .timeout ref => state.timeout ref
  | .dequeue pid => state.dequeue pid
  | .addBatch => state.addBatch
  | .deliverToTrader => state.deliverToTrader
  | .doAddJobSettles payload => state.doAddJobSettles payload
  | .reportWorking payload => state.reportWorking payload
  | .processBatchEnds payload outcome => state.processBatchEnds payload outcome
  | .sendSlotFreed payload => state.sendSlotFreed payload
  | .deliverToManager => state.deliverToManager
  | .traderBoots => state.traderBoots
  | .exit kept => some (state.processExits kept)

def pipeline : Machine State Event where
  start := .initial
  step := step

def noExit (_ : State) (event : Event) : Prop :=
  ∀ kept, event ≠ .exit kept

variable {state after : State} {ref : BatchRef} {payload : Payload} {pid : Nat}

namespace State

theorem timeout_cases (taken : state.timeout ref = some after) :
    (ref ∈ state.created ∧ (state.batches ref.id).commitTimeout = true) ∧
      after = state.commit ref := by
  simp only [timeout] at taken
  split at taken
  · next hguard => exact ⟨hguard, (Option.some.inj taken).symm⟩
  · contradiction

theorem dequeue_cases (taken : state.dequeue pid = some after) :
    ∃ item rest, (state.pools pid).adding = none ∧
      (state.pools pid).queue = item :: rest ∧
      after = State.addBatchJob (state.setPool pid { state.pools pid with
        queue := rest, adding := some item }) item := by
  simp only [dequeue] at taken
  split at taken
  · next item rest hidle hqueue =>
      exact ⟨item, rest, hidle, hqueue, (Option.some.inj taken).symm⟩
  · contradiction

theorem deliverToTrader_cases (taken : state.deliverToTrader = some after) :
    ∃ payload rest, state.traderOnline = true ∧
      state.toTrader = payload :: rest ∧
      after = State.traderAddBatchJob { state with toTrader := rest }
        payload := by
  simp only [deliverToTrader] at taken
  split at taken
  · next payload rest honline hmessages =>
      exact ⟨payload, rest, honline, hmessages, (Option.some.inj taken).symm⟩
  · contradiction

theorem doAddJobSettles_cases
    (taken : state.doAddJobSettles payload = some after) :
    payload ∈ state.traderAddQueue.running ∧
      ((∃ started,
          (state.traderAddQueue.finish payload).2 = some started ∧
          after = State.doAddJob { state with
            traderAddQueue := (state.traderAddQueue.finish payload).1 }
            started) ∨
        (state.traderAddQueue.finish payload).2 = none ∧
          after = { state with
            traderAddQueue := (state.traderAddQueue.finish payload).1 }) := by
  simp only [doAddJobSettles] at taken
  split at taken
  · next hrunning =>
      refine ⟨hrunning, ?_⟩
      split at taken
      · next started hstarted =>
          exact Or.inl ⟨started, hstarted, (Option.some.inj taken).symm⟩
      · next hnone => exact Or.inr ⟨hnone, (Option.some.inj taken).symm⟩
  · contradiction

theorem reportWorking_cases
    (taken : state.reportWorking payload = some after) :
    (payload ∈ (state.poolQueues payload.pid).running ∧
        payload.id ∉ state.reported) ∧
      after = { state with
        reported := state.reported ++ [payload.id]
        toManager := state.toManager ++ [.working payload.id] } := by
  simp only [reportWorking] at taken
  split at taken
  · next hguard => exact ⟨hguard, (Option.some.inj taken).symm⟩
  · contradiction

theorem processBatchEnds_cases {outcome : Outcome}
    (taken : state.processBatchEnds payload outcome = some after) :
    (payload ∈ (state.poolQueues payload.pid).running ∧
        (outcome.isFinished = true → payload.id ∈ state.reported)) ∧
      after = { state with
        poolQueues := Function.update state.poolQueues payload.pid
          ((state.poolQueues payload.pid).finish payload).1
        started := state.started ++
          ((state.poolQueues payload.pid).finish payload).2.toList
        ended := state.ended ++ [payload]
        toManager := state.toManager ++ outcome.messages payload.id } := by
  simp only [processBatchEnds] at taken
  split at taken
  · next hguard => exact ⟨hguard, (Option.some.inj taken).symm⟩
  · contradiction

theorem sendSlotFreed_cases
    (taken : state.sendSlotFreed payload = some after) :
    (payload ∈ state.processQueue.running ∧ payload ∈ state.ended) ∧
      ((∃ started, (state.processQueue.finish payload).2 = some started ∧
          after = State.enterPool { state with
            processQueue := (state.processQueue.finish payload).1 } started) ∨
        (state.processQueue.finish payload).2 = none ∧
          after = { state with
            processQueue := (state.processQueue.finish payload).1 }) := by
  simp only [sendSlotFreed] at taken
  split at taken
  · next hguard =>
      refine ⟨hguard, ?_⟩
      split at taken
      · next started hstarted =>
          exact Or.inl ⟨started, hstarted, (Option.some.inj taken).symm⟩
      · next hnone => exact Or.inr ⟨hnone, (Option.some.inj taken).symm⟩
  · contradiction

theorem deliverToManager_cases (taken : state.deliverToManager = some after) :
    ∃ message rest, state.toManager = message :: rest ∧
      after = State.handleProcessMessage { state with toManager := rest }
        message := by
  simp only [deliverToManager] at taken
  split at taken
  · next message rest hmessages =>
      exact ⟨message, rest, hmessages, (Option.some.inj taken).symm⟩
  · contradiction

theorem traderBoots_cases (taken : state.traderBoots = some after) :
    state.traderOnline = false ∧
      after = { state with
        traderOnline := true
        toManager := state.toManager ++ [.online] } := by
  simp only [traderBoots] at taken
  split at taken
  · contradiction
  · next hoffline =>
      exact ⟨by simpa using hoffline, (Option.some.inj taken).symm⟩

end State

end RuntimeBridge.Trade
