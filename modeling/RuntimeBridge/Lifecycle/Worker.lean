import RuntimeBridge.Library.Machine
import RuntimeBridge.Library.PQueue
import RuntimeBridge.Lifecycle.Sync

/-! A worker context: its state machine, the action that the last transition
has started, the sync loops, the message loop and the queue for transactions.
Every await of an action is a state of its own. -/

namespace RuntimeBridge.Lifecycle

open Library

inductive Status where
  | S_IDLE
  | S_STARTING
  | S_SYNCHING
  | S_SYNCHED
  | S_PRE_ACTIVE
  | S_ACTIVE
  | S_KICKED
  | S_ERROR
  deriving DecidableEq, Repr

inductive EVENTS where
  | SHOULD_START
  | SHOULD_MARK_SYNCHING
  | SHOULD_MARK_SYNCHED
  | SHOULD_MARK_PRE_ACTIVE
  | SHOULD_MARK_ACTIVE
  | SHOULD_KICK
  | ERROR
  deriving DecidableEq, Repr

/-- The state that an event leads to.  Without one, `handle` throws. -/
def transitionTo : Status → EVENTS → Option Status
  | _, .ERROR => some .S_ERROR
  | _, .SHOULD_KICK => some .S_KICKED
  | .S_IDLE, .SHOULD_START => some .S_STARTING
  | .S_STARTING, .SHOULD_MARK_SYNCHING => some .S_SYNCHING
  | .S_SYNCHING, .SHOULD_MARK_SYNCHED => some .S_SYNCHED
  | .S_SYNCHED, .SHOULD_MARK_PRE_ACTIVE => some .S_PRE_ACTIVE
  | .S_PRE_ACTIVE, .SHOULD_MARK_ACTIVE => some .S_ACTIVE
  | _, _ => none

inductive TxAction where
  | REGISTER_WORKER
  | ADD_WORKER
  | START_COMPUTING
  | RESTART_COMPUTING
  | BATCH_SYNC_MQ_MESSAGE
  deriving DecidableEq, Repr

inductive Act where
  | dispatchTx (action : TxAction)
  | startSync
  | startSyncMessage
  deriving DecidableEq, Repr

inductive Task where
  | init
  | dispatchTx (action : TxAction)
  deriving DecidableEq, Repr

inductive Caller where
  /-- `onSynched`, with `forceRa`. -/
  | onSynched
  | onPreActive
  deriving DecidableEq, Repr

/-- The awaits of `registerWorker`; `assigned` says whether the worker was found
in a pool. -/
inductive RegisterAwait where
  | workerAssignments
  | workers (assigned : Bool)
  | runtimeInfo (assigned : Bool)
  | registering (assigned : Bool)
  | initialScore
  | adding
  deriving DecidableEq, Repr

inductive Await where
  | nothing
  | initRuntime
  | workerAssignments
  | subscribeOnChainState
  | waitUntilSynched
  | registerWorker (caller : Caller) (await : RegisterAwait)
  | waitUntilMqSynched
  /-- The first wait of `onPreActive`. -/
  | onChainState
  | workerBindings
  | stakes
  | restarting
  | waitUntilWorkerReady
  | startComputing
  deriving DecidableEq, Repr

def Await.task : Await → Option Task
  | .initRuntime => some .init
  | .registerWorker _ (.registering _) => some (.dispatchTx .REGISTER_WORKER)
  | .registerWorker _ .adding => some (.dispatchTx .ADD_WORKER)
  | .restarting => some (.dispatchTx .RESTART_COMPUTING)
  | .startComputing => some (.dispatchTx .START_COMPUTING)
  | _ => none

inductive SessionState where
  | coolingDown
  /-- Idle, unused or unresponsive. -/
  | restartable
  | ready
  | other
  deriving DecidableEq, Repr

/-- What a continuation finds: the answers it awaited and the data it reads. -/
structure Findings where
  /-- Of the assigned pool: whether it is the pool of the worker. -/
  assigned : Option Bool
  shouldRegister : Bool
  scored : Bool
  sessionState : Option SessionState
  stakeRaised : Bool
  info : Info
  fetchStatus : Option FetchStatus
  deriving Repr

structure Settings where
  useLegacySync : Bool
  /-- `globalSyncOnly || poolSnapshot.syncOnly || _worker.syncOnly` -/
  syncOnly : Bool
  skipRa : Bool
  forceRa : Bool
  deriving DecidableEq, Repr

structure MessageSync where
  shouldStop : Bool
  synchedToTargetPromise : Promise Unit
  /-- In `next` the iterator has passed its check and waits. -/
  loop : Loop Unit
  /-- `doMqEgressSync` awaits `dispatchTx`. -/
  dispatching : Bool

structure Worker where
  settings : Settings
  status : Status
  received : List EVENTS
  await : Await
  sync : Option SyncState
  message : Option MessageSync
  innerTxQueue : PQueue Task
  updateInfoLoop : Bool
  /-- Executions of `destroyWorkerContext` that await `unsubscribe`. -/
  destroying : Nat
  acts : List Act

namespace MessageSync

def startSyncMessage : MessageSync where
  shouldStop := false
  synchedToTargetPromise := .pending
  loop := .next
  dispatching := false

/-- The rejection with `null` has no reason. -/
def stopSyncMessage (state : MessageSync) : MessageSync :=
  { state with
    shouldStop := true
    synchedToTargetPromise := state.synchedToTargetPromise.reject "" }

/-- The iterator is resumed: it ends, or it waits before the next step. -/
def resumed (state : MessageSync) : MessageSync :=
  if state.shouldStop then
    { state with
      loop := .ended
      dispatching := false
      synchedToTargetPromise := state.synchedToTargetPromise.reject "" }
  else
    { state with loop := .next, dispatching := false }

/-- The wait of the iterator is over.  It does not check `shouldStop` again. -/
def polls (state : MessageSync) : Option MessageSync :=
  match state.loop with
  | .next => (state.loop.step (.yields (some ()))).map fun loop =>
      { state with loop }
  | _ => none

def failed (state : MessageSync) : Option MessageSync :=
  (state.loop.step .fails).map fun loop =>
    { state with loop, dispatching := false }

/-- `processError` asks to ignore every error. -/
def recovers (state : MessageSync) : Option MessageSync :=
  (state.loop.step (.recovers true)).map fun _ => state.resumed

end MessageSync

namespace Worker

/-- `createWorkerContext`, with `onStarting` begun. -/
def create (settings : Settings) : Worker where
  settings
  status := .S_STARTING
  received := [.SHOULD_START]
  await := .initRuntime
  sync := none
  message := none
  innerTxQueue := ((PQueue.idle 1).add .init).1
  updateInfoLoop := false
  destroying := 0
  acts := []

/-- `destroyWorkerContext` up to its await. -/
def beginDestroy (worker : Worker) : Worker :=
  { worker with
    innerTxQueue := worker.innerTxQueue.clear
    destroying := worker.destroying + 1 }

/-- `destroyWorkerContext` behind its await. -/
def endDestroy (worker : Worker) : Option Worker :=
  match worker.destroying with
  | 0 => none
  | others + 1 =>
      some { worker with
        destroying := others
        sync := worker.sync.map SyncState.stopSync
        message := worker.message.map MessageSync.stopSyncMessage }

/-- The state machine handles an event that every state knows.  The action of
the transition destroys the context, unless it leads to the same state. -/
def enters (worker : Worker) (status : Status) (event : EVENTS) : Worker :=
  let entered := { worker with
    status
    received := worker.received ++ [event] }
  if worker.status = status then entered else entered.beginDestroy

def handleError (worker : Worker) : Worker :=
  worker.enters .S_ERROR .ERROR

def handleKick (worker : Worker) : Worker :=
  worker.enters .S_KICKED .SHOULD_KICK

/-- An action throws, and `wrapEventAction` hands the error on. -/
def throws (worker : Worker) : Worker :=
  { worker with await := .nothing }.handleError

def dispatchTx (worker : Worker) (action : TxAction) (await : Await) :
    Worker :=
  { worker with
    await
    innerTxQueue := (worker.innerTxQueue.add (.dispatchTx action)).1
    acts := worker.acts ++ [.dispatchTx action] }

/-- `onSynched` behind the forced registration. -/
def startMessages (worker : Worker) (findings : Findings) : Worker :=
  match findings.sessionState with
  | none => worker.throws
  | some .coolingDown => { worker with await := .nothing }
  | some _ =>
      if worker.settings.syncOnly then
        { worker with await := .nothing }
      else
        { worker with
          message := some .startSyncMessage
          await := .waitUntilMqSynched
          acts := worker.acts ++ [.startSyncMessage] }

def onSynching (worker : Worker) (findings : Findings) : Worker :=
  let variant : Variant :=
    if worker.settings.useLegacySync then .separated else .single
  { worker with
    sync := some (.startSync variant findings.fetchStatus findings.info)
    await := .waitUntilSynched
    acts := worker.acts ++ [.startSync] }

def onSynched (worker : Worker) (findings : Findings) : Worker :=
  if worker.settings.forceRa then
    { worker with await := .registerWorker .onSynched .workerAssignments }
  else
    worker.startMessages findings

/-- The action of a transition, up to its first await. -/
def act (worker : Worker) (findings : Findings) : Worker :=
  match worker.status with
  | .S_SYNCHING => worker.onSynching findings
  | .S_SYNCHED => worker.onSynched findings
  | .S_PRE_ACTIVE => { worker with await := .onChainState }
  | _ => { worker with await := .nothing }

/-- The last statement of an action: `handle` throws on an event that its state
does not know. -/
def handle (worker : Worker) (event : EVENTS) (findings : Findings) : Worker :=
  match transitionTo worker.status event with
  | some status =>
      Worker.act { worker with
        status
        received := worker.received ++ [event] } findings
  | none => worker.throws

/-- `onPreActive` behind `registerWorker`. -/
def registered (worker : Worker) (findings : Findings) : Worker :=
  match findings.sessionState with
  | none => worker.throws
  | some .restartable => { worker with await := .workerBindings }
  | some _ =>
      if worker.settings.skipRa then
        worker.handle .SHOULD_MARK_ACTIVE findings
      else
        { worker with await := .waitUntilWorkerReady }

/-- `registerWorker` behind the registration. -/
def addWorker (worker : Worker) (caller : Caller) (assigned : Bool)
    (findings : Findings) : Worker :=
  match caller with
  | .onSynched => worker.startMessages findings
  | .onPreActive =>
      if assigned then worker.registered findings
      else { worker with await := .registerWorker caller .initialScore }

def registerWorker (worker : Worker) (caller : Caller)
    (findings : Findings) : RegisterAwait → Option Worker
  | .workerAssignments =>
      if findings.assigned = some false then
        some worker.throws
      else
        some { worker with
          await := .registerWorker caller (.workers findings.assigned.isSome) }
  | .workers assigned =>
      if caller = .onSynched ∨ findings.shouldRegister then
        some { worker with
          await := .registerWorker caller (.runtimeInfo assigned) }
      else
        some (worker.addWorker caller assigned findings)
  | .runtimeInfo assigned =>
      some (worker.dispatchTx .REGISTER_WORKER
        (.registerWorker caller (.registering assigned)))
  | .initialScore =>
      if findings.scored then
        some (worker.dispatchTx .ADD_WORKER (.registerWorker caller .adding))
      else
        some worker
  | .registering _ => none
  | .adding => none

/-- The action goes on with what it awaited, unless that is a transaction. -/
def resumes (worker : Worker) (findings : Findings) : Option Worker :=
  match worker.await with
  | .workerAssignments =>
      if findings.assigned = some false then some worker.throws
      else some { worker with await := .subscribeOnChainState }
  | .subscribeOnChainState =>
      some (worker.handle .SHOULD_MARK_SYNCHING findings)
  | .waitUntilSynched =>
      worker.sync.bind fun sync =>
        match sync.synchedToTargetPromise with
        | .pending => none
        | .resolved _ => some (worker.handle .SHOULD_MARK_SYNCHED findings)
        | .rejected _ => some worker.throws
  | .registerWorker caller await => worker.registerWorker caller findings await
  | .waitUntilMqSynched =>
      worker.message.bind fun message =>
        match message.synchedToTargetPromise with
        | .pending => none
        | .resolved _ => some (worker.handle .SHOULD_MARK_PRE_ACTIVE findings)
        | .rejected _ => some worker.throws
  | .onChainState =>
      some { worker with
        await := .registerWorker .onPreActive .workerAssignments }
  | .workerBindings => some { worker with await := .stakes }
  | .stakes =>
      if findings.stakeRaised then
        some (worker.dispatchTx .RESTART_COMPUTING .restarting)
      else
        some (worker.handle .SHOULD_MARK_ACTIVE findings)
  | .waitUntilWorkerReady =>
      match findings.sessionState with
      | none => some worker.throws
      | some .ready => some (worker.dispatchTx .START_COMPUTING .startComputing)
      | some _ => some worker
  | .nothing | .initRuntime | .restarting | .startComputing => none

def awaitFails (worker : Worker) : Option Worker :=
  match worker.await with
  | .workerAssignments | .subscribeOnChainState | .workerBindings | .stakes
  | .registerWorker _ .workerAssignments
  | .registerWorker _ (.workers _)
  | .registerWorker _ (.runtimeInfo _)
  | .registerWorker _ .initialScore => some worker.throws
  | _ => none

/-- The transaction or the initialization that an action awaits is done. -/
def taskDone (worker : Worker) (findings : Findings) : Option Worker :=
  worker.await.task.bind fun task =>
    if task ∈ worker.innerTxQueue.running then
      let freed := { worker with
        innerTxQueue := (worker.innerTxQueue.finish task).1 }
      match worker.await with
      | .initRuntime =>
          some { freed with
            await := .workerAssignments
            updateInfoLoop := true }
      | .registerWorker caller (.registering assigned) =>
          some (freed.addWorker caller assigned findings)
      | .registerWorker _ .adding => some (freed.registered findings)
      | _ => some (freed.handle .SHOULD_MARK_ACTIVE findings)
    else
      none

def taskFails (worker : Worker) : Option Worker :=
  worker.await.task.bind fun task =>
    if task ∈ worker.innerTxQueue.running then
      some (throws { worker with
        innerTxQueue := (worker.innerTxQueue.finish task).1 })
    else
      none

def messagesFetched (worker : Worker) (empty : Bool) : Option Worker :=
  worker.message.bind fun message =>
    if message.dispatching then
      none
    else if empty then
      (message.loop.step .succeeds).map fun _ =>
        { worker with
          message := some (MessageSync.resumed { message with
            synchedToTargetPromise :=
              message.synchedToTargetPromise.resolve () }) }
    else
      match message.loop with
      | .running _ _ _ =>
          some { worker with
            message := some { message with dispatching := true }
            innerTxQueue := (worker.innerTxQueue.add
              (.dispatchTx .BATCH_SYNC_MQ_MESSAGE)).1
            acts := worker.acts ++ [.dispatchTx .BATCH_SYNC_MQ_MESSAGE] }
      | _ => none

def messagesSent (worker : Worker) (failed : Bool) : Option Worker :=
  worker.message.bind fun message =>
    if message.dispatching ∧
        .dispatchTx .BATCH_SYNC_MQ_MESSAGE ∈ worker.innerTxQueue.running then
      let sent :=
        if failed then message.failed
        else (message.loop.step .succeeds).map fun _ => message.resumed
      sent.map fun message =>
        { worker with
          message := some message
          innerTxQueue := (worker.innerTxQueue.finish
            (.dispatchTx .BATCH_SYNC_MQ_MESSAGE)).1 }
    else
      none

def updateInfoFails (worker : Worker) : Option Worker :=
  if worker.updateInfoLoop then
    some (handleError { worker with updateInfoLoop := false })
  else
    none

end Worker

inductive WorkerEvent where
  | resumes (findings : Findings)
  | awaitFails
  | taskDone (findings : Findings)
  | taskFails
  | sync (event : SyncEvent)
  | messagePolls
  | messagesFetched (empty : Bool)
  | fetchFails
  | messagesSent (failed : Bool)
  | messageRecovers
  | updateInfoFails
  /-- The context is destroyed because of a restart. -/
  | restart
  | kick
  | endDestroy

namespace Worker

def setMessage (worker : Worker)
    (change : MessageSync → Option MessageSync) : Option Worker :=
  (worker.message.bind change).map fun message =>
    { worker with message := some message }

def step (worker : Worker) : WorkerEvent → Option Worker
  | .resumes findings => worker.resumes findings
  | .awaitFails => worker.awaitFails
  | .taskDone findings => worker.taskDone findings
  | .taskFails => worker.taskFails
  | .sync event =>
      worker.sync.bind fun sync =>
        (sync.step event).map fun sync => { worker with sync := some sync }
  | .messagePolls => worker.setMessage MessageSync.polls
  | .messagesFetched empty => worker.messagesFetched empty
  | .fetchFails => worker.setMessage fun message =>
      if message.dispatching then none else message.failed
  | .messagesSent failed => worker.messagesSent failed
  | .messageRecovers => worker.setMessage MessageSync.recovers
  | .updateInfoFails => worker.updateInfoFails
  | .restart => some worker.beginDestroy
  | .kick => some worker.handleKick
  | .endDestroy => worker.endDestroy

end Worker

def worker (settings : Settings) : Machine Worker WorkerEvent where
  start := .create settings
  step := Worker.step

end RuntimeBridge.Lifecycle
