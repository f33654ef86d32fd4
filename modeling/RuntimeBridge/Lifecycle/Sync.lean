import Mathlib.Logic.Function.Basic
import RuntimeBridge.Library.Promise
import RuntimeBridge.Lifecycle.Iterate

/-! `startSync`: the loop of `single_sync.js` and the two loops of
`separated_sync.js`, with their cursors and the promise of the first target. -/

namespace RuntimeBridge.Lifecycle

open Library

structure FetchStatus where
  parentProcessedHeight : Int
  paraFetchedHeight : Int
  paraProcessedHeight : Int
  deriving DecidableEq, Repr

/-- The next numbers pRuntime expects. -/
structure Info where
  headernum : Nat
  paraHeadernum : Nat
  blocknum : Nat
  deriving DecidableEq, Repr

structure SyncStatus where
  parentHeaderSynchedTo : Int
  paraHeaderSynchedTo : Int
  paraBlockDispatchedTo : Int
  deriving DecidableEq, Repr

inductive Variant where
  | single
  | separated
  deriving DecidableEq, Repr

/-- The functions that the iterators yield.  `single_sync.js` names them
`doIncrementalHeaderSync`, `doBatchHeaderSync` and `doParaBlockDifferenceSync`,
`separated_sync.js` has `doHeaderSync` and `doParaBlockSync`. -/
inductive SyncStep where
  | header
  | batchHeader
  | paraBlock
  deriving DecidableEq, Repr

inductive LoopName where
  | main
  | header
  | paraBlock
  deriving DecidableEq, Repr

def Variant.loops : Variant → List LoopName
  | .single => [.main]
  | .separated => [.header, .paraBlock]

inductive Position where
  | top
  | headers
  | tail
  deriving DecidableEq, Repr

structure SyncLoop where
  loop : Loop SyncStep
  position : Position
  count : Nat
  deriving DecidableEq, Repr

structure SyncState where
  variant : Variant
  /-- `appContext.fetchStatus` as `startSync` finds it. -/
  fetchStatus : Option FetchStatus
  shouldStop : Bool
  syncStatus : SyncStatus
  headerSyncNumber : Int
  paraHeaderSyncNumber : Int
  paraBlockSyncNumber : Int
  synchedToTargetPromise : Promise Int
  loops : LoopName → SyncLoop
  /-- A loop was rejected before `stopSync` was called. -/
  died : Bool

inductive Yield where
  | returns
  | throws (error : String)
  /-- A wait and a yield of nothing. -/
  | waits
  | yields (step : SyncStep) (position : Position)
  deriving DecidableEq, Repr

def undefinedFetchStatus : String :=
  "TypeError: Cannot read properties of undefined (reading 'parentProcessedHeight')"

namespace SyncState

def startSync (variant : Variant) (fetchStatus : Option FetchStatus)
    (info : Info) : SyncState where
  variant
  fetchStatus
  shouldStop := false
  syncStatus :=
    match variant with
    | .single =>
        { parentHeaderSynchedTo := info.headernum
          paraHeaderSynchedTo := info.paraHeadernum
          paraBlockDispatchedTo := info.blocknum }
    | .separated =>
        { parentHeaderSynchedTo := -1
          paraHeaderSynchedTo := -1
          paraBlockDispatchedTo := -1 }
  headerSyncNumber := info.headernum
  paraHeaderSyncNumber := info.paraHeadernum
  paraBlockSyncNumber := info.blocknum
  synchedToTargetPromise := .pending
  loops _ := { loop := .next, position := .top, count := 0 }
  died := false

def setLoop (state : SyncState) (name : LoopName) (loop : SyncLoop) :
    SyncState :=
  { state with loops := Function.update state.loops name loop }

def stopSync (state : SyncState) : SyncState :=
  { state with shouldStop := true }

/-- After the first target only a warning is logged. -/
def doReject (state : SyncState) (error : String) : SyncState :=
  if state.synchedToTargetPromise.isSettled then
    state
  else
    { state.stopSync with
      synchedToTargetPromise := state.synchedToTargetPromise.reject error }

def rejects (state : SyncState) (name : LoopName) (loop : Loop SyncStep) :
    SyncState :=
  { state.setLoop name { state.loops name with loop } with
    died := state.died || !state.shouldStop }

def yieldHeaders (state : SyncState) (status : FetchStatus) : Yield :=
  if 15000 < status.paraProcessedHeight - state.paraHeaderSyncNumber then
    .yields .batchHeader .tail
  else
    .yields .header .tail

def syncIteratorTop (state : SyncState) : Yield :=
  if state.shouldStop then
    .returns
  else
    match state.fetchStatus with
    | none => .throws undefinedFetchStatus
    | some status =>
        if status.parentProcessedHeight < state.headerSyncNumber ∨
            status.paraFetchedHeight < state.paraBlockSyncNumber then
          .waits
        else if state.paraBlockSyncNumber < state.paraHeaderSyncNumber then
          .yields .paraBlock .headers
        else
          state.yieldHeaders status

def syncIterator (state : SyncState) : Position → Yield
  | .top => state.syncIteratorTop
  | .headers =>
      match state.fetchStatus with
      | none => .throws undefinedFetchStatus
      | some status => state.yieldHeaders status
  | .tail =>
      if state.paraBlockSyncNumber < state.paraHeaderSyncNumber then
        .yields .paraBlock .top
      else
        state.syncIteratorTop

def headerSyncIterator (state : SyncState) : Yield :=
  if state.shouldStop then
    .returns
  else
    match state.fetchStatus with
    | none => .throws undefinedFetchStatus
    | some status =>
        if status.parentProcessedHeight < state.headerSyncNumber then .waits
        else .yields .header .top

def paraBlockSyncIterator (state : SyncState) : Yield :=
  if state.shouldStop then
    .returns
  else if state.syncStatus.paraHeaderSynchedTo < state.paraBlockSyncNumber then
    .waits
  else
    .yields .paraBlock .top

def iterator (state : SyncState) (position : Position) : LoopName → Yield
  | .main => state.syncIterator position
  | .header => state.headerSyncIterator
  | .paraBlock => state.paraBlockSyncIterator

/-- A called step of `single_sync.js` may have nothing to do; the steps of
`separated_sync.js` check nothing. -/
def returnsAtOnce (state : SyncState) (step : SyncStep) : Bool :=
  match state.variant with
  | .separated => false
  | .single =>
      state.shouldStop || (step = .paraBlock &&
        state.paraHeaderSyncNumber ≤ state.paraBlockSyncNumber)

/-- The function that is now running has been called. -/
def call (state : SyncState) (loop : Loop SyncStep) : Loop SyncStep :=
  match loop with
  | .running step attempt ignore =>
      if state.returnsAtOnce step then .next else .running step attempt ignore
  | other => other

def polls (state : SyncState) (name : LoopName) : Option SyncState :=
  let sync := state.loops name
  match state.iterator sync.position name with
  | .returns =>
      (sync.loop.step .returns).map fun loop =>
        state.setLoop name { sync with loop }
  | .throws error =>
      (sync.loop.step (.throws error)).map (state.rejects name)
  | .waits =>
      (sync.loop.step (.yields none)).map fun loop =>
        state.setLoop name { sync with loop, position := .top }
  | .yields step position =>
      (sync.loop.step (.yields (some step))).map fun loop =>
        state.setLoop name { loop := state.call loop, position, count := 0 }

/-- One header step is done: the batch goes on with the next one, or the
iterator does. -/
def headerStepDone (state : SyncState) (name : LoopName) (step : SyncStep) :
    Option SyncState :=
  let sync := state.loops name
  if step = .batchHeader ∧ sync.count + 1 < 5 ∧ ¬ state.shouldStop then
    some (state.setLoop name { sync with count := sync.count + 1 })
  else
    (sync.loop.step .succeeds).map fun loop =>
      state.setLoop name { sync with loop }

/-- The reply to `/bin_api/sync_combined_headers`. -/
def headersSynched (state : SyncState) (name : LoopName)
    (parentSynchedTo paraSynchedTo : Int) : Option SyncState :=
  match (state.loops name).loop, state.fetchStatus with
  | .running .paraBlock _ _, _ => none
  | .running step _ _, some _ =>
      headerStepDone { state with
        syncStatus := { state.syncStatus with
          parentHeaderSynchedTo := parentSynchedTo
          paraHeaderSynchedTo := paraSynchedTo }
        paraHeaderSyncNumber := paraSynchedTo + 1
        headerSyncNumber := parentSynchedTo + 1 } name step
  | _, _ => none

def headerBlobMissing (state : SyncState) (name : LoopName) :
    Option SyncState :=
  match (state.loops name).loop, state.fetchStatus with
  | .running .paraBlock _ _, _ => none
  | .running step _ _, some _ => state.headerStepDone name step
  | _, _ => none

/-- The reply to `/bin_api/dispatch_block`. -/
def dispatched (state : SyncState) (name : LoopName) (dispatchedTo : Int) :
    Option SyncState :=
  match (state.loops name).loop, state.fetchStatus with
  | .running .paraBlock attempt ignore, some status =>
      let target :=
        if status.paraProcessedHeight ≤ dispatchedTo then
          state.synchedToTargetPromise.resolve dispatchedTo
        else
          state.synchedToTargetPromise
      let replied := { state with
        syncStatus := { state.syncStatus with
          paraBlockDispatchedTo := dispatchedTo }
        synchedToTargetPromise := target
        paraBlockSyncNumber := dispatchedTo + 1 }
      let loop :=
        match state.variant with
        | .single => replied.call (.running .paraBlock attempt ignore)
        | .separated => .next
      some (replied.setLoop name { state.loops name with loop })
  | _, _ => none

def blockBlobMissing (state : SyncState) (name : LoopName) :
    Option SyncState :=
  match (state.loops name).loop, state.fetchStatus with
  | .running .paraBlock _ _, some _ =>
      some (state.setLoop name { state.loops name with loop := .next })
  | _, _ => none

/-- A step fails; on its last attempt `throwFatal` rejects and throws. -/
def fails (state : SyncState) (name : LoopName) (error : String) :
    Option SyncState :=
  let sync := state.loops name
  (sync.loop.step .fails).bind fun failed =>
    match failed with
    | .fatal _ =>
        (failed.step (.fatalThrows error)).map fun loop =>
          (state.rejects name loop).doReject error
    | loop => some (state.setLoop name { sync with loop })

def updateNumbers (state : SyncState) (name : LoopName) (info : Info) :
    SyncState :=
  match name with
  | .main =>
      { state with
        headerSyncNumber := info.headernum
        paraBlockSyncNumber := info.blocknum }
  | .header => { state with headerSyncNumber := info.headernum }
  | .paraBlock => { state with paraBlockSyncNumber := info.blocknum }

def recovers (state : SyncState) (name : LoopName) (info : Info) :
    Option SyncState :=
  let sync := state.loops name
  (sync.loop.step (.recovers false)).map fun loop =>
    let updated := state.updateNumbers name info
    updated.setLoop name { sync with loop := updated.call loop, count := 0 }

/-- `updateInfo` fails in `processError`. -/
def recoveryFails (state : SyncState) (name : LoopName) : Option SyncState :=
  let sync := state.loops name
  (sync.loop.step (.recoveryFails false)).map fun loop =>
    state.setLoop name { sync with loop := state.call loop, count := 0 }

/-- The data provider reports new heights.  Only an object that `startSync`
found is updated, and no outdated heights are taken. -/
def fetches (state : SyncState) (status : FetchStatus) : Option SyncState :=
  state.fetchStatus.bind fun old =>
    if old.paraProcessedHeight ≤ status.paraProcessedHeight then
      some { state with fetchStatus := some status }
    else
      none

end SyncState

inductive SyncEvent where
  | polls (name : LoopName)
  | headersSynched (name : LoopName) (parentSynchedTo paraSynchedTo : Int)
  | headerBlobMissing (name : LoopName)
  | dispatched (name : LoopName) (dispatchedTo : Int)
  | blockBlobMissing (name : LoopName)
  | fails (name : LoopName) (error : String)
  | recovers (name : LoopName) (info : Info)
  | recoveryFails (name : LoopName)
  | fetches (status : FetchStatus)
  deriving DecidableEq, Repr

def SyncState.step (state : SyncState) : SyncEvent → Option SyncState
  | .polls name =>
      if name ∈ state.variant.loops then state.polls name else none
  | .headersSynched name parentSynchedTo paraSynchedTo =>
      state.headersSynched name parentSynchedTo paraSynchedTo
  | .headerBlobMissing name => state.headerBlobMissing name
  | .dispatched name dispatchedTo => state.dispatched name dispatchedTo
  | .blockBlobMissing name => state.blockBlobMissing name
  | .fails name error => state.fails name error
  | .recovers name info => state.recovers name info
  | .recoveryFails name => state.recoveryFails name
  | .fetches status => state.fetches status

end RuntimeBridge.Lifecycle
