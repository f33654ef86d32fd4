import RuntimeBridge.DataProvider.ParaBlob
import RuntimeBridge.Lifecycle.SyncDeath

/-! `single_sync.js` driving pRuntime: the requests that its loop sends, and
what pRuntime makes of them. -/

namespace RuntimeBridge.Lifecycle

open Library
open DataProvider (ParaRangeIndex ParaKey paraBlobKey)

structure DispatchRequest where
  firstBlockNumber : Nat
  lastBlockNumber : Nat
  /-- The next para header that pRuntime expects when the request is sent. -/
  paraHeadernum : Nat
  deriving DecidableEq, Repr

/-- `/bin_api/sync_combined_headers` and `/bin_api/dispatch_block`. -/
inductive Endpoint where
  | syncCombinedHeaders
  | dispatchBlock
  deriving DecidableEq, Repr

/-- What a failed request has done to pRuntime. -/
inductive Failure where
  | noEffect
  | replyLost (after : Info)
  | restarted (after : Info)
  deriving DecidableEq, Repr

/-- pRuntime takes headers or blocks and goes forward. -/
def Endpoint.Takes (before after : Info) : Endpoint → Prop
  | .syncCombinedHeaders =>
      before.headernum ≤ after.headernum ∧
        before.paraHeadernum ≤ after.paraHeadernum ∧
        after.blocknum = before.blocknum
  | .dispatchBlock =>
      after.headernum = before.headernum ∧
        after.paraHeadernum = before.paraHeadernum ∧
        before.blocknum ≤ after.blocknum

instance (before after : Info) (endpoint : Endpoint) :
    Decidable (endpoint.Takes before after) := by
  cases endpoint <;> exact inferInstanceAs (Decidable (_ ∧ _ ∧ _))

def Info.Earlier (after before : Info) : Prop :=
  after.headernum ≤ before.headernum ∧
    after.paraHeadernum ≤ before.paraHeadernum ∧
    after.blocknum ≤ before.blocknum

instance (after before : Info) : Decidable (after.Earlier before) :=
  inferInstanceAs (Decidable (_ ∧ _ ∧ _))

structure Driven where
  sync : SyncState
  /-- What pRuntime expects next. -/
  runtime : Info
  inFlight : Option Endpoint
  dispatches : List DispatchRequest
  headerReplied : Bool
  /-- pRuntime's numbers before the first failure that neither a reply nor
  `updateInfo` has followed. -/
  beforeFailure : Option Info

/-- An entry of the store at `number`: the block alone, or a batch from it on. -/
def IndexesBlock (rangeIndex : ParaRangeIndex) (number : Nat) : Prop :=
  rangeIndex.bufferKey = none ∧ rangeIndex.lastBlockNumber = number ∨
    rangeIndex.bufferKey = some number ∧ number ≤ rangeIndex.lastBlockNumber

instance (rangeIndex : ParaRangeIndex) (number : Nat) :
    Decidable (IndexesBlock rangeIndex number) :=
  inferInstanceAs (Decidable (_ ∧ _ ∨ _ ∧ _))

/-- The last block of the blob under the key that `getParaBlockBlob` chooses. -/
def lastBlockOf (rangeIndex : ParaRangeIndex) : ParaKey → Nat
  | .buffer _ => rangeIndex.lastBlockNumber
  | .dry number => number
  | .range number => number

inductive DrivenEvent where
  | polls
  | fetches (status : FetchStatus)
  | stops
  | blobMissing
  | blobFails (error : String)
  | sendHeaders
  | sendBlocks (rangeIndex : ParaRangeIndex)
  | replies (after : Info)
  | requestFails (error : String) (failure : Failure)
  | recovers
  | recoveryFails
  deriving DecidableEq

namespace Driven

def startSync (fetchStatus : Option FetchStatus) (info : Info) : Driven where
  sync := .startSync .single fetchStatus info
  runtime := info
  inFlight := none
  dispatches := []
  headerReplied := false
  beforeFailure := none

def blobMissing (state : Driven) : Option Driven :=
  if state.inFlight = none then
    ((state.sync.headerBlobMissing .main).or
      (state.sync.blockBlobMissing .main)).map fun sync => { state with sync }
  else
    none

def sendHeaders (state : Driven) : Option Driven :=
  match state.inFlight, (state.sync.loops .main).loop with
  | none, .running .paraBlock _ _ => none
  | none, .running _ _ _ =>
      some { state with inFlight := some .syncCombinedHeaders }
  | _, _ => none

def dispatchRequest (state : Driven) (rangeIndex : ParaRangeIndex) :
    DispatchRequest :=
  let blockNumber := state.sync.paraBlockSyncNumber.toNat
  { firstBlockNumber := blockNumber
    lastBlockNumber := lastBlockOf rangeIndex
      (paraBlobKey rangeIndex blockNumber
        state.sync.syncStatus.paraHeaderSynchedTo)
    paraHeadernum := state.runtime.paraHeadernum }

def sendBlocks (state : Driven) (rangeIndex : ParaRangeIndex) :
    Option Driven :=
  match state.inFlight, (state.sync.loops .main).loop with
  | none, .running .paraBlock _ _ =>
      if IndexesBlock rangeIndex state.sync.paraBlockSyncNumber.toNat then
        some { state with
          inFlight := some .dispatchBlock
          dispatches := state.dispatchRequest rangeIndex :: state.dispatches }
      else
        none
  | _, _ => none

/-- The reply tells what pRuntime has after the request. -/
def replies (state : Driven) (after : Info) : Option Driven :=
  state.inFlight.bind fun endpoint =>
    if endpoint.Takes state.runtime after then
      let replied := { state with
        runtime := after
        inFlight := none
        beforeFailure := none }
      match endpoint with
      | .syncCombinedHeaders =>
          (state.sync.headersSynched .main (after.headernum - 1)
            (after.paraHeadernum - 1)).map fun sync =>
              { replied with sync, headerReplied := true }
      | .dispatchBlock =>
          (state.sync.dispatched .main (after.blocknum - 1)).map fun sync =>
            { replied with sync }
    else
      none

def failsWith (state : Driven) (error : String) (runtime : Info) :
    Option Driven :=
  (state.sync.fails .main error).map fun sync =>
    { state with
      sync
      runtime
      inFlight := none
      beforeFailure := state.beforeFailure.or (some state.runtime) }

def requestFails (state : Driven) (error : String) (failure : Failure) :
    Option Driven :=
  state.inFlight.bind fun endpoint =>
    match failure with
    | .noEffect => state.failsWith error state.runtime
    | .replyLost after =>
        if endpoint.Takes state.runtime after then state.failsWith error after
        else none
    | .restarted after =>
        if after.Earlier state.runtime then state.failsWith error after
        else none

/-- `updateInfo` of `processError` returns. -/
def recovers (state : Driven) : Option Driven :=
  (state.sync.recovers .main state.runtime).map fun sync =>
    { state with sync, beforeFailure := none }

def step (state : Driven) : DrivenEvent → Option Driven
  | .polls => (state.sync.polls .main).map fun sync => { state with sync }
  | .fetches status =>
      (state.sync.fetches status).map fun sync => { state with sync }
  | .stops => some { state with sync := state.sync.stopSync }
  | .blobMissing => state.blobMissing
  | .blobFails error =>
      if state.inFlight = none then state.failsWith error state.runtime
      else none
  | .sendHeaders => state.sendHeaders
  | .sendBlocks rangeIndex => state.sendBlocks rangeIndex
  | .replies after => state.replies after
  | .requestFails error failure => state.requestFails error failure
  | .recovers => state.recovers
  | .recoveryFails =>
      (state.sync.recoveryFails .main).map fun sync => { state with sync }

end Driven

def drivenMachine (fetchStatus : Option FetchStatus) (info : Info) :
    Machine Driven DrivenEvent where
  start := .startSync fetchStatus info
  step := Driven.step

structure Cursors where
  headerSyncNumber : Int
  paraHeaderSyncNumber : Int
  paraBlockSyncNumber : Int
  deriving DecidableEq, Repr

def SyncState.cursors (state : SyncState) : Cursors where
  headerSyncNumber := state.headerSyncNumber
  paraHeaderSyncNumber := state.paraHeaderSyncNumber
  paraBlockSyncNumber := state.paraBlockSyncNumber

def Info.cursors (info : Info) : Cursors where
  headerSyncNumber := info.headernum
  paraHeaderSyncNumber := info.paraHeadernum
  paraBlockSyncNumber := info.blocknum

/-- A block step goes on only with a header for its block. -/
def SyncState.Ready (state : SyncState) : Prop :=
  state.variant = .single ∧ ∀ attempt ignore,
    (state.loops .main).loop = .running .paraBlock attempt ignore →
      state.paraBlockSyncNumber < state.paraHeaderSyncNumber

/-- The numbers that requests are made from. -/
structure SyncState.SameNumbers (before after : SyncState) : Prop where
  cursors : after.cursors = before.cursors
  synchedTo : after.syncStatus.paraHeaderSynchedTo =
    before.syncStatus.paraHeaderSynchedTo

variable {state next : SyncState} {sync : SyncLoop}
  {loop : Loop SyncStep}

theorem ready_setLoop (hsingle : state.variant = .single)
    (hloop : ∀ attempt ignore, sync.loop = .running .paraBlock attempt ignore →
      state.paraBlockSyncNumber < state.paraHeaderSyncNumber) :
    (state.setLoop .main sync).Ready := by
  refine ⟨hsingle, fun attempt ignore hrunning => hloop attempt ignore ?_⟩
  simpa [SyncState.setLoop] using hrunning

theorem SyncState.Ready.setIdle (h : state.Ready) (hidle : sync.loop.Idle) :
    (state.setLoop .main sync).Ready :=
  ready_setLoop h.1 fun attempt ignore hrunning => by
    rw [hrunning] at hidle
    exact hidle.elim

theorem call_ready (hsingle : state.variant = .single) {attempt : Nat}
    {ignore : Bool}
    (hrunning : state.call loop = .running .paraBlock attempt ignore) :
    state.paraBlockSyncNumber < state.paraHeaderSyncNumber := by
  unfold SyncState.call at hrunning
  split at hrunning
  · split at hrunning
    · cases hrunning
    · next hcalled =>
        cases hrunning
        simp [SyncState.returnsAtOnce, hsingle] at hcalled
        exact hcalled.2
  · next hother =>
      exact absurd hrunning (hother _ _ _)

theorem polls_numbers (hready : state.Ready)
    (taken : state.polls .main = some next) :
    state.SameNumbers next ∧ next.Ready := by
  simp only [SyncState.polls] at taken
  split at taken
  · obtain ⟨loop, hloop, rfl⟩ := Option.map_eq_some_iff.mp taken
    have hidle := Loop.idle_of_step (Or.inl rfl) hloop
    exact ⟨⟨rfl, rfl⟩, hready.setIdle hidle⟩
  · obtain ⟨loop, hloop, rfl⟩ := Option.map_eq_some_iff.mp taken
    have hidle := Loop.idle_of_step (Or.inr (Or.inl ⟨_, rfl⟩)) hloop
    exact ⟨⟨rfl, rfl⟩,
      @SyncState.Ready.setIdle state { state.loops .main with loop } hready
        hidle⟩
  · obtain ⟨loop, hloop, rfl⟩ := Option.map_eq_some_iff.mp taken
    have hidle := Loop.idle_of_step (Or.inr (Or.inr (Or.inl rfl))) hloop
    exact ⟨⟨rfl, rfl⟩, hready.setIdle hidle⟩
  · obtain ⟨loop, hloop, rfl⟩ := Option.map_eq_some_iff.mp taken
    exact ⟨⟨rfl, rfl⟩, ready_setLoop hready.1 fun _ _ => call_ready hready.1⟩

/-- A header step that is done leaves the numbers alone. -/
theorem headerStepDone_numbers {step : SyncStep} (hready : state.Ready)
    (taken : state.headerStepDone .main step = some next) :
    state.SameNumbers next ∧ next.Ready := by
  simp only [SyncState.headerStepDone] at taken
  split at taken
  · cases Option.some.inj taken
    exact ⟨⟨rfl, rfl⟩, ready_setLoop hready.1 hready.2⟩
  · obtain ⟨loop, hloop, rfl⟩ := Option.map_eq_some_iff.mp taken
    have hidle := Loop.idle_of_step (Or.inr (Or.inr (Or.inr rfl))) hloop
    exact ⟨⟨rfl, rfl⟩, hready.setIdle hidle⟩

theorem headerBlobMissing_numbers (hready : state.Ready)
    (taken : state.headerBlobMissing .main = some next) :
    state.SameNumbers next ∧ next.Ready := by
  simp only [SyncState.headerBlobMissing] at taken
  split at taken
  · cases taken
  · exact headerStepDone_numbers hready taken
  · cases taken

theorem blockBlobMissing_numbers (hready : state.Ready)
    (taken : state.blockBlobMissing .main = some next) :
    state.SameNumbers next ∧ next.Ready := by
  simp only [SyncState.blockBlobMissing] at taken
  split at taken
  · cases Option.some.inj taken
    exact ⟨⟨rfl, rfl⟩, hready.setIdle True.intro⟩
  · cases taken

theorem headersSynched_numbers {parentSynchedTo paraSynchedTo : Int}
    (hready : state.Ready)
    (taken : state.headersSynched .main parentSynchedTo paraSynchedTo =
      some next) :
    next.cursors =
        { headerSyncNumber := parentSynchedTo + 1
          paraHeaderSyncNumber := paraSynchedTo + 1
          paraBlockSyncNumber := state.paraBlockSyncNumber } ∧
      next.syncStatus.paraHeaderSynchedTo = paraSynchedTo ∧ next.Ready := by
  simp only [SyncState.headersSynched] at taken
  split at taken
  · cases taken
  · next step attempt ignore status hblock hloop hstatus =>
      have hnot : ∀ other again,
          (state.loops .main).loop ≠ .running .paraBlock other again := by
        intro other again hrunning
        rw [hloop] at hrunning
        cases hrunning
        exact hblock rfl
      obtain ⟨hsame, hnext⟩ := @headerStepDone_numbers
        { state with
          syncStatus := { state.syncStatus with
            parentHeaderSynchedTo := parentSynchedTo
            paraHeaderSynchedTo := paraSynchedTo }
          paraHeaderSyncNumber := paraSynchedTo + 1
          headerSyncNumber := parentSynchedTo + 1 } next step
        ⟨hready.1, fun other again hrunning =>
          absurd hrunning (hnot other again)⟩ taken
      exact ⟨hsame.cursors, hsame.synchedTo, hnext⟩
  · cases taken

theorem dispatched_numbers {dispatchedTo : Int} (hready : state.Ready)
    (taken : state.dispatched .main dispatchedTo = some next) :
    next.cursors =
        { headerSyncNumber := state.headerSyncNumber
          paraHeaderSyncNumber := state.paraHeaderSyncNumber
          paraBlockSyncNumber := dispatchedTo + 1 } ∧
      next.syncStatus.paraHeaderSynchedTo =
        state.syncStatus.paraHeaderSynchedTo ∧
      next.Ready := by
  obtain ⟨hsingle, -⟩ := hready
  cases state
  cases hsingle
  simp only [SyncState.dispatched] at taken
  split at taken
  · cases Option.some.inj taken
    refine ⟨rfl, rfl, ready_setLoop rfl fun attempt ignore hrunning => ?_⟩
    dsimp only at hrunning
    refine call_ready ?_ hrunning
    rfl
  · cases taken

theorem fails_numbers {error : String} (hready : state.Ready)
    (taken : state.fails .main error = some next) :
    state.SameNumbers next ∧ next.Ready := by
  simp only [SyncState.fails] at taken
  obtain ⟨failed, hfailed, hnext⟩ := Option.bind_eq_some_iff.mp taken
  split at hnext
  · obtain ⟨loop, hloop, rfl⟩ := Option.map_eq_some_iff.mp hnext
    cases Option.some.inj hloop
    have hset : (state.rejects .main (.rejected error)).Ready :=
      @SyncState.Ready.setIdle state
        { state.loops .main with loop := .rejected error } hready True.intro
    unfold SyncState.doReject
    split
    · exact ⟨⟨rfl, rfl⟩, hset⟩
    · exact ⟨⟨rfl, rfl⟩, hset⟩
  · next hnot =>
      cases Option.some.inj hnext
      refine ⟨⟨rfl, rfl⟩, ready_setLoop hready.1 fun attempt ignore hrunning => ?_⟩
      obtain ⟨_, _, _, _, heq | heq⟩ := Loop.step_fails hfailed
      · rw [heq] at hrunning
        cases hrunning
      · exact absurd heq (hnot _)

theorem recovers_numbers {info : Info} (hready : state.Ready)
    (taken : state.recovers .main info = some next) :
    next.cursors =
        { headerSyncNumber := info.headernum
          paraHeaderSyncNumber := state.paraHeaderSyncNumber
          paraBlockSyncNumber := info.blocknum } ∧
      next.syncStatus.paraHeaderSynchedTo =
        state.syncStatus.paraHeaderSynchedTo ∧
      next.Ready := by
  obtain ⟨loop, hloop, rfl⟩ := Option.map_eq_some_iff.mp taken
  refine ⟨rfl, rfl, hready.1, fun attempt ignore hrunning => ?_⟩
  refine @call_ready (state.updateNumbers .main info) loop hready.1 attempt
    ignore ?_
  simpa [SyncState.setLoop] using hrunning

theorem recoveryFails_numbers (hready : state.Ready)
    (taken : state.recoveryFails .main = some next) :
    state.SameNumbers next ∧ next.Ready := by
  obtain ⟨loop, hloop, rfl⟩ := Option.map_eq_some_iff.mp taken
  exact ⟨⟨rfl, rfl⟩, ready_setLoop hready.1 fun _ _ => call_ready hready.1⟩

theorem fetches_numbers {status : FetchStatus} (hready : state.Ready)
    (taken : state.fetches status = some next) :
    state.SameNumbers next ∧ next.Ready := by
  obtain ⟨old, -, hnext⟩ := Option.bind_eq_some_iff.mp taken
  split at hnext
  · cases Option.some.inj hnext
    exact ⟨⟨rfl, rfl⟩, hready⟩
  · cases hnext

/-- What a step leaves alone that has nothing to do with pRuntime. -/
structure Driven.Keeps (before after : Driven) : Prop where
  numbers : before.sync.SameNumbers after.sync
  runtime : after.runtime = before.runtime
  headerReplied : after.headerReplied = before.headerReplied
  beforeFailure : after.beforeFailure = before.beforeFailure

structure Driven.HeadersTaken (before after : Driven) (runtime : Info) :
    Prop where
  inFlight : before.inFlight = some .syncCombinedHeaders
  takes : Endpoint.syncCombinedHeaders.Takes before.runtime runtime
  cursors : after.sync.cursors =
    { headerSyncNumber := runtime.headernum
      paraHeaderSyncNumber := runtime.paraHeadernum
      paraBlockSyncNumber := before.sync.paraBlockSyncNumber }
  synchedTo : after.sync.syncStatus.paraHeaderSynchedTo =
    runtime.paraHeadernum - 1
  headerReplied : after.headerReplied = true

structure Driven.BlocksTaken (before after : Driven) (runtime : Info) :
    Prop where
  inFlight : before.inFlight = some .dispatchBlock
  takes : Endpoint.dispatchBlock.Takes before.runtime runtime
  cursors : after.sync.cursors =
    { headerSyncNumber := before.sync.headerSyncNumber
      paraHeaderSyncNumber := before.sync.paraHeaderSyncNumber
      paraBlockSyncNumber := runtime.blocknum }
  synchedTo : after.sync.syncStatus.paraHeaderSynchedTo =
    before.sync.syncStatus.paraHeaderSynchedTo
  headerReplied : after.headerReplied = before.headerReplied

structure Driven.Failed (before after : Driven) : Prop where
  numbers : before.sync.SameNumbers after.sync
  headerReplied : after.headerReplied = before.headerReplied
  beforeFailure : after.beforeFailure =
    before.beforeFailure.or (some before.runtime)

structure Driven.Recovered (before after : Driven) : Prop where
  cursors : after.sync.cursors =
    { headerSyncNumber := before.runtime.headernum
      paraHeaderSyncNumber := before.sync.paraHeaderSyncNumber
      paraBlockSyncNumber := before.runtime.blocknum }
  synchedTo : after.sync.syncStatus.paraHeaderSynchedTo =
    before.sync.syncStatus.paraHeaderSynchedTo
  runtime : after.runtime = before.runtime
  headerReplied : after.headerReplied = before.headerReplied
  beforeFailure : after.beforeFailure = none

def DrivenEvent.restarts : DrivenEvent → Prop
  | .requestFails _ (.restarted _) => True
  | _ => False

def Driven.Effect (before after : Driven) : DrivenEvent → Prop
  | .sendBlocks rangeIndex =>
      before.Keeps after ∧
        after.dispatches =
          before.dispatchRequest rangeIndex :: before.dispatches ∧
        before.sync.paraBlockSyncNumber < before.sync.paraHeaderSyncNumber ∧
        IndexesBlock rangeIndex before.sync.paraBlockSyncNumber.toNat
  | .replies runtime =>
      after.dispatches = before.dispatches ∧ after.runtime = runtime ∧
        after.beforeFailure = none ∧
        (before.HeadersTaken after runtime ∨ before.BlocksTaken after runtime)
  | .requestFails error failure =>
      after.dispatches = before.dispatches ∧ before.Failed after ∧
        (before.runtime.paraHeadernum ≤ after.runtime.paraHeadernum ∨
          (DrivenEvent.requestFails error failure).restarts)
  | .blobFails _ =>
      after.dispatches = before.dispatches ∧ before.Failed after ∧
        after.runtime = before.runtime
  | .recovers =>
      after.dispatches = before.dispatches ∧ before.Recovered after
  | _ => after.dispatches = before.dispatches ∧ before.Keeps after

variable {before after : Driven} {runtime : Info} {event : DrivenEvent}

theorem keeps_of_sync (numbers : before.sync.SameNumbers next) :
    before.Keeps { before with sync := next } where
  numbers := numbers
  runtime := rfl
  headerReplied := rfl
  beforeFailure := rfl

theorem sendHeaders_effect (taken : before.sendHeaders = some after) :
    after.sync = before.sync ∧ after.dispatches = before.dispatches ∧
      before.Keeps after := by
  simp only [Driven.sendHeaders] at taken
  split at taken
  · cases taken
  · cases Option.some.inj taken
    exact ⟨rfl, rfl, ⟨⟨rfl, rfl⟩, rfl, rfl, rfl⟩⟩
  · cases taken

theorem sendBlocks_effect {rangeIndex : ParaRangeIndex}
    (hready : before.sync.Ready)
    (taken : before.sendBlocks rangeIndex = some after) :
    after.sync = before.sync ∧ before.Effect after (.sendBlocks rangeIndex) := by
  simp only [Driven.sendBlocks] at taken
  split at taken
  · next hloop =>
      split at taken
      · next hindexes =>
          cases Option.some.inj taken
          exact ⟨rfl, ⟨⟨rfl, rfl⟩, rfl, rfl, rfl⟩, rfl,
            hready.2 _ _ hloop, hindexes⟩
      · cases taken
  · cases taken

theorem blobMissing_effect (hready : before.sync.Ready)
    (taken : before.blobMissing = some after) :
    after.sync.Ready ∧ after.dispatches = before.dispatches ∧
      before.Keeps after := by
  simp only [Driven.blobMissing] at taken
  split at taken
  · obtain ⟨sync, hsync, rfl⟩ := Option.map_eq_some_iff.mp taken
    rcases Option.or_eq_some_iff.mp hsync with hheader | ⟨-, hblock⟩
    · obtain ⟨hsame, hnext⟩ := headerBlobMissing_numbers hready hheader
      exact ⟨hnext, rfl, keeps_of_sync hsame⟩
    · obtain ⟨hsame, hnext⟩ := blockBlobMissing_numbers hready hblock
      exact ⟨hnext, rfl, keeps_of_sync hsame⟩
  · cases taken

theorem replies_effect (hready : before.sync.Ready)
    (taken : before.replies runtime = some after) :
    after.sync.Ready ∧ before.Effect after (.replies runtime) := by
  obtain ⟨endpoint, hflight, hnext⟩ := Option.bind_eq_some_iff.mp taken
  split at hnext
  · next htakes =>
      cases endpoint with
      | syncCombinedHeaders =>
          obtain ⟨sync, hsync, rfl⟩ := Option.map_eq_some_iff.mp hnext
          obtain ⟨hcursors, hsynched, hnext⟩ :=
            headersSynched_numbers hready hsync
          refine ⟨hnext, rfl, rfl, rfl, Or.inl
            { inFlight := hflight
              takes := htakes
              cursors := ?_
              synchedTo := hsynched
              headerReplied := rfl }⟩
          simpa using hcursors
      | dispatchBlock =>
          obtain ⟨sync, hsync, rfl⟩ := Option.map_eq_some_iff.mp hnext
          obtain ⟨hcursors, hsynched, hnext⟩ := dispatched_numbers hready hsync
          refine ⟨hnext, rfl, rfl, rfl, Or.inr
            { inFlight := hflight
              takes := htakes
              cursors := ?_
              synchedTo := hsynched
              headerReplied := rfl }⟩
          simpa using hcursors
  · cases hnext

theorem failsWith_effect {error : String} (hready : before.sync.Ready)
    (taken : before.failsWith error runtime = some after) :
    after.sync.Ready ∧ after.dispatches = before.dispatches ∧
      before.Failed after ∧ after.runtime = runtime := by
  obtain ⟨sync, hsync, rfl⟩ := Option.map_eq_some_iff.mp taken
  obtain ⟨hsame, hnext⟩ := fails_numbers hready hsync
  exact ⟨hnext, rfl, ⟨hsame, rfl, rfl⟩, rfl⟩

theorem requestFails_effect {error : String} {failure : Failure}
    (hready : before.sync.Ready)
    (taken : before.requestFails error failure = some after) :
    after.sync.Ready ∧ before.Effect after (.requestFails error failure) := by
  obtain ⟨endpoint, -, hnext⟩ := Option.bind_eq_some_iff.mp taken
  cases failure with
  | noEffect =>
      obtain ⟨hnext, hdispatches, hfailed, hruntime⟩ :=
        failsWith_effect hready hnext
      exact ⟨hnext, hdispatches, hfailed,
        Or.inl (Nat.le_of_eq (congrArg Info.paraHeadernum hruntime.symm))⟩
  | replyLost runtime =>
      simp only at hnext
      split at hnext
      · next htakes =>
          obtain ⟨hnext, hdispatches, hfailed, hruntime⟩ :=
            failsWith_effect hready hnext
          refine ⟨hnext, hdispatches, hfailed, Or.inl ?_⟩
          rw [hruntime]
          cases endpoint with
          | syncCombinedHeaders => exact htakes.2.1
          | dispatchBlock => exact Nat.le_of_eq htakes.2.1.symm
      · cases hnext
  | restarted runtime =>
      simp only at hnext
      split at hnext
      · obtain ⟨hnext, hdispatches, hfailed, -⟩ :=
          failsWith_effect hready hnext
        exact ⟨hnext, hdispatches, hfailed, Or.inr True.intro⟩
      · cases hnext

/-- What each step does to the numbers of the two sides. -/
theorem step_effect (hready : before.sync.Ready)
    (taken : before.step event = some after) :
    after.sync.Ready ∧ before.Effect after event := by
  cases event with
  | polls =>
      obtain ⟨sync, hsync, rfl⟩ := Option.map_eq_some_iff.mp taken
      obtain ⟨hsame, hnext⟩ := polls_numbers hready hsync
      exact ⟨hnext, rfl, keeps_of_sync hsame⟩
  | fetches status =>
      obtain ⟨sync, hsync, rfl⟩ := Option.map_eq_some_iff.mp taken
      obtain ⟨hsame, hnext⟩ := fetches_numbers hready hsync
      exact ⟨hnext, rfl, keeps_of_sync hsame⟩
  | stops =>
      cases Option.some.inj taken
      exact ⟨hready, rfl, keeps_of_sync ⟨rfl, rfl⟩⟩
  | blobMissing => exact blobMissing_effect hready taken
  | blobFails error =>
      simp only [Driven.step] at taken
      split at taken
      · exact failsWith_effect hready taken
      · cases taken
  | sendHeaders =>
      obtain ⟨hsync, heffect⟩ := sendHeaders_effect taken
      exact ⟨hsync ▸ hready, heffect⟩
  | sendBlocks rangeIndex =>
      obtain ⟨hsync, heffect⟩ := sendBlocks_effect hready taken
      exact ⟨hsync ▸ hready, heffect⟩
  | replies runtime => exact replies_effect hready taken
  | requestFails error failure => exact requestFails_effect hready taken
  | recovers =>
      obtain ⟨sync, hsync, rfl⟩ := Option.map_eq_some_iff.mp taken
      obtain ⟨hcursors, hsynched, hnext⟩ := recovers_numbers hready hsync
      exact ⟨hnext, rfl, ⟨hcursors, hsynched, rfl, rfl, rfl⟩⟩
  | recoveryFails =>
      obtain ⟨sync, hsync, rfl⟩ := Option.map_eq_some_iff.mp taken
      obtain ⟨hsame, hnext⟩ := recoveryFails_numbers hready hsync
      exact ⟨hnext, rfl, keeps_of_sync hsame⟩

theorem ready_startSync (fetchStatus : Option FetchStatus) (info : Info) :
    (Driven.startSync fetchStatus info).sync.Ready :=
  ⟨rfl, fun _ _ hrunning => nomatch hrunning⟩

def fetched : FetchStatus where
  parentProcessedHeight := 9
  paraFetchedHeight := 9
  paraProcessedHeight := 9

end RuntimeBridge.Lifecycle
