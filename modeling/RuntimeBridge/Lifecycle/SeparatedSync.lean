import RuntimeBridge.Lifecycle.DispatchBound
import RuntimeBridge.Lifecycle.SyncCursors

/-! `separated_sync.js` driving pRuntime: two loops that share `syncStatus`, and
may each have a request waiting for pRuntime, which answers one at a time. -/

namespace RuntimeBridge.Lifecycle

open Library
open DataProvider (ParaRangeIndex ParaKey paraBlobKey)

/-- The loop that sends the requests of an endpoint. -/
def Endpoint.loop : Endpoint → LoopName
  | .syncCombinedHeaders => .header
  | .dispatchBlock => .paraBlock

structure Separated where
  sync : SyncState
  /-- What pRuntime expects next. -/
  runtime : Info
  /-- What `getParaBlockBlob` was called with. -/
  headerSynchedTo : Int
  inFlight : Endpoint → Bool
  /-- A step has failed, and neither a reply nor `updateInfo` has followed. -/
  failed : Endpoint → Bool
  dispatches : List DispatchRequest

inductive SeparatedEvent where
  | polls (endpoint : Endpoint)
  | fetches (status : FetchStatus)
  | stops
  | blobMissing (endpoint : Endpoint)
  | blobFails (endpoint : Endpoint) (error : String)
  | sendHeaders
  | sendBlocks (rangeIndex : ParaRangeIndex)
  | replies (endpoint : Endpoint) (after : Info)
  | requestFails (endpoint : Endpoint) (error : String) (failure : Failure)
  | recovers (endpoint : Endpoint)
  | recoveryFails (endpoint : Endpoint)
  deriving DecidableEq

namespace Separated

def startSync (fetchStatus : Option FetchStatus) (info : Info) : Separated where
  sync := .startSync .separated fetchStatus info
  runtime := info
  headerSynchedTo := -1
  inFlight _ := false
  failed _ := false
  dispatches := []

/-- The function that the loop runs is called with the numbers of that time. -/
def calls (state : Separated) (endpoint : Endpoint) (sync : SyncState) :
    Separated :=
  match endpoint with
  | .syncCombinedHeaders => { state with sync }
  | .dispatchBlock =>
      { state with
        sync
        headerSynchedTo := sync.syncStatus.paraHeaderSynchedTo }

def blobMissing (state : Separated) (endpoint : Endpoint) : Option Separated :=
  if state.inFlight endpoint then
    none
  else
    match endpoint with
    | .syncCombinedHeaders =>
        (state.sync.headerBlobMissing .header).map fun sync =>
          { state with sync }
    | .dispatchBlock =>
        (state.sync.blockBlobMissing .paraBlock).map fun sync =>
          { state with sync }

def sendHeaders (state : Separated) : Option Separated :=
  match state.inFlight .syncCombinedHeaders, (state.sync.loops .header).loop with
  | false, .running .header _ _ =>
      some { state with
        inFlight := Function.update state.inFlight .syncCombinedHeaders true }
  | _, _ => none

def dispatchRequest (state : Separated) (rangeIndex : ParaRangeIndex) :
    DispatchRequest :=
  let blockNumber := state.sync.paraBlockSyncNumber.toNat
  { firstBlockNumber := blockNumber
    lastBlockNumber := lastBlockOf rangeIndex
      (paraBlobKey rangeIndex blockNumber state.headerSynchedTo)
    paraHeadernum := state.runtime.paraHeadernum }

def sendBlocks (state : Separated) (rangeIndex : ParaRangeIndex) :
    Option Separated :=
  match state.inFlight .dispatchBlock, (state.sync.loops .paraBlock).loop with
  | false, .running .paraBlock _ _ =>
      if IndexesBlock rangeIndex state.sync.paraBlockSyncNumber.toNat then
        some { state with
          inFlight := Function.update state.inFlight .dispatchBlock true
          dispatches := state.dispatchRequest rangeIndex :: state.dispatches }
      else
        none
  | _, _ => none

def replies (state : Separated) (endpoint : Endpoint) (after : Info) :
    Option Separated :=
  if state.inFlight endpoint ∧ endpoint.Takes state.runtime after then
    let sync :=
      match endpoint with
      | .syncCombinedHeaders => state.sync.headersSynched .header
          (after.headernum - 1) (after.paraHeadernum - 1)
      | .dispatchBlock => state.sync.dispatched .paraBlock (after.blocknum - 1)
    sync.map fun sync =>
      { state with
        sync
        runtime := after
        inFlight := Function.update state.inFlight endpoint false
        failed := Function.update state.failed endpoint false }
  else
    none

def failsWith (state : Separated) (endpoint : Endpoint) (error : String)
    (runtime : Info) : Option Separated :=
  (state.sync.fails endpoint.loop error).map fun sync =>
    { state with
      sync
      runtime
      inFlight := Function.update state.inFlight endpoint false
      failed := Function.update state.failed endpoint true }

def requestFails (state : Separated) (endpoint : Endpoint) (error : String)
    (failure : Failure) : Option Separated :=
  if state.inFlight endpoint then
    match failure with
    | .noEffect => state.failsWith endpoint error state.runtime
    | .replyLost after =>
        if endpoint.Takes state.runtime after then
          state.failsWith endpoint error after
        else none
    | .restarted after =>
        if after.Earlier state.runtime then
          state.failsWith endpoint error after
        else none
  else
    none

def step (state : Separated) : SeparatedEvent → Option Separated
  | .polls endpoint =>
      (state.sync.polls endpoint.loop).map (state.calls endpoint)
  | .fetches status =>
      (state.sync.fetches status).map fun sync => { state with sync }
  | .stops => some { state with sync := state.sync.stopSync }
  | .blobMissing endpoint => state.blobMissing endpoint
  | .blobFails endpoint error =>
      if state.inFlight endpoint then none
      else state.failsWith endpoint error state.runtime
  | .sendHeaders => state.sendHeaders
  | .sendBlocks rangeIndex => state.sendBlocks rangeIndex
  | .replies endpoint after => state.replies endpoint after
  | .requestFails endpoint error failure =>
      state.requestFails endpoint error failure
  | .recovers endpoint =>
      (state.sync.recovers endpoint.loop state.runtime).map fun sync =>
        { state.calls endpoint sync with
          failed := Function.update state.failed endpoint false }
  | .recoveryFails endpoint =>
      (state.sync.recoveryFails endpoint.loop).map (state.calls endpoint)

end Separated

def separatedMachine (fetchStatus : Option FetchStatus) (info : Info) :
    Machine Separated SeparatedEvent where
  start := .startSync fetchStatus info
  step := Separated.step

/-- Every block that pRuntime has run has its header there. -/
def Info.Backed (info : Info) : Prop := info.blocknum ≤ info.paraHeadernum

instance (info : Info) : Decidable info.Backed :=
  inferInstanceAs (Decidable (_ ≤ _))

/-- pRuntime does not roll back, and runs no block without its header.  Unless
`lossy` is set, no reply to a dispatch is lost. -/
def goesForward (lossy : Bool) (_ : Separated) : SeparatedEvent → Prop
  | .replies _ after => after.Backed
  | .requestFails endpoint _ (.replyLost after) =>
      after.Backed ∧ (endpoint = .dispatchBlock → lossy = true)
  | .requestFails _ _ (.restarted _) => False
  | _ => True

instance (lossy : Bool) (state : Separated) (event : SeparatedEvent) :
    Decidable (goesForward lossy state event) := by
  unfold goesForward
  split <;> infer_instance

/-- What a step of one loop leaves alone. -/
structure SyncState.Moves (name : LoopName) (before after : SyncState) :
    Prop where
  variant : after.variant = before.variant
  others : ∀ other, other ≠ name → after.loops other = before.loops other

/-- A block step runs with a header for its block. -/
def SyncState.Called (state : SyncState) : Prop :=
  ¬ (state.loops .paraBlock).loop.Idle →
    state.paraBlockSyncNumber ≤ state.syncStatus.paraHeaderSynchedTo

variable {state next : SyncState} {name : LoopName}

theorem Loop.busy_of_running {loop : Loop Fn} {fn : Fn} {attempt : Nat}
    {ignore : Bool} (h : loop = .running fn attempt ignore) : ¬ loop.Idle := by
  subst h
  exact id

theorem moves_setLoop (state : SyncState) (name : LoopName) (sync : SyncLoop) :
    state.Moves name (state.setLoop name sync) where
  variant := rfl
  others := fun _ hne => Function.update_of_ne hne _ _

theorem call_separated (hvariant : state.variant = .separated)
    (loop : Loop SyncStep) : state.call loop = loop := by
  unfold SyncState.call
  split
  · rw [SyncState.returnsAtOnce, hvariant]
    rfl
  · rfl

theorem moves_rejects (state : SyncState) (name : LoopName)
    (loop : Loop SyncStep) : state.Moves name (state.rejects name loop) where
  variant := rfl
  others := fun _ hne => Function.update_of_ne hne _ _

theorem polls_moves (taken : state.polls name = some next) :
    state.SameNumbers next ∧ state.Moves name next := by
  simp only [SyncState.polls] at taken
  split at taken <;>
    obtain ⟨loop, _, rfl⟩ := Option.map_eq_some_iff.mp taken
  · exact ⟨⟨rfl, rfl⟩, moves_setLoop state name _⟩
  · exact ⟨⟨rfl, rfl⟩, moves_rejects state name loop⟩
  · exact ⟨⟨rfl, rfl⟩, moves_setLoop state name _⟩
  · exact ⟨⟨rfl, rfl⟩, moves_setLoop state name _⟩

/-- The iterator yields a block step once the header is there. -/
theorem polls_called (taken : state.polls .paraBlock = some next) :
    next.Called := by
  intro hbusy
  simp only [SyncState.polls] at taken
  split at taken
  · obtain ⟨loop, hloop, rfl⟩ := Option.map_eq_some_iff.mp taken
    have hidle := Loop.idle_of_step (Or.inl rfl) hloop
    simp only [SyncState.setLoop, Function.update_self] at hbusy
    exact absurd hidle hbusy
  · obtain ⟨loop, hloop, rfl⟩ := Option.map_eq_some_iff.mp taken
    have hidle := Loop.idle_of_step (Or.inr (Or.inl ⟨_, rfl⟩)) hloop
    simp only [SyncState.rejects, SyncState.setLoop, Function.update_self]
      at hbusy
    exact absurd hidle hbusy
  · obtain ⟨loop, hloop, rfl⟩ := Option.map_eq_some_iff.mp taken
    have hidle := Loop.idle_of_step (Or.inr (Or.inr (Or.inl rfl))) hloop
    simp only [SyncState.setLoop, Function.update_self] at hbusy
    exact absurd hidle hbusy
  · next step position hyield =>
      obtain ⟨loop, hloop, rfl⟩ := Option.map_eq_some_iff.mp taken
      simp only [SyncState.iterator, SyncState.paraBlockSyncIterator] at hyield
      split at hyield
      · cases hyield
      · split at hyield
        · cases hyield
        · next hnot => exact Int.not_lt.mp hnot

theorem headerStepDone_moves {step : SyncStep}
    (taken : state.headerStepDone name step = some next) :
    state.SameNumbers next ∧ state.Moves name next := by
  simp only [SyncState.headerStepDone] at taken
  split at taken
  · cases Option.some.inj taken
    exact ⟨⟨rfl, rfl⟩, moves_setLoop state name _⟩
  · obtain ⟨loop, _, rfl⟩ := Option.map_eq_some_iff.mp taken
    exact ⟨⟨rfl, rfl⟩, moves_setLoop state name _⟩

theorem headerBlobMissing_moves
    (taken : state.headerBlobMissing name = some next) :
    state.SameNumbers next ∧ state.Moves name next := by
  simp only [SyncState.headerBlobMissing] at taken
  split at taken
  · cases taken
  · exact headerStepDone_moves taken
  · cases taken

theorem blockBlobMissing_moves
    (taken : state.blockBlobMissing name = some next) :
    state.SameNumbers next ∧ state.Moves name next ∧
      (next.loops name).loop = .next := by
  simp only [SyncState.blockBlobMissing] at taken
  split at taken
  · cases Option.some.inj taken
    refine ⟨⟨rfl, rfl⟩, moves_setLoop state name _, ?_⟩
    simp only [SyncState.setLoop, Function.update_self]
  · cases taken

theorem headersSynched_moves {parentSynchedTo paraSynchedTo : Int}
    (taken : state.headersSynched name parentSynchedTo paraSynchedTo =
      some next) :
    next.cursors =
        { headerSyncNumber := parentSynchedTo + 1
          paraHeaderSyncNumber := paraSynchedTo + 1
          paraBlockSyncNumber := state.paraBlockSyncNumber } ∧
      next.syncStatus.paraHeaderSynchedTo = paraSynchedTo ∧
      state.Moves name next := by
  simp only [SyncState.headersSynched] at taken
  split at taken
  · cases taken
  · obtain ⟨hsame, hmoves⟩ := headerStepDone_moves taken
    exact ⟨hsame.cursors, hsame.synchedTo, hmoves.variant, hmoves.others⟩
  · cases taken

theorem dispatched_moves {dispatchedTo : Int}
    (hvariant : state.variant = .separated)
    (taken : state.dispatched name dispatchedTo = some next) :
    next.cursors =
        { headerSyncNumber := state.headerSyncNumber
          paraHeaderSyncNumber := state.paraHeaderSyncNumber
          paraBlockSyncNumber := dispatchedTo + 1 } ∧
      next.syncStatus.paraHeaderSynchedTo =
        state.syncStatus.paraHeaderSynchedTo ∧
      state.Moves name next ∧ (next.loops name).loop = .next := by
  cases state
  cases hvariant
  simp only [SyncState.dispatched] at taken
  split at taken
  · cases Option.some.inj taken
    refine ⟨rfl, rfl, ⟨rfl, fun _ hne => Function.update_of_ne hne _ _⟩, ?_⟩
    simp only [SyncState.setLoop, Function.update_self]
  · cases taken

theorem doReject_moves {error : String} (hmoves : state.Moves name next) :
    state.Moves name (next.doReject error) := by
  unfold SyncState.doReject
  split
  · exact hmoves
  · exact ⟨hmoves.variant, hmoves.others⟩

theorem doReject_same (state : SyncState) (error : String) :
    state.SameNumbers (state.doReject error) ∧
      (state.doReject error).loops = state.loops := by
  unfold SyncState.doReject
  split
  · exact ⟨⟨rfl, rfl⟩, rfl⟩
  · exact ⟨⟨rfl, rfl⟩, rfl⟩

theorem fails_moves {error : String}
    (taken : state.fails name error = some next) :
    state.SameNumbers next ∧ state.Moves name next ∧
      (∀ step attempt ignore,
        (next.loops name).loop ≠ .running step attempt ignore) ∧
      ¬ (state.loops name).loop.Idle := by
  obtain ⟨failed, hfailed, hnext⟩ := Option.bind_eq_some_iff.mp taken
  have hbusy := Loop.not_idle (Or.inl rfl) hfailed
  split at hnext
  · obtain ⟨loop, hloop, rfl⟩ := Option.map_eq_some_iff.mp hnext
    cases Option.some.inj hloop
    obtain ⟨hsame, hloops⟩ :=
      doReject_same (state.rejects name (.rejected error)) error
    refine ⟨⟨hsame.cursors, hsame.synchedTo⟩,
      doReject_moves (moves_rejects state name _), ?_, hbusy⟩
    intro step attempt ignore hrunning
    rw [hloops] at hrunning
    simp only [SyncState.rejects, SyncState.setLoop, Function.update_self]
      at hrunning
    cases hrunning
  · next hnot =>
      cases Option.some.inj hnext
      refine ⟨⟨rfl, rfl⟩, moves_setLoop state name _, ?_, hbusy⟩
      intro step attempt ignore hrunning
      simp only [SyncState.setLoop, Function.update_self] at hrunning
      obtain ⟨_, _, _, _, heq | heq⟩ := Loop.step_fails hfailed
      · rw [heq] at hrunning
        cases hrunning
      · exact hnot _ heq

/-- The numbers that `processError` takes from `updateInfo`. -/
theorem recovers_moves {info : Info} (hvariant : state.variant = .separated)
    (taken : state.recovers name info = some next) :
    next.cursors = (state.updateNumbers name info).cursors ∧
      next.syncStatus.paraHeaderSynchedTo =
        state.syncStatus.paraHeaderSynchedTo ∧
      state.Moves name next ∧ (∀ step attempt ignore,
        (next.loops name).loop = .running step attempt ignore → 0 < attempt) ∧
      ¬ (state.loops name).loop.Idle := by
  obtain ⟨loop, hloop, rfl⟩ := Option.map_eq_some_iff.mp taken
  have hupdated : (state.updateNumbers name info).variant = .separated := by
    cases name <;> exact hvariant
  have hloops : (state.updateNumbers name info).loops = state.loops := by
    cases name <;> rfl
  refine ⟨rfl, ?_, ⟨?_, ?_⟩, ?_,
    Loop.not_idle (Or.inr (Or.inl ⟨_, rfl⟩)) hloop⟩
  · cases name <;> rfl
  · cases name <;> rfl
  · intro other hne
    simp only [SyncState.setLoop, Function.update_of_ne hne, hloops]
  · intro step attempt ignore hrunning
    simp only [SyncState.setLoop, Function.update_self,
      call_separated hupdated] at hrunning
    obtain ⟨fn, failed, again, _, heq | heq⟩ := Loop.step_recovers hloop
    · rw [heq] at hrunning
      cases hrunning
    · rw [heq] at hrunning
      cases hrunning
      exact Nat.succ_pos failed

theorem recoveryFails_moves (hvariant : state.variant = .separated)
    (taken : state.recoveryFails name = some next) :
    state.SameNumbers next ∧ state.Moves name next ∧
      (∀ step attempt ignore,
        (next.loops name).loop = .running step attempt ignore → 0 < attempt) ∧
      ¬ (state.loops name).loop.Idle := by
  obtain ⟨loop, hloop, rfl⟩ := Option.map_eq_some_iff.mp taken
  refine ⟨⟨rfl, rfl⟩, moves_setLoop state name _, ?_,
    Loop.not_idle (Or.inr (Or.inr ⟨_, rfl⟩)) hloop⟩
  intro step attempt ignore hrunning
  simp only [SyncState.setLoop, Function.update_self,
    call_separated hvariant] at hrunning
  obtain ⟨fn, failed, again, _, heq⟩ := Loop.step_recoveryFails hloop
  rw [heq] at hrunning
  cases hrunning
  exact Nat.succ_pos failed

/-- What the block loop is called with, when it is at work. -/
structure Separated.BlockLoopOk (lossy : Bool) (state : Separated) : Prop where
  called : state.headerSynchedTo ≤ state.sync.syncStatus.paraHeaderSynchedTo
  first : ∀ step attempt ignore,
    (state.sync.loops .paraBlock).loop = .running step attempt ignore →
      0 < attempt ∨ state.sync.paraBlockSyncNumber ≤ state.headerSynchedTo
  ready : lossy = false → ¬ (state.sync.loops .paraBlock).loop.Idle →
    state.sync.paraBlockSyncNumber ≤ state.headerSynchedTo

structure SeparatedOk (lossy : Bool) (state : Separated) : Prop where
  variant : state.sync.variant = .separated
  backed : state.runtime.Backed
  header : state.failed .syncCombinedHeaders = false →
    state.sync.headerSyncNumber = state.runtime.headernum
  block : state.failed .dispatchBlock = false →
    state.sync.paraBlockSyncNumber = state.runtime.blocknum
  behind : 0 ≤ state.sync.paraBlockSyncNumber ∧
    state.sync.paraBlockSyncNumber ≤ state.runtime.blocknum
  synched : state.sync.syncStatus.paraHeaderSynchedTo <
    state.runtime.paraHeadernum
  current : lossy = false →
    state.sync.paraBlockSyncNumber = state.runtime.blocknum
  loop : state.BlockLoopOk lossy

variable {lossy : Bool} {before after : Separated} {event : SeparatedEvent}
  {endpoint : Endpoint} {info runtime : Info}
  {fetchStatus : Option FetchStatus}

namespace SeparatedOk

/-- The other loop has moved. -/
theorem other_loop (h : SeparatedOk lossy before)
    (hloop : after.sync.loops .paraBlock = before.sync.loops .paraBlock)
    (hblock : after.sync.paraBlockSyncNumber = before.sync.paraBlockSyncNumber)
    (hsynched : before.sync.syncStatus.paraHeaderSynchedTo ≤
      after.sync.syncStatus.paraHeaderSynchedTo)
    (hcalled : after.headerSynchedTo = before.headerSynchedTo) :
    after.BlockLoopOk lossy where
  called := by
    rw [hcalled]
    exact Int.le_trans h.loop.called hsynched
  first := by
    rw [hloop, hblock, hcalled]
    exact h.loop.first
  ready := by
    rw [hloop, hblock, hcalled]
    exact h.loop.ready

/-- The cursors stay, and pRuntime goes on. -/
theorem moved (h : SeparatedOk lossy before)
    (hvariant : after.sync.variant = before.sync.variant)
    (hsame : before.sync.SameNumbers after.sync)
    (hloop : after.BlockLoopOk lossy) (hbacked : after.runtime.Backed)
    (hheader : after.failed .syncCombinedHeaders = false →
      before.failed .syncCombinedHeaders = false ∧
        after.runtime.headernum = before.runtime.headernum)
    (hblock : after.failed .dispatchBlock = false →
      before.failed .dispatchBlock = false ∧
        after.runtime.blocknum = before.runtime.blocknum)
    (hpara : before.runtime.paraHeadernum ≤ after.runtime.paraHeadernum)
    (hblocknum : before.runtime.blocknum ≤ after.runtime.blocknum)
    (hcurrent : lossy = false →
      after.runtime.blocknum = before.runtime.blocknum) :
    SeparatedOk lossy after := by
  obtain ⟨hheaderNumber, -, hblockNumber⟩ := Cursors.mk.inj hsame.cursors
  have hbehind := h.behind
  have hsynched := h.synched
  have hsynchedTo := hsame.synchedTo
  exact
    { variant := hvariant.trans h.variant
      backed := hbacked
      header := fun hfailed => by
        rw [hheaderNumber, (hheader hfailed).2]
        exact h.header (hheader hfailed).1
      block := fun hfailed => by
        rw [hblockNumber, (hblock hfailed).2]
        exact h.block (hblock hfailed).1
      behind := by omega
      synched := by omega
      current := fun hlossy => by
        rw [hblockNumber, hcurrent hlossy]
        exact h.current hlossy
      loop := hloop }

/-- Neither the cursors nor pRuntime have moved. -/
theorem kept (h : SeparatedOk lossy before)
    (hvariant : after.sync.variant = before.sync.variant)
    (hsame : before.sync.SameNumbers after.sync)
    (hloop : after.BlockLoopOk lossy)
    (hruntime : after.runtime = before.runtime)
    (hfailed : ∀ endpoint, after.failed endpoint = false →
      before.failed endpoint = false) : SeparatedOk lossy after := by
  refine h.moved hvariant hsame hloop (hruntime ▸ h.backed)
    (fun hnot => ⟨hfailed _ hnot, by rw [hruntime]⟩)
    (fun hnot => ⟨hfailed _ hnot, by rw [hruntime]⟩) ?_ ?_
    fun _ => by rw [hruntime]
  · exact Nat.le_of_eq (by rw [hruntime])
  · exact Nat.le_of_eq (by rw [hruntime])

theorem polls (h : SeparatedOk lossy before) {sync : SyncState}
    (taken : before.sync.polls endpoint.loop = some sync) :
    SeparatedOk lossy (before.calls endpoint sync) := by
  obtain ⟨hsame, hmoves⟩ := polls_moves taken
  cases endpoint with
  | syncCombinedHeaders =>
      exact h.kept hmoves.variant hsame
        (h.other_loop (hmoves.others .paraBlock (by decide))
          (congrArg Cursors.paraBlockSyncNumber hsame.cursors)
          (Int.le_of_eq hsame.synchedTo.symm) rfl) rfl fun _ hnot => hnot
  | dispatchBlock =>
      have hcalled := polls_called taken
      exact h.kept hmoves.variant hsame
        { called := Int.le_refl _
          first := fun step attempt ignore hrunning =>
            Or.inr (hcalled (Loop.busy_of_running hrunning))
          ready := fun _ => hcalled } rfl fun _ hnot => hnot

theorem recoveryFails (h : SeparatedOk lossy before) {sync : SyncState}
    (taken : before.sync.recoveryFails endpoint.loop = some sync) :
    SeparatedOk lossy (before.calls endpoint sync) := by
  obtain ⟨hsame, hmoves, hretried, hbusy⟩ := recoveryFails_moves h.variant taken
  cases endpoint with
  | syncCombinedHeaders =>
      exact h.kept hmoves.variant hsame
        (h.other_loop (hmoves.others .paraBlock (by decide))
          (congrArg Cursors.paraBlockSyncNumber hsame.cursors)
          (Int.le_of_eq hsame.synchedTo.symm) rfl) rfl fun _ hnot => hnot
  | dispatchBlock =>
      have hblock := congrArg Cursors.paraBlockSyncNumber hsame.cursors
      refine h.kept hmoves.variant hsame
        { called := Int.le_refl _
          first := fun step attempt ignore hrunning =>
            Or.inl (hretried step attempt ignore hrunning)
          ready := fun hlossy _ => ?_ } rfl fun _ hnot => hnot
      have hready := h.loop.ready hlossy hbusy
      have hcalled := h.loop.called
      have hsynched := hsame.synchedTo
      simp only [SyncState.cursors] at hblock
      simp only [Separated.calls]
      omega

/-- A step has failed; pRuntime has gone on if its reply is lost. -/
theorem failsWith (h : SeparatedOk lossy before) {error : String}
    (hruntime : runtime = before.runtime ∨
      endpoint.Takes before.runtime runtime ∧ runtime.Backed ∧
        (endpoint = .dispatchBlock → lossy = true))
    (taken : before.failsWith endpoint error runtime = some after) :
    SeparatedOk lossy after := by
  obtain ⟨sync, hsync, rfl⟩ := Option.map_eq_some_iff.mp taken
  obtain ⟨hsame, hmoves, hstopped, hbusy⟩ := fails_moves hsync
  have hblock := congrArg Cursors.paraBlockSyncNumber hsame.cursors
  have hbacked : runtime.Backed := by
    rcases hruntime with rfl | ⟨-, hbacked, -⟩
    · exact h.backed
    · exact hbacked
  cases endpoint with
  | syncCombinedHeaders =>
      have hloop : Separated.BlockLoopOk lossy { before with sync } :=
        h.other_loop (hmoves.others .paraBlock (by decide)) hblock
        (Int.le_of_eq hsame.synchedTo.symm) rfl
      have hnumbers : before.runtime.paraHeadernum ≤ runtime.paraHeadernum ∧
          runtime.blocknum = before.runtime.blocknum := by
        rcases hruntime with rfl | ⟨htakes, -, -⟩
        · exact ⟨Nat.le_refl _, rfl⟩
        · exact ⟨htakes.2.1, htakes.2.2⟩
      refine h.moved hmoves.variant hsame
        ⟨hloop.called, hloop.first, hloop.ready⟩ hbacked
        (fun hnot => ?_) (fun hnot => ?_) hnumbers.1
        (Nat.le_of_eq hnumbers.2.symm) fun _ => hnumbers.2
      · simp at hnot
      · exact ⟨by simpa using hnot, hnumbers.2⟩
  | dispatchBlock =>
      have hnumbers : runtime.headernum = before.runtime.headernum ∧
          runtime.paraHeadernum = before.runtime.paraHeadernum ∧
          before.runtime.blocknum ≤ runtime.blocknum ∧
          (lossy = false → runtime.blocknum = before.runtime.blocknum) := by
        rcases hruntime with rfl | ⟨htakes, -, hlossy⟩
        · exact ⟨rfl, rfl, Nat.le_refl _, fun _ => rfl⟩
        · refine ⟨htakes.1, htakes.2.1, htakes.2.2, fun hnot => ?_⟩
          rw [hlossy rfl] at hnot
          contradiction
      refine h.moved hmoves.variant hsame
        { called := ?_
          first := fun step attempt ignore hrunning =>
            absurd hrunning (hstopped step attempt ignore)
          ready := fun hnot _ => ?_ } hbacked
        (fun hnot => ⟨by simpa using hnot, hnumbers.1⟩) (fun hnot => ?_)
        (Nat.le_of_eq hnumbers.2.1.symm) hnumbers.2.2.1 hnumbers.2.2.2
      · exact Int.le_trans h.loop.called (Int.le_of_eq hsame.synchedTo.symm)
      · have hready := h.loop.ready hnot hbusy
        simp only [SyncState.cursors] at hblock
        simp only [hblock]
        exact hready
      · simp at hnot

theorem replies (h : SeparatedOk lossy before) (hbacked : runtime.Backed)
    (taken : before.replies endpoint runtime = some after) :
    SeparatedOk lossy after := by
  simp only [Separated.replies] at taken
  split at taken
  · next hflight =>
      obtain ⟨-, htakes⟩ := hflight
      obtain ⟨sync, hsync, rfl⟩ := Option.map_eq_some_iff.mp taken
      have hbehind := h.behind
      have hsynchedBefore := h.synched
      have hloop := h.loop
      cases endpoint with
      | syncCombinedHeaders =>
          obtain ⟨hcursors, hsynched, hmoves⟩ := headersSynched_moves hsync
          obtain ⟨hheader, -, hblock⟩ := Cursors.mk.inj hcursors
          obtain ⟨-, hpara, hblocknum⟩ := htakes
          have hother : Separated.BlockLoopOk lossy { before with sync } :=
            h.other_loop (hmoves.others .paraBlock (by decide)) hblock
            (by simp only [hsynched]; omega) rfl
          exact
            { variant := hmoves.variant.trans h.variant
              backed := hbacked
              header := fun _ => by simp only [hheader]; omega
              block := fun hnot => by
                have := h.block (by simpa using hnot)
                simp only [hblock]
                omega
              behind := by simp only [hblock]; omega
              synched := by simp only [hsynched]; omega
              current := fun hlossy => by
                have := h.current hlossy
                simp only [hblock]
                omega
              loop := ⟨hother.called, hother.first, hother.ready⟩ }
      | dispatchBlock =>
          obtain ⟨hcursors, hsynched, hmoves, hnext⟩ :=
            dispatched_moves h.variant hsync
          obtain ⟨hheader, -, hblock⟩ := Cursors.mk.inj hcursors
          obtain ⟨hheadernum, hpara, hblocknum⟩ := htakes
          exact
            { variant := hmoves.variant.trans h.variant
              backed := hbacked
              header := fun hnot => by
                have := h.header (by simpa using hnot)
                simp only [hheader]
                omega
              block := fun _ => by simp only [hblock]; omega
              behind := by simp only [hblock]; omega
              synched := by simp only [hsynched]; omega
              current := fun _ => by simp only [hblock]; omega
              loop :=
                { called := Int.le_trans hloop.called
                    (Int.le_of_eq hsynched.symm)
                  first := fun _ _ _ hrunning => by
                    rw [hnext] at hrunning
                    cases hrunning
                  ready := fun _ hbusy => by
                    rw [hnext] at hbusy
                    exact absurd trivial hbusy } }
  · cases taken

/-- `updateInfo` sets the loop's own cursor. -/
theorem recovers (h : SeparatedOk lossy before) {sync : SyncState}
    (taken : before.sync.recovers endpoint.loop before.runtime = some sync) :
    SeparatedOk lossy { before.calls endpoint sync with
      failed := Function.update before.failed endpoint false } := by
  obtain ⟨hcursors, hsynched, hmoves, hretried, hbusy⟩ :=
    recovers_moves h.variant taken
  have hbehind := h.behind
  have hsynchedBefore := h.synched
  have hcalled := h.loop.called
  cases endpoint with
  | syncCombinedHeaders =>
      obtain ⟨hheader, -, hblock⟩ := Cursors.mk.inj hcursors
      have hother : Separated.BlockLoopOk lossy { before with sync } :=
        h.other_loop (hmoves.others .paraBlock (by decide)) hblock
        (Int.le_of_eq hsynched.symm) rfl
      exact
        { variant := hmoves.variant.trans h.variant
          backed := h.backed
          header := fun _ => hheader
          block := fun hnot => hblock.trans (h.block (by simpa using hnot))
          behind := by
            simp only [Separated.calls, hblock]
            exact hbehind
          synched := by
            simp only [Separated.calls, hsynched]
            exact hsynchedBefore
          current := fun hlossy => hblock.trans (h.current hlossy)
          loop := ⟨hother.called, hother.first, hother.ready⟩ }
  | dispatchBlock =>
      obtain ⟨hheader, -, hblock⟩ := Cursors.mk.inj hcursors
      exact
        { variant := hmoves.variant.trans h.variant
          backed := h.backed
          header := fun hnot => hheader.trans (h.header (by simpa using hnot))
          block := fun _ => hblock
          behind := by
            simp only [Separated.calls, hblock]
            exact ⟨Int.natCast_nonneg _, Int.le_refl _⟩
          synched := by
            simp only [Separated.calls, hsynched]
            exact hsynchedBefore
          current := fun _ => hblock
          loop :=
            { called := Int.le_refl _
              first := fun step attempt ignore hrunning =>
                Or.inl (hretried step attempt ignore hrunning)
              ready := fun hlossy _ => by
                have hready := h.loop.ready hlossy hbusy
                have hcurrent := h.current hlossy
                have hnumber : sync.paraBlockSyncNumber =
                    before.runtime.blocknum := hblock
                simp only [Separated.calls, hnumber, hsynched]
                omega } }

theorem blobMissing (h : SeparatedOk lossy before)
    (taken : before.blobMissing endpoint = some after) :
    SeparatedOk lossy after := by
  simp only [Separated.blobMissing] at taken
  split at taken
  · cases taken
  · cases endpoint with
    | syncCombinedHeaders =>
        obtain ⟨sync, hsync, rfl⟩ := Option.map_eq_some_iff.mp taken
        obtain ⟨hsame, hmoves⟩ := headerBlobMissing_moves hsync
        exact h.kept hmoves.variant hsame
          (h.other_loop (hmoves.others .paraBlock (by decide))
            (congrArg Cursors.paraBlockSyncNumber hsame.cursors)
            (Int.le_of_eq hsame.synchedTo.symm) rfl) rfl fun _ hnot => hnot
    | dispatchBlock =>
        obtain ⟨sync, hsync, rfl⟩ := Option.map_eq_some_iff.mp taken
        obtain ⟨hsame, hmoves, hnext⟩ := blockBlobMissing_moves hsync
        exact h.kept hmoves.variant hsame
          { called := Int.le_trans h.loop.called
              (Int.le_of_eq hsame.synchedTo.symm)
            first := fun _ _ _ hrunning => by
              rw [hnext] at hrunning
              cases hrunning
            ready := fun _ hbusy => by
              rw [hnext] at hbusy
              exact absurd trivial hbusy } rfl fun _ hnot => hnot

theorem requestFails (h : SeparatedOk lossy before) {error : String}
    {failure : Failure}
    (hforward : goesForward lossy before (.requestFails endpoint error failure))
    (taken : before.requestFails endpoint error failure = some after) :
    SeparatedOk lossy after := by
  simp only [Separated.requestFails] at taken
  split at taken
  · cases failure with
    | noEffect => exact h.failsWith (Or.inl rfl) taken
    | replyLost runtime =>
        simp only at taken
        split at taken
        · next htakes => exact h.failsWith (Or.inr ⟨htakes, hforward⟩) taken
        · cases taken
    | restarted runtime => exact hforward.elim
  · cases taken

theorem same (h : SeparatedOk lossy before) (hsync : after.sync = before.sync)
    (hruntime : after.runtime = before.runtime)
    (hfailed : after.failed = before.failed)
    (hcalled : after.headerSynchedTo = before.headerSynchedTo) :
    SeparatedOk lossy after := by
  refine h.kept (by rw [hsync]) ⟨by rw [hsync], by rw [hsync]⟩
    (h.other_loop (by rw [hsync]) (by rw [hsync])
      (Int.le_of_eq (by rw [hsync])) hcalled)
    hruntime fun endpoint hnot => by rwa [← hfailed]

theorem step (h : SeparatedOk lossy before)
    (hforward : goesForward lossy before event)
    (taken : before.step event = some after) : SeparatedOk lossy after := by
  cases event with
  | polls endpoint =>
      obtain ⟨sync, hsync, rfl⟩ := Option.map_eq_some_iff.mp taken
      exact h.polls hsync
  | fetches status =>
      obtain ⟨sync, hsync, rfl⟩ := Option.map_eq_some_iff.mp taken
      obtain ⟨old, -, hnext⟩ := Option.bind_eq_some_iff.mp hsync
      split at hnext
      · cases Option.some.inj hnext
        exact h.kept rfl ⟨rfl, rfl⟩
          (h.other_loop rfl rfl (Int.le_refl _) rfl) rfl fun _ hnot => hnot
      · cases hnext
  | stops =>
      cases Option.some.inj taken
      exact h.kept rfl ⟨rfl, rfl⟩
        (h.other_loop rfl rfl (Int.le_refl _) rfl) rfl fun _ hnot => hnot
  | blobMissing endpoint => exact h.blobMissing taken
  | blobFails endpoint error =>
      simp only [Separated.step] at taken
      split at taken
      · cases taken
      · exact h.failsWith (Or.inl rfl) taken
  | sendHeaders =>
      simp only [Separated.step, Separated.sendHeaders] at taken
      split at taken
      · cases Option.some.inj taken
        exact h.same rfl rfl rfl rfl
      · cases taken
  | sendBlocks rangeIndex =>
      simp only [Separated.step, Separated.sendBlocks] at taken
      split at taken
      · split at taken
        · cases Option.some.inj taken
          exact h.same rfl rfl rfl rfl
        · cases taken
      · cases taken
  | replies endpoint runtime => exact h.replies hforward taken
  | requestFails endpoint error failure => exact h.requestFails hforward taken
  | recovers endpoint =>
      obtain ⟨sync, hsync, rfl⟩ := Option.map_eq_some_iff.mp taken
      exact h.recovers hsync
  | recoveryFails endpoint =>
      obtain ⟨sync, hsync, rfl⟩ := Option.map_eq_some_iff.mp taken
      exact h.recoveryFails hsync

theorem start (lossy : Bool) (fetchStatus : Option FetchStatus)
    (hbacked : info.Backed) : SeparatedOk lossy (.startSync fetchStatus info) where
  variant := rfl
  backed := hbacked
  header := fun _ => rfl
  block := fun _ => rfl
  behind := ⟨Int.natCast_nonneg _, Int.le_refl _⟩
  synched := by
    change (-1 : Int) < info.paraHeadernum
    omega
  current := fun _ => rfl
  loop :=
    { called := Int.le_refl _
      first := fun _ _ _ hrunning => by cases hrunning
      ready := fun _ hbusy => absurd trivial hbusy }

theorem reaches {state : Separated} (hbacked : info.Backed)
    (h : (separatedMachine fetchStatus info).Reaches (goesForward lossy) state) :
    SeparatedOk lossy state :=
  Machine.Preserves.reaches
    (fun _ _ _ hforward hbefore taken => step hbefore hforward taken)
    (start lossy fetchStatus hbacked) h

end SeparatedOk

/-- A retry asks for the block after the last header: the blocks before it have
been run, though no reply has said so. -/
structure Separated.AsksForNext (state : Separated) (request : DispatchRequest) :
    Prop where
  retry : ∃ attempt ignore, 0 < attempt ∧
    (state.sync.loops .paraBlock).loop = .running .paraBlock attempt ignore
  single : request.firstBlockNumber = request.lastBlockNumber
  next : request.lastBlockNumber = state.runtime.paraHeadernum
  done : state.runtime.blocknum = state.runtime.paraHeadernum

theorem sendBlocks_request {rangeIndex : ParaRangeIndex}
    (h : SeparatedOk lossy before)
    (taken : before.sendBlocks rangeIndex = some after) :
    after.dispatches =
        before.dispatchRequest rangeIndex :: before.dispatches ∧
      ((before.dispatchRequest rangeIndex).Within ∨
        lossy = true ∧
          before.AsksForNext (before.dispatchRequest rangeIndex)) := by
  simp only [Separated.sendBlocks] at taken
  split at taken
  · next attempt ignore hflight hrunning =>
      split at taken
      · next hindexes =>
          cases Option.some.inj taken
          refine ⟨rfl, ?_⟩
          have hbehind := h.behind
          have hbacked := h.backed
          have hsynched := h.synched
          have hcalled := h.loop.called
          by_cases hfits : rangeIndex.bufferKey.isSome = true ∧
              (rangeIndex.lastBlockNumber : Int) ≤ before.headerSynchedTo
          · left
            have hlast : (before.dispatchRequest rangeIndex).lastBlockNumber =
                rangeIndex.lastBlockNumber := by
              obtain ⟨key, hkey⟩ := Option.isSome_iff_exists.mp hfits.1
              simp [Separated.dispatchRequest, paraBlobKey, hkey, hfits.2,
                lastBlockOf]
            rw [DispatchRequest.Within, hlast]
            simp only [Separated.dispatchRequest]
            omega
          · have hlast : (before.dispatchRequest rangeIndex).lastBlockNumber =
                before.sync.paraBlockSyncNumber.toNat := by
              simp only [Separated.dispatchRequest, paraBlobKey]
              rcases hindexes with ⟨hkey, -⟩ | ⟨hkey, -⟩
              · simp [hkey, lastBlockOf]
              · rw [hkey] at hfits
                simp only [Option.isSome_some, true_and] at hfits
                simp [hkey, hfits, lastBlockOf]
            by_cases hahead : before.sync.paraBlockSyncNumber <
                before.runtime.paraHeadernum
            · left
              rw [DispatchRequest.Within, hlast]
              simp only [Separated.dispatchRequest]
              omega
            · right
              rw [Info.Backed] at hbacked
              have hretry : 0 < attempt := by
                rcases h.loop.first _ _ _ hrunning with hretry | hfirst
                · exact hretry
                · omega
              constructor
              · cases hlossy : lossy with
                | true => rfl
                | false =>
                    have := h.loop.ready hlossy (Loop.busy_of_running hrunning)
                    omega
              · exact
                  { retry := ⟨attempt, ignore, hretry, hrunning⟩
                    single := hlast.symm
                    next := by omega
                    done := by omega }
      · cases taken
  · cases taken

/-- Each loop knows what pRuntime expects of it, unless its last step has
failed. -/
structure Separated.Follows (state : Separated) : Prop where
  header : state.failed .syncCombinedHeaders = false →
    state.sync.headerSyncNumber = state.runtime.headernum
  block : state.failed .dispatchBlock = false →
    state.sync.paraBlockSyncNumber = state.runtime.blocknum
  synched : state.sync.syncStatus.paraHeaderSynchedTo <
    state.runtime.paraHeadernum

theorem failsWith_dispatches {error : String}
    (taken : before.failsWith endpoint error runtime = some after) :
    after.dispatches = before.dispatches := by
  obtain ⟨sync, -, rfl⟩ := Option.map_eq_some_iff.mp taken
  rfl

theorem calls_dispatches (state : Separated) (endpoint : Endpoint)
    (sync : SyncState) :
    (state.calls endpoint sync).dispatches = state.dispatches := by
  cases endpoint <;> rfl

theorem requestFails_dispatches {error : String} {failure : Failure}
    (taken : before.requestFails endpoint error failure = some after) :
    after.dispatches = before.dispatches := by
  simp only [Separated.requestFails] at taken
  split at taken
  · cases failure with
    | noEffect => exact failsWith_dispatches taken
    | replyLost runtime =>
        simp only at taken
        split at taken
        · exact failsWith_dispatches taken
        · cases taken
    | restarted runtime =>
        simp only at taken
        split at taken
        · exact failsWith_dispatches taken
        · cases taken
  · cases taken

theorem step_dispatches (taken : before.step event = some after)
    (hother : ∀ rangeIndex, event ≠ .sendBlocks rangeIndex) :
    after.dispatches = before.dispatches := by
  cases event with
  | sendBlocks rangeIndex => exact absurd rfl (hother rangeIndex)
  | polls endpoint =>
      obtain ⟨sync, -, rfl⟩ := Option.map_eq_some_iff.mp taken
      exact calls_dispatches before endpoint sync
  | recoveryFails endpoint =>
      obtain ⟨sync, -, rfl⟩ := Option.map_eq_some_iff.mp taken
      exact calls_dispatches before endpoint sync
  | recovers endpoint =>
      obtain ⟨sync, -, rfl⟩ := Option.map_eq_some_iff.mp taken
      exact calls_dispatches before endpoint sync
  | fetches status =>
      obtain ⟨sync, -, rfl⟩ := Option.map_eq_some_iff.mp taken
      rfl
  | stops =>
      cases Option.some.inj taken
      rfl
  | blobMissing endpoint =>
      simp only [Separated.step, Separated.blobMissing] at taken
      split at taken
      · cases taken
      · cases endpoint with
        | syncCombinedHeaders =>
            obtain ⟨sync, -, rfl⟩ := Option.map_eq_some_iff.mp taken
            rfl
        | dispatchBlock =>
            obtain ⟨sync, -, rfl⟩ := Option.map_eq_some_iff.mp taken
            rfl
  | blobFails endpoint error =>
      simp only [Separated.step] at taken
      split at taken
      · cases taken
      · exact failsWith_dispatches taken
  | sendHeaders =>
      simp only [Separated.step, Separated.sendHeaders] at taken
      split at taken
      · cases Option.some.inj taken
        rfl
      · cases taken
  | replies endpoint runtime =>
      simp only [Separated.step, Separated.replies] at taken
      split at taken
      · obtain ⟨sync, -, rfl⟩ := Option.map_eq_some_iff.mp taken
        rfl
      · cases taken
  | requestFails endpoint error failure => exact requestFails_dispatches taken

theorem within_step (hok : SeparatedOk false before)
    (h : ∀ request ∈ before.dispatches, request.Within)
    (taken : before.step event = some after) :
    ∀ request ∈ after.dispatches, request.Within := by
  by_cases hsends : ∃ rangeIndex, event = .sendBlocks rangeIndex
  · obtain ⟨rangeIndex, rfl⟩ := hsends
    obtain ⟨hdispatches, hwithin | ⟨hlossy, -⟩⟩ := sendBlocks_request hok taken
    · rw [hdispatches, List.forall_mem_cons]
      exact ⟨hwithin, h⟩
    · contradiction
  · rwa [step_dispatches taken fun rangeIndex heq => hsends ⟨rangeIndex, heq⟩]

/-- Two loops share pRuntime.  While it does not roll back, every loop's cursor
is pRuntime's unless its last step has failed, and a dispatch sends blocks with
headers there, but for the retry of one whose reply was lost after pRuntime had
run its last block. -/
theorem separated_follows (hbacked : info.Backed) :
    (∀ state, (separatedMachine fetchStatus info).Reaches (goesForward true)
        state → state.Follows) ∧
    (∀ before rangeIndex after,
      (separatedMachine fetchStatus info).Reaches (goesForward true) before →
      before.step (.sendBlocks rangeIndex) = some after →
      ∃ request, after.dispatches = request :: before.dispatches ∧
        (before.failed .dispatchBlock = false →
          request.firstBlockNumber = before.runtime.blocknum) ∧
        (request.Within ∨ before.AsksForNext request)) ∧
    ∀ state, (separatedMachine fetchStatus info).Reaches (goesForward false)
        state → ∀ request ∈ state.dispatches, request.Within := by
  refine ⟨fun state hreaches => ?_,
    fun before rangeIndex after hreaches taken => ?_, fun state hreaches => ?_⟩
  · have h := SeparatedOk.reaches hbacked hreaches
    exact ⟨h.header, h.block, h.synched⟩
  · have h := SeparatedOk.reaches hbacked hreaches
    obtain ⟨hdispatches, hwithin⟩ := sendBlocks_request h taken
    refine ⟨_, hdispatches, fun hnot => ?_, hwithin.imp_right (·.2)⟩
    have hblock := h.block hnot
    simp only [Separated.dispatchRequest]
    omega
  · have hboth := @Machine.Preserves.reaches _ _
      (separatedMachine fetchStatus info) (goesForward false)
      (fun state => SeparatedOk false state ∧
        ∀ request ∈ state.dispatches, request.Within) state ?_ ?_ hreaches
    · exact hboth.2
    · intro before event after hforward ⟨hok, hall⟩ taken
      exact ⟨hok.step hforward taken, within_step hok hall taken⟩
    · exact ⟨SeparatedOk.start false fetchStatus hbacked,
        fun _ hnone => by cases hnone⟩

/-- A dispatch takes effect and its reply is lost: the retry asks for a block
that pRuntime has no header for. -/
def lostDispatch : List SeparatedEvent :=
  [.polls .syncCombinedHeaders, .sendHeaders,
    .replies .syncCombinedHeaders
      { headernum := 7, paraHeadernum := 3, blocknum := 1 },
    .polls .dispatchBlock, .sendBlocks (batchTo 2),
    .polls .syncCombinedHeaders, .sendHeaders,
    .requestFails .dispatchBlock "timeout" (.replyLost
      { headernum := 7, paraHeadernum := 3, blocknum := 3 }),
    .recovers .dispatchBlock,
    .sendBlocks
      { bufferKey := none, firstBlockNumber := 3, lastBlockNumber := 3 }]

theorem separated_follows_lost :
    let state := (separatedMachine (some fetched) level).endedIf
      (fun state event => decide (goesForward true state event)) lostDispatch
    state.dispatches =
        [{ firstBlockNumber := 3, lastBlockNumber := 3, paraHeadernum := 3 },
          { firstBlockNumber := 1, lastBlockNumber := 2, paraHeadernum := 3 }] ∧
      state.Follows :=
  ⟨by decide, (separated_follows (by decide)).1 _
    (Machine.reaches_endedIf (fun _ _ => of_decide_eq_true) (by decide))⟩

end RuntimeBridge.Lifecycle
