import RuntimeBridge.Lifecycle.SingleSync

/-! `getParaBlockBlob` is given `syncStatus.paraHeaderSynchedTo`, which
`startSync` sets to a next number and every header reply to a last one. -/

namespace RuntimeBridge.Lifecycle

open Library
open DataProvider (ParaRangeIndex ParaKey paraBlobKey)

def noRollback (_ : Driven) (event : DrivenEvent) : Prop :=
  ¬ event.restarts

/-- Before the first header reply, while pRuntime has no header beyond those it
started with, the entry sent from is a batch that ends at the next header. -/
def EndsAtStart (info : Info) (state : Driven) (rangeIndex : ParaRangeIndex) :
    Prop :=
  state.headerReplied = false ∧
    state.runtime.paraHeadernum = info.paraHeadernum ∧
    rangeIndex.bufferKey.isSome ∧
    rangeIndex.lastBlockNumber = info.paraHeadernum

def sendsWithin (info : Info) (state : Driven) (event : DrivenEvent) : Prop :=
  ¬ event.restarts ∧ ∀ rangeIndex, event = .sendBlocks rangeIndex →
    ¬ EndsAtStart info state rangeIndex

def DispatchRequest.Within (request : DispatchRequest) : Prop :=
  request.lastBlockNumber < request.paraHeadernum

structure HeadersOk (info : Info) (state : Driven) : Prop where
  ready : state.sync.Ready
  next : state.sync.paraHeaderSyncNumber ≤ state.runtime.paraHeadernum
  block : 0 ≤ state.sync.paraBlockSyncNumber
  replied : state.headerReplied = true →
    state.sync.syncStatus.paraHeaderSynchedTo < state.runtime.paraHeadernum
  started : state.headerReplied = false →
    state.sync.syncStatus.paraHeaderSynchedTo = info.paraHeadernum ∧
      info.paraHeadernum ≤ state.runtime.paraHeadernum

variable {fetchStatus : Option FetchStatus} {info : Info}
  {state before after : Driven} {event : DrivenEvent}
  {rangeIndex : ParaRangeIndex}

theorem HeadersOk.forward (h : HeadersOk info before)
    (hready : after.sync.Ready)
    (hnext : after.sync.paraHeaderSyncNumber =
      before.sync.paraHeaderSyncNumber)
    (hblock : 0 ≤ after.sync.paraBlockSyncNumber)
    (hsynched : after.sync.syncStatus.paraHeaderSynchedTo =
      before.sync.syncStatus.paraHeaderSynchedTo)
    (hreplied : after.headerReplied = before.headerReplied)
    (hruntime : before.runtime.paraHeadernum ≤ after.runtime.paraHeadernum) :
    HeadersOk info after where
  ready := hready
  next := by
    have := h.next
    omega
  block := hblock
  replied hafter := by
    have := h.replied (hreplied ▸ hafter)
    omega
  started hafter := by
    obtain ⟨hstart, hle⟩ := h.started (hreplied ▸ hafter)
    exact ⟨hsynched.trans hstart, Nat.le_trans hle hruntime⟩

theorem HeadersOk.keeps (h : HeadersOk info before) (hready : after.sync.Ready)
    (hkeeps : before.Keeps after) : HeadersOk info after := by
  obtain ⟨-, hnext, hblock⟩ := Cursors.mk.inj hkeeps.numbers.cursors
  exact h.forward hready hnext (hblock ▸ h.block) hkeeps.numbers.synchedTo
    hkeeps.headerReplied
    (Nat.le_of_eq (congrArg Info.paraHeadernum hkeeps.runtime.symm))

theorem HeadersOk.failed (h : HeadersOk info before)
    (hready : after.sync.Ready) (hfailed : before.Failed after)
    (hruntime : before.runtime.paraHeadernum ≤ after.runtime.paraHeadernum) :
    HeadersOk info after := by
  obtain ⟨-, hnext, hblock⟩ := Cursors.mk.inj hfailed.numbers.cursors
  exact h.forward hready hnext (hblock ▸ h.block) hfailed.numbers.synchedTo
    hfailed.headerReplied hruntime

theorem HeadersOk.headersTaken {runtime : Info} (h : HeadersOk info before)
    (hready : after.sync.Ready) (hruntime : after.runtime = runtime)
    (htaken : before.HeadersTaken after runtime) : HeadersOk info after := by
  obtain ⟨-, hnext, hblock⟩ := Cursors.mk.inj htaken.cursors
  exact
    { ready := hready
      next := Int.le_of_eq (by rw [hnext, hruntime])
      block := hblock ▸ h.block
      replied := fun _ => by
        rw [htaken.synchedTo, hruntime]
        omega
      started := fun hafter => by
        rw [htaken.headerReplied] at hafter
        contradiction }

theorem HeadersOk.blocksTaken {runtime : Info} (h : HeadersOk info before)
    (hready : after.sync.Ready) (hruntime : after.runtime = runtime)
    (htaken : before.BlocksTaken after runtime) : HeadersOk info after := by
  obtain ⟨-, hnext, hblock⟩ := Cursors.mk.inj htaken.cursors
  refine h.forward hready hnext ?_ htaken.synchedTo htaken.headerReplied ?_
  · rw [hblock]
    exact Int.natCast_nonneg _
  · exact Nat.le_of_eq (by rw [hruntime, htaken.takes.2.1])

theorem HeadersOk.recovered (h : HeadersOk info before)
    (hready : after.sync.Ready) (hrecovered : before.Recovered after) :
    HeadersOk info after := by
  obtain ⟨-, hnext, hblock⟩ := Cursors.mk.inj hrecovered.cursors
  refine h.forward hready hnext ?_ hrecovered.synchedTo
    hrecovered.headerReplied ?_
  · rw [hblock]
    exact Int.natCast_nonneg _
  · exact Nat.le_of_eq (by rw [hrecovered.runtime])

theorem headersOk_step (h : HeadersOk info before)
    (hforward : noRollback before event)
    (taken : before.step event = some after) : HeadersOk info after := by
  obtain ⟨hready, heffect⟩ := step_effect h.ready taken
  cases event with
  | sendBlocks rangeIndex => exact h.keeps hready heffect.1
  | replies runtime =>
      obtain ⟨-, hruntime, -, hheaders | hblocks⟩ := heffect
      · exact h.headersTaken hready hruntime hheaders
      · exact h.blocksTaken hready hruntime hblocks
  | requestFails error failure =>
      obtain ⟨-, hfailed, hruntime | hrestarts⟩ := heffect
      · exact h.failed hready hfailed hruntime
      · exact absurd hrestarts hforward
  | blobFails error =>
      exact h.failed hready heffect.2.1
        (Nat.le_of_eq (congrArg Info.paraHeadernum heffect.2.2.symm))
  | recovers => exact h.recovered hready heffect.2
  | polls => exact h.keeps hready heffect.2
  | fetches status => exact h.keeps hready heffect.2
  | stops => exact h.keeps hready heffect.2
  | blobMissing => exact h.keeps hready heffect.2
  | sendHeaders => exact h.keeps hready heffect.2
  | recoveryFails => exact h.keeps hready heffect.2

theorem headersOk_start (fetchStatus : Option FetchStatus) (info : Info) :
    HeadersOk info (.startSync fetchStatus info) where
  ready := ready_startSync fetchStatus info
  next := Int.le_refl _
  block := Int.natCast_nonneg _
  replied := fun hreplied => nomatch hreplied
  started := fun _ => ⟨rfl, Nat.le_refl _⟩

theorem headersOk_reaches
    (h : (drivenMachine fetchStatus info).Reaches noRollback state) :
    HeadersOk info state :=
  Machine.Preserves.reaches
    (fun _ _ _ hforward hbefore taken => headersOk_step hbefore hforward taken)
    (headersOk_start fetchStatus info) h

/-- A request goes beyond pRuntime's headers in the one case that the start
value of `paraHeaderSynchedTo` lets through. -/
theorem dispatchRequest_within_iff (h : HeadersOk info state)
    (hahead : state.sync.paraBlockSyncNumber < state.sync.paraHeaderSyncNumber)
    (hindexes : IndexesBlock rangeIndex state.sync.paraBlockSyncNumber.toNat) :
    (state.dispatchRequest rangeIndex).Within ↔
      ¬ EndsAtStart info state rangeIndex := by
  have hnext := h.next
  have hblock := h.block
  have hdry : state.sync.paraBlockSyncNumber.toNat <
      state.runtime.paraHeadernum := by
    omega
  rcases hindexes with ⟨hkey, -⟩ | ⟨hkey, -⟩
  · simp [DispatchRequest.Within, Driven.dispatchRequest, paraBlobKey, hkey,
      lastBlockOf, EndsAtStart, hdry]
  · by_cases hfits : (rangeIndex.lastBlockNumber : Int) ≤
        state.sync.syncStatus.paraHeaderSynchedTo
    · have hwithin : (state.dispatchRequest rangeIndex).Within ↔
          rangeIndex.lastBlockNumber < state.runtime.paraHeadernum := by
        simp [DispatchRequest.Within, Driven.dispatchRequest, paraBlobKey,
          hkey, hfits, lastBlockOf]
      rw [hwithin]
      cases hreplied : state.headerReplied with
      | true =>
          have := h.replied hreplied
          simp only [EndsAtStart, hreplied]
          simp
          omega
      | false =>
          obtain ⟨hstart, hle⟩ := h.started hreplied
          simp only [EndsAtStart, hreplied, hkey, Option.isSome_some]
          simp
          omega
    · have hwithin : (state.dispatchRequest rangeIndex).Within := by
        simpa [DispatchRequest.Within, Driven.dispatchRequest, paraBlobKey,
          hkey, hfits, lastBlockOf] using hdry
      refine iff_of_true hwithin ?_
      rintro ⟨hreplied, -, -, hlast⟩
      rw [(h.started hreplied).1, hlast] at hfits
      exact hfits (Int.le_refl _)

theorem dispatches_step (h : HeadersOk info before)
    (hguard : sendsWithin info before event)
    (hall : ∀ request ∈ before.dispatches, request.Within)
    (taken : before.step event = some after) :
    ∀ request ∈ after.dispatches, request.Within := by
  obtain ⟨-, heffect⟩ := step_effect h.ready taken
  cases event with
  | sendBlocks rangeIndex =>
      obtain ⟨-, hdispatches, hahead, hindexes⟩ := heffect
      intro request hmember
      rw [hdispatches] at hmember
      rcases List.mem_cons.mp hmember with rfl | hold
      · exact (dispatchRequest_within_iff h hahead hindexes).mpr
          (hguard.2 rangeIndex rfl)
      · exact hall request hold
  | replies runtime => rwa [heffect.1]
  | requestFails error failure => rwa [heffect.1]
  | blobFails error => rwa [heffect.1]
  | recovers => rwa [heffect.1]
  | polls => rwa [heffect.1]
  | fetches status => rwa [heffect.1]
  | stops => rwa [heffect.1]
  | blobMissing => rwa [heffect.1]
  | sendHeaders => rwa [heffect.1]
  | recoveryFails => rwa [heffect.1]

/-- While pRuntime does not roll back, every dispatched block has its header
there, but for one: that of a batch ending at the header that was next when the
loop started. -/
theorem dispatches_within_iff (fetchStatus : Option FetchStatus) (info : Info) :
    (∀ state, (drivenMachine fetchStatus info).Reaches (sendsWithin info)
        state →
      ∀ request ∈ state.dispatches, request.Within) ∧
    ∀ before rangeIndex after,
      (drivenMachine fetchStatus info).Reaches noRollback before →
      before.step (.sendBlocks rangeIndex) = some after →
      ∃ request, after.dispatches = request :: before.dispatches ∧
        (request.Within ↔ ¬ EndsAtStart info before rangeIndex) := by
  constructor
  · intro state hreaches
    have hboth := @Machine.Preserves.reaches _ _
      (drivenMachine fetchStatus info) (sendsWithin info)
      (fun state => HeadersOk info state ∧
        ∀ request ∈ state.dispatches, request.Within) state ?_ ?_ hreaches
    · exact hboth.2
    · intro before event after hguard ⟨hok, hall⟩ taken
      exact ⟨headersOk_step hok hguard.1 taken,
        dispatches_step hok hguard hall taken⟩
    · exact ⟨headersOk_start fetchStatus info, fun _ hnone => nomatch hnone⟩
  · intro before rangeIndex after hreaches taken
    have hok := headersOk_reaches hreaches
    obtain ⟨-, -, hdispatches, hahead, hindexes⟩ := step_effect hok.ready taken
    exact ⟨_, hdispatches, dispatchRequest_within_iff hok hahead hindexes⟩

def behind : Info := { headernum := 5, paraHeadernum := 3, blocknum := 1 }

/-- Blocks 1 to `last` as one batch. -/
def batchTo (last : Nat) : ParaRangeIndex :=
  { bufferKey := some 1, firstBlockNumber := 1, lastBlockNumber := last }

theorem dispatches_within_batch :
    let state := (drivenMachine (some fetched) behind).ended
      [.polls, .sendBlocks (batchTo 2)]
    state.dispatches =
        [{ firstBlockNumber := 1, lastBlockNumber := 2, paraHeadernum := 3 }] ∧
      ∀ request ∈ state.dispatches, request.Within := by
  refine ⟨rfl, (dispatches_within_iff (some fetched) behind).1 _ ?_⟩
  refine Machine.reaches_ended ?_ rfl
  intro state event hmember
  simp only [List.mem_cons, List.not_mem_nil, or_false] at hmember
  rcases hmember with rfl | rfl
  · exact ⟨id, fun _ h => nomatch h⟩
  · refine ⟨id, ?_⟩
    rintro _ ⟨⟩ ⟨-, -, -, hlast⟩
    cases hlast

/-- Block 3 is sent while pRuntime still expects its header. -/
theorem dispatches_beyond_start :
    (drivenMachine (some fetched) behind).Reaches noRollback
        ((drivenMachine (some fetched) behind).ended
          [.polls, .sendBlocks (batchTo 3)]) ∧
      ((drivenMachine (some fetched) behind).ended
          [.polls, .sendBlocks (batchTo 3)]).dispatches =
        [{ firstBlockNumber := 1, lastBlockNumber := 3, paraHeadernum := 3 }] ∧
      ¬ DispatchRequest.Within
        { firstBlockNumber := 1, lastBlockNumber := 3, paraHeadernum := 3 } := by
  refine ⟨Machine.reaches_ended ?_ rfl, rfl, Nat.lt_irrefl 3⟩
  intro state event hmember
  simp only [List.mem_cons, List.not_mem_nil, or_false] at hmember
  rcases hmember with rfl | rfl
  · exact id
  · exact id

end RuntimeBridge.Lifecycle
