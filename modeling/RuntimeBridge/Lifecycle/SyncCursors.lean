import RuntimeBridge.Lifecycle.SingleSync

/-! `processError` sets two of the three cursors back to what pRuntime has. -/

namespace RuntimeBridge.Lifecycle

open Library

/-- No failed step is left unrecovered, and the cursors are pRuntime's. -/
def Driven.Follows (state : Driven) : Prop :=
  state.beforeFailure = none → state.sync.cursors = state.runtime.cursors

/-- What pRuntime had when no failed step was left unrecovered. -/
def Driven.lastGood (state : Driven) : Info :=
  state.beforeFailure.getD state.runtime

/-- Failures have not changed the numbers that this step does not set:
`paraHeadernum` when `updateInfo` returns, and those of the other endpoint when
a request succeeds on a retry whose `updateInfo` failed. -/
def readsChanges (state : Driven) : DrivenEvent → Prop
  | .recovers =>
      state.runtime.paraHeadernum = state.lastGood.paraHeadernum
  | .replies _ =>
      match state.inFlight with
      | some .syncCombinedHeaders =>
          state.runtime.blocknum = state.lastGood.blocknum
      | some .dispatchBlock =>
          state.runtime.headernum = state.lastGood.headernum ∧
            state.runtime.paraHeadernum = state.lastGood.paraHeadernum
      | none => True
  | _ => True

instance (state : Driven) (event : DrivenEvent) :
    Decidable (readsChanges state event) := by
  unfold readsChanges
  split
  · infer_instance
  · split <;> infer_instance
  · infer_instance

/-- The cursors are pRuntime's, or what pRuntime had before it failed. -/
structure CursorsOk (state : Driven) : Prop where
  ready : state.sync.Ready
  cursors : state.sync.cursors = state.lastGood.cursors

variable {fetchStatus : Option FetchStatus} {info runtime : Info}
  {state before after : Driven} {event : DrivenEvent}

theorem CursorsOk.follows (h : CursorsOk state) : state.Follows :=
  fun hnone => by rw [h.cursors, Driven.lastGood, hnone, Option.getD_none]

theorem cursorsOk_of_follows (hready : state.sync.Ready)
    (hnone : state.beforeFailure = none) (h : state.Follows) :
    CursorsOk state where
  ready := hready
  cursors := by rw [h hnone, Driven.lastGood, hnone, Option.getD_none]

theorem CursorsOk.keeps (h : CursorsOk before) (hready : after.sync.Ready)
    (hkeeps : before.Keeps after) : CursorsOk after where
  ready := hready
  cursors := by
    rw [hkeeps.numbers.cursors, h.cursors, Driven.lastGood, Driven.lastGood,
      hkeeps.beforeFailure, hkeeps.runtime]

theorem CursorsOk.failed (h : CursorsOk before) (hready : after.sync.Ready)
    (hfailed : before.Failed after) : CursorsOk after where
  ready := hready
  cursors := by
    rw [hfailed.numbers.cursors, h.cursors, Driven.lastGood, Driven.lastGood,
      hfailed.beforeFailure]
    cases before.beforeFailure <;> rfl

theorem recovered_follows_iff (h : CursorsOk before)
    (hrecovered : before.Recovered after) :
    after.Follows ↔ readsChanges before .recovers := by
  obtain ⟨-, hnumber, -⟩ := Cursors.mk.inj h.cursors
  rw [Driven.Follows, hrecovered.cursors, hrecovered.runtime]
  simp only [readsChanges, hrecovered.beforeFailure, Info.cursors, Cursors.mk.injEq,
    true_and, and_true, forall_const]
  omega

theorem headersTaken_follows_iff (h : CursorsOk before)
    (hruntime : after.runtime = runtime) (hnone : after.beforeFailure = none)
    (htaken : before.HeadersTaken after runtime) :
    after.Follows ↔ readsChanges before (.replies runtime) := by
  obtain ⟨-, -, hnumber⟩ := Cursors.mk.inj h.cursors
  have hsame := htaken.takes.2.2
  rw [Driven.Follows, htaken.cursors, hruntime]
  simp only [readsChanges, htaken.inFlight, hnone, Info.cursors, Cursors.mk.injEq, true_and, forall_const]
  omega

theorem blocksTaken_follows_iff (h : CursorsOk before)
    (hruntime : after.runtime = runtime) (hnone : after.beforeFailure = none)
    (htaken : before.BlocksTaken after runtime) :
    after.Follows ↔ readsChanges before (.replies runtime) := by
  obtain ⟨hheader, hparaHeader, -⟩ := Cursors.mk.inj h.cursors
  obtain ⟨hsameHeader, hsameParaHeader, -⟩ := htaken.takes
  rw [Driven.Follows, htaken.cursors, hruntime]
  simp only [readsChanges, htaken.inFlight, hnone, Info.cursors, Cursors.mk.injEq, and_true, forall_const]
  omega

/-- After a step the cursors follow pRuntime exactly when the step sets every
number that failures have changed. -/
theorem follows_step_iff (h : CursorsOk before)
    (taken : before.step event = some after) :
    after.sync.Ready ∧ (after.Follows ↔ readsChanges before event) ∧
      (readsChanges before event → CursorsOk after) := by
  obtain ⟨hready, heffect⟩ := step_effect h.ready taken
  refine ⟨hready, ?_⟩
  have hgood : CursorsOk after → readsChanges before event →
      (after.Follows ↔ readsChanges before event) ∧
        (readsChanges before event → CursorsOk after) :=
    fun hok hguard => ⟨iff_of_true hok.follows hguard, fun _ => hok⟩
  have hset : after.beforeFailure = none →
      (after.Follows ↔ readsChanges before event) →
      (after.Follows ↔ readsChanges before event) ∧
        (readsChanges before event → CursorsOk after) :=
    fun hnone hiff => ⟨hiff, fun hguard =>
      cursorsOk_of_follows hready hnone (hiff.mpr hguard)⟩
  cases event with
  | sendBlocks rangeIndex =>
      exact hgood (h.keeps hready heffect.1) True.intro
  | replies runtime =>
      obtain ⟨-, hruntime, hnone, hheaders | hblocks⟩ := heffect
      · exact hset hnone (headersTaken_follows_iff h hruntime hnone hheaders)
      · exact hset hnone (blocksTaken_follows_iff h hruntime hnone hblocks)
  | requestFails error failure =>
      exact hgood (h.failed hready heffect.2.1) True.intro
  | blobFails error => exact hgood (h.failed hready heffect.2.1) True.intro
  | recovers =>
      exact hset heffect.2.beforeFailure (recovered_follows_iff h heffect.2)
  | polls => exact hgood (h.keeps hready heffect.2) True.intro
  | fetches status => exact hgood (h.keeps hready heffect.2) True.intro
  | stops => exact hgood (h.keeps hready heffect.2) True.intro
  | blobMissing => exact hgood (h.keeps hready heffect.2) True.intro
  | sendHeaders => exact hgood (h.keeps hready heffect.2) True.intro
  | recoveryFails => exact hgood (h.keeps hready heffect.2) True.intro

theorem cursorsOk_reaches
    (h : (drivenMachine fetchStatus info).Reaches readsChanges state) :
    CursorsOk state := by
  refine Machine.Preserves.reaches ?_ ?_ h
  · intro before event after hguard hok taken
    exact (follows_step_iff hok taken).2.2 hguard
  · exact { ready := ready_startSync fetchStatus info, cursors := rfl }

/-- The cursors follow pRuntime in every run whose recoveries read what the
failures before them changed, and a run loses them where one does not. -/
theorem cursors_follow_iff (fetchStatus : Option FetchStatus) (info : Info) :
    (∀ state, (drivenMachine fetchStatus info).Reaches readsChanges state →
      state.Follows) ∧
    ∀ before event after,
      (drivenMachine fetchStatus info).Reaches readsChanges before →
      before.step event = some after →
      (after.Follows ↔ readsChanges before event) :=
  ⟨fun _ hreaches => (cursorsOk_reaches hreaches).follows,
    fun _ _ _ hreaches taken =>
      (follows_step_iff (cursorsOk_reaches hreaches) taken).2.1⟩

def level : Info := { headernum := 5, paraHeadernum := 1, blocknum := 1 }

/-- A header request is lost, and then goes through. -/
def lostHeaders : List DrivenEvent :=
  [.polls, .sendHeaders, .requestFails "timeout" .noEffect, .recovers,
    .sendHeaders,
    .replies { headernum := 7, paraHeadernum := 3, blocknum := 1 }]

theorem cursors_follow_lost :
    ((drivenMachine (some fetched) level).endedIf
      (fun state event => decide (readsChanges state event))
        lostHeaders).Follows :=
  (cursors_follow_iff (some fetched) level).1 _
    (Machine.reaches_endedIf (fun _ _ => of_decide_eq_true) (by decide))

/-- pRuntime takes the headers and the reply is lost: the next step is called
with a para cursor that pRuntime has left behind. -/
theorem cursors_fail_replyLost :
    let state := (drivenMachine (some fetched) level).ended
      [.polls, .sendHeaders, .requestFails "timeout" (.replyLost
        { headernum := 7, paraHeadernum := 3, blocknum := 1 }), .recovers]
    (drivenMachine (some fetched) level).Reachable state ∧
      state.beforeFailure = none ∧
      (state.sync.loops .main).loop = .running .header 1 false ∧
      state.sync.paraHeaderSyncNumber = 1 ∧
      state.runtime.paraHeadernum = 3 ∧ ¬ state.Follows := by
  refine ⟨Machine.reachable_ended rfl, rfl, rfl, rfl, rfl, fun h => ?_⟩
  exact absurd (congrArg Cursors.paraHeaderSyncNumber (h rfl)) (by decide)

end RuntimeBridge.Lifecycle
