import RuntimeBridge.DataProvider.HeaderBuffers
import RuntimeBridge.DataProvider.SetChange

/-! The authority sets that header buffers need.  When no walk begins unseen at
a set change, one set is enough for every buffer. -/

namespace RuntimeBridge.DataProvider

open Library

/-- The headers `first, ..., stop`, whose set changes at `stop` at most, and then
the request carries the change. -/
structure OneSet (chain : Chain) (first stop : Nat)
    (request : SyncCombinedHeadersReq) : Prop where
  ordered : first ≤ stop
  headers : request.relaychainHeaders.map (·.header) =
    (chain.parents first (stop + 1)).map (·.header)
  quiet : ∀ number, first ≤ number → number < stop → ¬ chain.SetIdGrows number
  carries : chain.SetIdGrows stop →
    request.authoritySetChange = (chain.parent stop).authoritySetChange

def BlobSets (chain : Chain) (db : WindowDb) : Prop :=
  ∀ key request, db.blobRange key = some request →
    ∃ first stop, OneSet chain first stop request

variable {chain : Chain} {db : WindowDb} {state : WalkState}
  {visit : Visit} {count number first stop left right : Nat}
  {heights : List Int} {request : SyncCombinedHeadersReq}

theorem oneSet_dry (hgrandpa : chain.Grandpa) (hok : DbOk chain db count)
    (hsets : SetDbOk chain db) (hbuffers : BuffersOk chain db) {key : RangeKey}
    (hstored : db.drySyncHeader key = some request) :
    ∃ first stop, OneSet chain first stop request := by
  obtain ⟨rangeMeta, hmeta, hkey⟩ :=
    (hok.written key).mp (hbuffers.marked key request hstored)
  obtain ⟨id, window, stop, hwindow, hrange, -⟩ := hok.ranges _ rangeMeta hmeta
  obtain ⟨changed, hrequest, -⟩ := hrange.request
  obtain ⟨carried, hcarried, hcarries⟩ :=
    (hsets.carries _ rangeMeta hmeta).request
  have hown : rangeMeta.drySyncHeaderReqKey =
      chain.rangeKey window.origin key.parentStartBlock stop :=
    congrArg RangeMeta.drySyncHeaderReqKey hrange.content
  have hstop : rangeMeta.parentStopBlock = stop :=
    (congrArg RangeMeta.parentStopBlock hrange.content).trans
      (Chain.rangeMeta_stop _ stop)
  rw [hkey, hstored] at hcarried
  cases hcarried
  rw [← hown, hkey, hstored] at hrequest
  cases hrequest
  have hgenesis := hok.windows.genesis_lt hwindow
  refine ⟨key.parentStartBlock, stop,
    { ordered := hrange.range.ordered
      headers := (continues_range hgenesis hrange.range).relay
      quiet := fun number hle hlt hgrows => ?_
      carries := fun hgrows => ?_ }⟩
  · have hstart := hrange.range.start_le
    exact hrange.range.quiet number hle hlt
      (hgrandpa number (Nat.lt_of_lt_of_le hgenesis
        (Nat.le_trans hstart hle)) hgrows)
  · rw [hcarries, hstop, Chain.authoritySetChange, if_pos hgrows]

/-- A window that closes at `number` had one set up to it. -/
theorem oneSet_blob (hgrandpa : chain.Grandpa) (hok : DbOk chain db count)
    (hsets : SetDbOk chain db) (hvisited : VisitOk chain db count number visit)
    (hproc : SetProcOk chain (.visited visit))
    (hchanged :
      setIdChanged visit.currParentBlock visit.lastParentBlock = true) :
    OneSet chain visit.currentWindow.parentStartBlock number
      (chain.blobReq visit.currentWindow.origin number) := by
  have hgenesis := hok.windows.genesis_lt hvisited.window
  have hstart := hvisited.arrived.start_le
  have hjustified := hgrandpa number (Nat.lt_of_lt_of_le hgenesis hstart)
    (hvisited.grows hchanged).1
  refine
    { ordered := hstart
      headers := (continues_blob hgenesis (Nat.le_refl _) hstart
        hjustified).relay
      quiet := fun other hle hlt hgrows => ?_
      carries := fun _ => rfl }
  rcases Nat.eq_or_lt_of_le hle with rfl | hlater
  · have hid := hok.windows.windowId count _ hvisited.window
    refine hsets.not_first hid hvisited.window (fun hchange => ?_) hgrows
    have hat := (hproc hchange).1
    rw [hvisited.currParentBlock, chain.parent_number] at hat
    omega
  · exact hvisited.sameSet other hlater hlt hgrows

theorem blobSets_visited (hgrandpa : chain.Grandpa)
    (hok : DbOk chain db count) (hvisited : VisitOk chain db count number visit)
    (hsets : SetsOk chain ⟨db, .visited visit, heights⟩)
    (h : BlobSets chain db) :
    BlobSets chain (walkStep chain ⟨db, .visited visit, heights⟩).db := by
  cases hchanged :
      setIdChanged visit.currParentBlock visit.lastParentBlock with
  | true =>
      have hid := hok.windows.windowId count _ hvisited.window
      obtain ⟨window, hclose, -, horigin, -⟩ :=
        hvisited.arrived.closedWindow hid hchanged
      have hfinish := hvisited.arrived.finishVisit_changed hchanged hclose db
      split at hfinish
      · simp only [walkStep, hfinish]
        exact h
      · simp only [walkStep, hfinish]
        intro key request hstored
        rcases update_some_cases hstored with ⟨-, hnew⟩ | ⟨-, hold⟩
        · cases hnew
          rw [horigin]
          exact ⟨_, number, oneSet_blob hgrandpa hok hsets.db hvisited
            hsets.proc hchanged⟩
        · exact h key request hold
  | false =>
      have hfinish := finishVisit_quiet hchanged db
      split at hfinish
      · simp only [walkStep, hfinish]
        exact h
      · simp only [walkStep, hfinish]
        exact h

/-- No other step writes a blob. -/
theorem blobSets_step (hgrandpa : chain.Grandpa) (hstate : StateOk chain state)
    (hsets : SetsOk chain state) (h : BlobSets chain state.db) :
    BlobSets chain (walkStep chain state).db := by
  obtain ⟨db, proc, heights⟩ := state
  obtain ⟨count, hok, hproc⟩ := hstate
  cases proc with
  | next id last =>
      simp only [walkStep, walkWindow]
      split
      · split <;> exact h
      · cases hfirst : firstBlocks chain id last with
        | none => exact h
        | some blocks => exact h
  | block walk =>
      obtain ⟨first, number, hwalk⟩ := hproc
      obtain ⟨visit, hvisit, -⟩ := hwalk.arriving.visitBlock db
      simp only [walkStep, hvisit, Chain.visitedDb]
      split <;> exact h
  | visited visit =>
      obtain ⟨number, hvisited⟩ := hproc
      exact blobSets_visited hgrandpa hok hvisited hsets h
  | mark window key => exact h
  | close window => exact h
  | commit window => exact h
  | exited => exact h

theorem blobSets_reaches (hgrandpa : chain.Grandpa)
    (h : (walkMachine chain).Reaches (seesFirst chain) state) :
    BlobSets chain state.db := by
  have hpreserved : (walkMachine chain).Preserves (seesFirst chain)
      fun state => (walkMachine chain).Reaches (seesFirst chain) state ∧
        BlobSets chain state.db := by
    rintro before event after hsees ⟨hreached, hblobs⟩ htaken
    refine ⟨hreached.leads (Machine.Next.leads ⟨event, hsees, htaken⟩), ?_⟩
    cases event with
    | proceed =>
        cases Option.some.inj htaken
        obtain ⟨hstate, hsets⟩ := setsOk_reaches hgrandpa hreached
        exact blobSets_step hgrandpa hstate hsets hblobs
    | crash =>
        cases Option.some.inj htaken
        exact hblobs
  refine (hpreserved.reaches ⟨Relation.ReflTransGen.refl, ?_⟩ h).2
  exact fun _ _ hnone => by cases hnone

/-- No buffer that such a run stores needs a second set. -/
theorem oneSet_reaches (hgrandpa : chain.Grandpa)
    (h : (walkMachine chain).Reaches (seesFirst chain) state) {key : HeaderKey}
    (hstored : state.db.headerBuffer key = some request) :
    ∃ first stop, OneSet chain first stop request := by
  cases key with
  | dry key =>
      obtain ⟨⟨count, hok, -⟩, hsets⟩ := setsOk_reaches hgrandpa h
      exact oneSet_dry hgrandpa hok hsets.db
        (buffered_reachable hgrandpa h.reachable).1 hstored
  | blob key => exact blobSets_reaches hgrandpa h key request hstored

theorem parents_header_inj
    (hdistinct : Function.Injective fun number => (chain.parent number).header)
    (hle : first ≤ stop)
    (hsame : (chain.parents first (stop + 1)).map (·.header) =
      (chain.parents left (right + 1)).map (·.header)) :
    first = left ∧ stop = right := by
  simp only [Chain.parents, List.map_map] at hsame
  have hrange := List.map_injective_iff.mpr hdistinct hsame
  obtain ⟨hlength, hnone | hfirst⟩ := List.range'_inj.mp hrange
  · omega
  · exact ⟨hfirst, by omega⟩

/-- When no two blocks have one header, the headers of a request tell its
blocks. -/
theorem OneSet.of_continues
    (hdistinct : Function.Injective fun number => (chain.parent number).header)
    (hset : OneSet chain left right request)
    (h : Continues chain number first stop request) :
    OneSet chain first stop request := by
  obtain ⟨rfl, rfl⟩ := parents_header_inj hdistinct h.ordered
    (h.relay.symm.trans hset.headers)
  exact hset

theorem setId_quiet (hmonotone : chain.MonotoneSets)
    (hquiet : ¬ chain.SetIdGrows number) :
    (chain.parent (number - 1)).setId = (chain.parent number).setId := by
  cases number with
  | zero => rfl
  | succ number => exact Nat.le_antisymm (hmonotone number) (Nat.not_lt.mp hquiet)

/-- The set before any of the blocks is the one that justifies the last. -/
theorem OneSet.setId (hmonotone : chain.MonotoneSets)
    (h : OneSet chain first stop request) (hle : first ≤ number)
    (hstop : number ≤ stop) :
    (chain.parent (number - 1)).setId = (chain.parent (stop - 1)).setId := by
  obtain ⟨-, -, hquiet, -⟩ := h
  induction stop, hstop using Nat.le_induction with
  | base => rfl
  | succ stop hnumber ih =>
      rw [ih fun other hother hlt => hquiet other hother (Nat.lt_succ_of_lt hlt)]
      exact setId_quiet hmonotone
        (hquiet stop (Nat.le_trans hle hnumber) (Nat.lt_succ_self stop))

end RuntimeBridge.DataProvider
