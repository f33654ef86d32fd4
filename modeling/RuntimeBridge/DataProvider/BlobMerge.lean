import RuntimeBridge.DataProvider.ParentTiling

/-! The blob of a finished window is the merge of the dry requests of its
ranges, and exactly the records of the window point to it. -/

namespace RuntimeBridge.DataProvider

open Library

def keepLastJustification : List HeaderToSync → List HeaderToSync
  | [] => []
  | [last] => [last]
  | header :: next :: rest =>
      { header with justification := none } ::
        keepLastJustification (next :: rest)

/-- One request for the blocks of several, with the proof of the last block. -/
def mergeRequests (requests : List SyncCombinedHeadersReq)
    (proof : List Bytes) : SyncCombinedHeadersReq where
  relaychainHeaders :=
    keepLastJustification (requests.flatMap (·.relaychainHeaders))
  authoritySetChange := requests.getLast?.bind (·.authoritySetChange)
  parachainHeaders := requests.flatMap (·.parachainHeaders)
  proof

namespace WindowDb

def dryRanges (db : WindowDb) (window : Window) : List RangeMeta :=
  entries db.rangeByParentBlock window.parentStartBlock (window.stop + 1)

def dryRequest (db : WindowDb) (rangeMeta : RangeMeta) :
    Option SyncCombinedHeadersReq :=
  db.drySyncHeader rangeMeta.drySyncHeaderReqKey

/-- The key that `commitBlobRange` gives the blob of a finished window. -/
def blobKeyOf (db : WindowDb) (window : Window) : RangeKey :=
  let empty := ((db.dryRanges window).flatMap (·.paraRange)).isEmpty
  { parentStartBlock := window.parentStartBlock
    parentStopBlock := window.parentStopBlock
    paraStartBlock := if empty then -1 else window.paraStartBlock
    paraStopBlock := if empty then -1 else window.paraStopBlock }

end WindowDb

/-- The blob path of a finished window carries what the dry path carries. -/
structure BlobMerged (chain : Chain) (db : WindowDb) (window : Window) :
    Prop where
  requested : ∀ rangeMeta ∈ db.dryRanges window,
    (db.dryRequest rangeMeta).isSome
  merged : db.blobRange (db.blobKeyOf window) =
    some (mergeRequests ((db.dryRanges window).filterMap db.dryRequest)
      (chain.parent window.stop).paraProof)
  lastHeader : ∃ request,
    ((db.dryRanges window).filterMap db.dryRequest).getLast? = some request ∧
      request.relaychainHeaders.getLast? =
        some (chain.parent window.stop).syncHeaderData
  points : ∀ first rangeMeta, window.parentStartBlock ≤ first →
    first ≤ window.stop → db.rangeByParentBlock first = some rangeMeta →
    rangeMeta.blobSyncHeaderReqKey = some (db.blobKeyOf window) ∧
      rangeMeta.blobParentStopBlock = some window.parentStopBlock ∧
      rangeMeta.blobParaStopBlock =
        some (db.blobKeyOf window).paraStopBlock
  foreign : ∀ first rangeMeta,
    (first < window.parentStartBlock ∨ window.stop < first) →
    db.rangeByParentBlock first = some rangeMeta →
    rangeMeta.blobSyncHeaderReqKey ≠ some (db.blobKeyOf window)

variable {chain : Chain} {db : WindowDb} {count id first stop : Nat}
  {window : Window} {rangeMeta : RangeMeta} {origin : Origin}

theorem blobRelaychainHeaders_eq (blocks : List ParentBlock) :
    WindowDb.blobRelaychainHeaders blocks =
      keepLastJustification (blocks.map (·.syncHeaderData)) := by
  induction blocks with
  | nil => rfl
  | cons block rest ih =>
      cases rest with
      | nil => rfl
      | cons next rest =>
          rw [WindowDb.blobRelaychainHeaders, ih, ← block.sync_header]
          rfl

namespace DbOk

theorem dryRanges_from (h : DbOk chain db count) (hid : id < count)
    (stored : db.window id = some window)
    (hstart : window.parentStartBlock ≤ first) (hcut : chain.Cut first)
    (hle : first ≤ window.stop + 1) :
    ((entries db.rangeByParentBlock first (window.stop + 1)).filterMap
        db.dryRequest).flatMap (·.relaychainHeaders) =
        (chain.parents first (window.stop + 1)).map (·.syncHeaderData) ∧
      ((entries db.rangeByParentBlock first (window.stop + 1)).filterMap
        db.dryRequest).flatMap (·.parachainHeaders) =
        (chain.packed window.origin first (window.stop + 1)).map (·.header) ∧
      (entries db.rangeByParentBlock first (window.stop + 1)).flatMap
        (·.paraRange) =
        (chain.packed window.origin first (window.stop + 1)).map (·.number) ∧
      ∀ rangeMeta ∈ entries db.rangeByParentBlock first (window.stop + 1),
        (db.dryRequest rangeMeta).isSome := by
  have hgenesis := h.windows.genesis_lt stored
  have hmotive := @ranges_induction chain db count first (window.stop + 1) h
    (fun key rest => window.parentStartBlock ≤ key → key ≤ window.stop + 1 →
      (rest.filterMap db.dryRequest).flatMap (·.relaychainHeaders) =
          (chain.parents key (window.stop + 1)).map (·.syncHeaderData) ∧
        (rest.filterMap db.dryRequest).flatMap (·.parachainHeaders) =
          (chain.packed window.origin key (window.stop + 1)).map (·.header) ∧
        rest.flatMap (·.paraRange) =
          (chain.packed window.origin key (window.stop + 1)).map (·.number) ∧
        ∀ rangeMeta ∈ rest, (db.dryRequest rangeMeta).isSome)
    (by omega) hcut (Or.inr (h.stop_justified hid stored)) hle
    (h.stop_lt_past hid stored) (fun _ _ => by simp) ?_
  · exact hmotive hstart hle
  · intro key otherId other stop rangeMeta rest _ hother hok hwithin hlt ih
      hkey _
    have hordered := hok.range.ordered
    have hotherStart : other.parentStartBlock ≤ key := hok.range.start_le
    have hshared : window.parentStartBlock ≤ key ∧ key ≤ window.stop :=
      ⟨hkey, by omega⟩
    obtain ⟨-, rfl⟩ := h.window_unique stored hother hshared
      ⟨hotherStart, by omega⟩
    obtain ⟨hheaders, hparas, hnumbers, hrequests⟩ := ih (by omega) (by omega)
    obtain ⟨changed, hrequest, -⟩ := hok.request
    have hdry : db.dryRequest rangeMeta =
        some (chain.rangeReq other.origin key stop changed) := by
      rw [WindowDb.dryRequest, hok.requestKey]
      exact hrequest
    have hrange : rangeMeta.paraRange =
        (chain.packed other.origin key (stop + 1)).map (·.number) :=
      congrArg RangeMeta.paraRange hok.content
    rw [List.filterMap_cons_some hdry, List.flatMap_cons, List.flatMap_cons,
      List.flatMap_cons, hheaders, hparas, hnumbers, hrange]
    refine ⟨?_, ?_, ?_, ?_⟩
    · rw [← Chain.parents_append (Nat.le_succ_of_le hordered) hlt,
        List.map_append]
      rfl
    · rw [← Chain.packed_append (Nat.le_succ_of_le hordered) hlt,
        List.map_append]
      rfl
    · rw [← List.map_append,
        Chain.packed_append (Nat.le_succ_of_le hordered) hlt]
    · intro member hmember
      rcases List.mem_cons.mp hmember with rfl | hrest
      · rw [hdry]
        rfl
      · exact hrequests member hrest

theorem dryRanges_last (h : DbOk chain db count) (hid : id < count)
    (stored : db.window id = some window) :
    ∃ first rangeMeta, window.parentStartBlock ≤ first ∧
      first ≤ window.stop ∧
      db.dryRanges window =
        entries db.rangeByParentBlock window.parentStartBlock first ++
          [rangeMeta] ∧
      db.dryRequest rangeMeta =
        some (chain.rangeReq window.origin first window.stop true) := by
  obtain ⟨first, hrange, hrequest⟩ := (h.sealed id window hid stored).last
  have hstart : window.parentStartBlock ≤ first := hrange.start_le
  have hordered := hrange.ordered
  obtain ⟨rangeMeta, hmeta⟩ := Option.isSome_iff_exists.mp
    ((h.sealed id window hid stored).covered first window.stop hrange
      (Nat.lt_succ_self _))
  obtain ⟨other, hok, -⟩ := h.range_of_window stored hmeta hstart
    (fun _ => hordered)
  rw [← hrange.stop_unique hok.range] at hok
  refine ⟨first, rangeMeta, hstart, hordered, ?_, ?_⟩
  · rw [WindowDb.dryRanges, entries_append _ hstart (by omega),
      entries_cons hmeta (Nat.lt_succ_of_le hordered) (Nat.le_refl _)
        (fun key hkey hlt => h.range_skips stored hok (Nat.le_refl _) hkey
          (by omega)), entries_self]
  · rw [WindowDb.dryRequest, hok.requestKey]
    exact hrequest

theorem cut_start (h : DbOk chain db count)
    (stored : db.window id = some window) :
    chain.Cut window.parentStartBlock := by
  rw [h.windows.start_eq_past stored]
  exact h.cut_past (h.windows.le_count stored)

theorem blobKeyOf_eq (h : DbOk chain db count) (hid : id < count)
    (stored : db.window id = some window) :
    db.blobKeyOf window = chain.blobKey window.origin window.stop := by
  have hclosed := h.windows.closed hid stored
  obtain ⟨-, -, hnumbers, -⟩ := h.dryRanges_from hid stored (Nat.le_refl _)
    (h.cut_start stored) (Nat.le_succ_of_le hclosed.ordered)
  have hempty : ((db.dryRanges window).flatMap (·.paraRange)).isEmpty =
      (chain.blobParas window.origin window.stop).isEmpty := by
    rw [WindowDb.dryRanges, hnumbers, List.isEmpty_map]
    rfl
  rw [WindowDb.blobKeyOf, hempty, hclosed.paraStop, hclosed.parentStop]
  rfl

theorem blobMerged (h : DbOk chain db count) (hid : id < count)
    (stored : db.window id = some window) : BlobMerged chain db window := by
  have hclosed := h.windows.closed hid stored
  have hblob := (h.sealed id window hid stored).blob
  have hkey := h.blobKeyOf_eq hid stored
  obtain ⟨hheaders, hparas, -, hrequests⟩ := h.dryRanges_from hid stored
    (Nat.le_refl _) (h.cut_start stored) (Nat.le_succ_of_le hclosed.ordered)
  obtain ⟨first, lastMeta, hfirst, hle, hsplit, hrequest⟩ :=
    h.dryRanges_last hid stored
  have hlast : ((db.dryRanges window).filterMap db.dryRequest).getLast? =
      some (chain.rangeReq window.origin first window.stop true) := by
    rw [hsplit, List.filterMap_append, List.filterMap_cons_some hrequest,
      List.filterMap_nil, List.getLast?_concat]
  refine
    { requested := hrequests, merged := ?_, lastHeader := ?_, points := ?_,
      foreign := ?_ }
  · rw [hkey, hblob.stored, mergeRequests, hlast]
    simp only [Chain.blobReq, WindowDb.blobSyncHeaderReq,
      blobRelaychainHeaders_eq, WindowDb.dryRanges]
    rw [hheaders, hparas]
    rfl
  · refine ⟨_, hlast, ?_⟩
    simp only [Chain.rangeReq, WindowDb.drySyncHeaderReq, List.getLast?_map,
      Chain.parents_getLast? hle, Option.map_some]
  · intro number rangeMeta hstart hstop hmeta
    have hpoints := hblob.points number rangeMeta hstart hstop hmeta
    rw [← hkey] at hpoints
    refine ⟨(congrArg RangeMeta.blobSyncHeaderReqKey hpoints).symm, ?_,
      (congrArg RangeMeta.blobParaStopBlock hpoints).symm⟩
    exact (congrArg RangeMeta.blobParentStopBlock hpoints).symm
  · intro number rangeMeta houtside hmeta hpointed
    obtain ⟨otherId, other, stop, hother, hok, hbound⟩ :=
      h.ranges number rangeMeta hmeta
    have hown : window.parentStartBlock = other.parentStartBlock :=
      hok.ownBlob _ hpointed
    have hstart : other.parentStartBlock ≤ number := hok.range.start_le
    have hordered := hok.range.ordered
    rcases Nat.lt_or_eq_of_le (h.windows.le_count hother) with hlt | rfl
    · have hotherOrdered := (h.windows.closed hlt hother).ordered
      have hshared : window.parentStartBlock ≤ window.parentStartBlock ∧
          window.parentStartBlock ≤ window.stop :=
        ⟨Nat.le_refl _, hclosed.ordered⟩
      obtain ⟨-, rfl⟩ := h.window_unique stored hother hshared
        ⟨by omega, by omega⟩
      have := hbound hlt
      omega
    · have := h.windows.stop_lt_start hid stored hother
      have := hclosed.ordered
      omega

end DbOk

/-- In every run of the window loop, crashes included, every finished window
has a blob that merges its dry ranges. -/
theorem blobMerged_reachable (chain : Chain) (hgrandpa : chain.Grandpa)
    (state : WalkState) (h : (walkMachine chain).Reachable state)
    (id : Nat) (window : Window) (stored : state.db.window id = some window)
    (finished : window.isFinished = true) :
    BlobMerged chain state.db window := by
  obtain ⟨count, hok, -⟩ := stateOk_reachable hgrandpa h
  exact hok.blobMerged ((hok.finished.finished id window stored).mp finished)
    stored

theorem blobMerged_interrupted :
    ∃ window, ((walkMachine (Chain.evenSets fun number => number)).ended
        interruptedRun).db.window 0 = some window ∧
      BlobMerged (Chain.evenSets fun number => number)
        ((walkMachine (Chain.evenSets fun number => number)).ended
          interruptedRun).db window :=
  ⟨_, rfl, blobMerged_reachable _ (evenSets_grandpa _) _
    (Machine.reachable_ended rfl) 0 _ rfl rfl⟩

/-- The records of a window without para blocks do not carry its para stop
number. -/
theorem blobPointer_without_paras :
    (Chain.evenSets fun _ => 0).Grandpa ∧
      ∃ state window rangeMeta,
        (walkMachine (Chain.evenSets fun _ => 0)).Reachable state ∧
        state.db.window 0 = some window ∧ window.isFinished = true ∧
        (Chain.evenSets fun _ => 0).SetIdGrows window.stop ∧
        window.parentStartBlock = 1 ∧
        state.db.rangeByParentBlock 1 = some rangeMeta ∧
        rangeMeta.blobParaStopBlock ≠ some window.paraStopBlock :=
  ⟨evenSets_grandpa _, (walkMachine (Chain.evenSets fun _ => 0)).ended
      (List.replicate 10 .proceed), _, _, Machine.reachable_ended rfl, rfl, rfl,
    by decide, rfl, rfl, by decide⟩

end RuntimeBridge.DataProvider
