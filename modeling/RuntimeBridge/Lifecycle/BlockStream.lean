import RuntimeBridge.Lifecycle.PRuntime

/-! The para blocks on their way from the para loops to pRuntime: a data
provider whose answers may be kept by every worker, the block step of
`single_sync.js`, and a pRuntime that dispatches one block after the other. -/

namespace RuntimeBridge.Lifecycle

open Library DataProvider

/-- pRuntime has dispatched the blocks before the one that it expects. -/
structure PRuntime.OnParaChain (chain : Chain) (pRuntime : PRuntime)
    (state : pRuntime.State) : Prop where
  dispatched : pRuntime.dispatched state =
    chain.dispatchData 1 ((pRuntime.info state).blocknum - 1)
  first : 1 ≤ (pRuntime.info state).blocknum

structure PRuntime.KeepsBlocks (pRuntime : PRuntime)
    (before after : pRuntime.State) : Prop where
  blocknum : (pRuntime.info after).blocknum = (pRuntime.info before).blocknum
  dispatched : pRuntime.dispatched after = pRuntime.dispatched before

/-- pRuntime skips the blocks that it has and dispatches `count` of the rest. -/
structure PRuntime.TakesBlocks (pRuntime : PRuntime) (first : Nat)
    (blocks : List Bytes) (count : Nat) (before after : pRuntime.State) :
    Prop where
  first_le : first ≤ (pRuntime.info before).blocknum
  within : (pRuntime.info before).blocknum + count ≤ first + blocks.length
  blocknum :
    (pRuntime.info after).blocknum = (pRuntime.info before).blocknum + count
  dispatched : pRuntime.dispatched after = pRuntime.dispatched before ++
    (blocks.drop ((pRuntime.info before).blocknum - first)).take count

/-- What is relied on of pRuntime when it is sent blocks of the chain. -/
structure PRuntime.BlockRules (chain : Chain) (pRuntime : PRuntime) :
    Prop where
  /-- A request may be dispatched in part, when a block fails. -/
  inOrder : ∀ state first count, pRuntime.OnParaChain chain state → 0 < count →
    pRuntime.KeepsBlocks state (pRuntime.serves state
        (.dispatchBlock (chain.dispatchData first count))) ∨
      ∃ taken, pRuntime.TakesBlocks first (chain.dispatchData first count) taken
        state (pRuntime.serves state
          (.dispatchBlock (chain.dispatchData first count)))
  /-- Blocks whose headers it has are dispatched. -/
  executes : ∀ state count, pRuntime.OnParaChain chain state → 0 < count →
    (pRuntime.info state).blocknum + count ≤
      (pRuntime.info state).paraHeadernum →
    (pRuntime.info (pRuntime.serves state (.dispatchBlock
        (chain.dispatchData (pRuntime.info state).blocknum count)))).blocknum =
      (pRuntime.info state).blocknum + count
  headers : ∀ state request,
    pRuntime.dispatched (pRuntime.serves state (.syncCombinedHeaders request)) =
      pRuntime.dispatched state

structure BlockStream (pRuntime : PRuntime) where
  para : ParaState
  /-- What the data provider has answered, to any worker and at any time. -/
  indexes : List (Nat × ParaRangeIndex)
  blobs : List (ParaKey × List Bytes)
  served : Served pRuntime

inductive BlockStreamEvent where
  | provider (event : ParaEvent)
  | answersIndex (number : Nat)
  | answersBlob (key : ParaKey)
  | sendBlocks (rangeIndex : ParaRangeIndex) (request : List Bytes)
  /-- Of any headers: what is dispatched does not depend on them. -/
  | sendHeaders (request : SyncCombinedHeadersReq)
  | served (event : ServedEvent)

namespace BlockStream

variable {pRuntime : PRuntime}

def startSync (chain : Chain) (batchSize : Option Nat)
    (fetchStatus : Option FetchStatus)
    (start : RuntimeStart pRuntime (pRuntime.OnParaChain chain)) :
    BlockStream pRuntime where
  para := startPara .empty batchSize
  indexes := []
  blobs := []
  served := .startSync fetchStatus start

/-- The key that `getParaBlockBlob` reads for the next block. -/
def retKey (state : BlockStream pRuntime) (rangeIndex : ParaRangeIndex) :
    ParaKey :=
  paraBlobKey rangeIndex state.served.driven.sync.paraBlockSyncNumber.toNat
    state.served.driven.sync.syncStatus.paraHeaderSynchedTo

/-- What `getParaBlockBlob` may find: answers that are shared, cached or new. -/
def Finds (state : BlockStream pRuntime) (rangeIndex : ParaRangeIndex)
    (request : List Bytes) : Prop :=
  (state.served.driven.sync.paraBlockSyncNumber.toNat, rangeIndex) ∈
      state.indexes ∧
    (state.retKey rangeIndex, request) ∈ state.blobs

instance (state : BlockStream pRuntime) (rangeIndex : ParaRangeIndex)
    (request : List Bytes) : Decidable (state.Finds rangeIndex request) :=
  inferInstanceAs (Decidable (_ ∧ _))

def sendBlocks (state : BlockStream pRuntime) (rangeIndex : ParaRangeIndex)
    (request : List Bytes) : Option (BlockStream pRuntime) :=
  if state.Finds rangeIndex request then
    (state.served.sendBlocks rangeIndex request).map fun served =>
      { state with served }
  else
    none

/-- The loop asks for the block that pRuntime expects. -/
def Follows (state : BlockStream pRuntime) : Prop :=
  state.served.driven.sync.paraBlockSyncNumber =
    (pRuntime.info state.served.runtime).blocknum

end BlockStream

def blockStreamMachine (chain : Chain) (batchSize : Option Nat)
    (pRuntime : PRuntime) (fetchStatus : Option FetchStatus)
    (start : RuntimeStart pRuntime (pRuntime.OnParaChain chain)) :
    Machine (BlockStream pRuntime) BlockStreamEvent where
  start := .startSync chain batchSize fetchStatus start
  step state
    | .provider event =>
        ((paraMachine chain batchSize).step state.para event).map fun para =>
          { state with para }
    | .answersIndex number =>
        (state.para.db.rangeParaBlockKey number).map fun rangeIndex =>
          { state with indexes := (number, rangeIndex) :: state.indexes }
    | .answersBlob key =>
        (readBlob state.para.db .empty key).map fun blob =>
          { state with blobs := (key, blob) :: state.blobs }
    | .sendBlocks rangeIndex request => state.sendBlocks rangeIndex request
    | .sendHeaders request =>
        (state.served.sendHeaders request).map fun served =>
          { state with served }
    | .served event =>
        (state.served.step event).map fun served => { state with served }

/-- The blocks of the chain from the number in the key on. -/
def BlobFrom (chain : Chain) : ParaKey → List Bytes → Prop
  | .dry number, blob => blob = chain.dispatchData number 1
  | .buffer number, blob =>
      ∃ count, 0 < count ∧ blob = chain.dispatchData number count
  | .range _, _ => False

/-- What the para loops store, whatever the size of the groups. -/
structure StoresBlocks (chain : Chain) (records : BlobCache) : Prop where
  indexes : ∀ number rangeIndex,
    records.rangeParaBlockKey number = some rangeIndex →
      IndexesBlock rangeIndex number ∧
        (rangeIndex.bufferKey = none →
          (records.dryParaBlock number).isSome) ∧
        (rangeIndex.bufferKey.isSome →
          (records.rangeParaBlockBuffer number).isSome)
  dry : ∀ number blob, records.dryParaBlock number = some blob →
    BlobFrom chain (.dry number) blob ∧
      (records.rangeParaBlockKey number).isSome
  buffer : ∀ number blob, records.rangeParaBlockBuffer number = some blob →
    BlobFrom chain (.buffer number) blob

def BlocksFit (chain : Chain) : RuntimeRequest → Prop
  | .dispatchBlock blocks =>
      ∃ first count, 0 < count ∧ blocks = chain.dispatchData first count
  | .syncCombinedHeaders _ => True

variable {chain : Chain} {db : ParaDb} {batchSize : Option Nat}
  {pRuntime : PRuntime} {fetchStatus : Option FetchStatus}
  {start : RuntimeStart pRuntime (pRuntime.OnParaChain chain)}
  {state after : BlockStream pRuntime} {before : pRuntime.State}
  {para next : ParaState} {number first count size taken : Nat}
  {rangeIndex : ParaRangeIndex} {key : ParaKey} {blob request : List Bytes}
  {sent : RuntimeRequest}

theorem dispatchData_length : (chain.dispatchData number count).length = count := by
  simp [Chain.dispatchData]

theorem dispatchData_drop (offset : Nat) :
    (chain.dispatchData number count).drop offset =
      chain.dispatchData (number + offset) (count - offset) := by
  rw [Chain.dispatchData, ← List.map_drop, List.drop_range', Nat.mul_one]
  rfl

theorem dispatchData_take {limit : Nat} (hle : limit ≤ count) :
    (chain.dispatchData number count).take limit =
      chain.dispatchData number limit := by
  rw [Chain.dispatchData, ← List.map_take, List.take_range'_of_length_ge hle]
  rfl

theorem dispatchData_append (more : Nat) :
    chain.dispatchData number count ++
        chain.dispatchData (number + count) more =
      chain.dispatchData number (count + more) := by
  rw [Chain.dispatchData, Chain.dispatchData, ← List.map_append,
    List.range'_append_1]
  rfl

theorem StoresBlocks.setDry (h : StoresBlocks chain db.blobs) (number : Nat) :
    StoresBlocks chain (db.setDryParaBlockRange (chain.para number)).blobs where
  indexes := by
    refine update_forall (fun other rangeIndex hother => ?_)
      fun rangeIndex hwritten => ?_
    · obtain ⟨hindexes, hdry, hbuffer⟩ := h.indexes other rangeIndex hother
      exact ⟨hindexes, fun hnone => update_isSome (hdry hnone), hbuffer⟩
    · cases Option.some.inj hwritten
      refine ⟨Or.inl ⟨rfl, rfl⟩, fun _ => ?_, fun hsome => by cases hsome⟩
      simp [ParaDb.blobs, ParaDb.setDryParaBlockRange]
  dry := by
    refine update_forall (fun other blob hother => ?_) fun blob hwritten => ?_
    · obtain ⟨hblob, hindexed⟩ := h.dry other blob hother
      exact ⟨hblob, update_isSome hindexed⟩
    · cases Option.some.inj hwritten
      rw [chain.para_number]
      refine ⟨rfl, ?_⟩
      simp [ParaDb.blobs, ParaDb.setDryParaBlockRange, chain.para_number]
  buffer := h.buffer

theorem StoresBlocks.storeGroup (h : StoresBlocks chain db.blobs)
    (hsize : 0 < size) (number : Nat) :
    StoresBlocks chain (db.storeGroup chain number size).blobs where
  indexes := by
    refine update_forall (fun other rangeIndex hother => ?_)
      fun rangeIndex hwritten => ?_
    · obtain ⟨hindexes, hdry, hbuffer⟩ := h.indexes other rangeIndex hother
      exact ⟨hindexes, hdry, fun hsome => update_isSome (hbuffer hsome)⟩
    · cases Option.some.inj hwritten
      refine ⟨Or.inr ⟨rfl, ?_⟩, (fun hnone => by cases hnone), fun _ => ?_⟩
      · simp only
        omega
      · simp [ParaDb.blobs, ParaDb.storeGroup]
  dry := fun other blob hother => by
    obtain ⟨hblob, hindexed⟩ := h.dry other blob hother
    exact ⟨hblob, update_isSome hindexed⟩
  buffer := by
    refine update_forall h.buffer fun blob hwritten => ?_
    exact ⟨size, hsize, (Option.some.inj hwritten).symm⟩

theorem StoresBlocks.step {event : ParaEvent}
    (h : StoresBlocks chain para.db.blobs)
    (taken : (paraMachine chain batchSize).step para event = some next) :
    StoresBlocks chain next.db.blobs := by
  cases event with
  | para =>
      cases Option.some.inj taken
      rcases paraStep_db chain para with ⟨hsame, -⟩ | ⟨number, hwritten, -⟩
      · rw [hsame]
        exact h
      · rw [hwritten]
        exact h.setDry number
  | batch =>
      cases hbatch : para.batch with
      | off => simp [paraMachine, batchStep, hbatch] at taken
      | write number size =>
          obtain ⟨hsize, rfl⟩ := batchStep_write hbatch taken
          exact h.storeGroup hsize number
      | commit last size =>
          simp only [paraMachine, batchStep, hbatch, Option.some.injEq] at taken
          subst taken
          exact h
  | restart size =>
      cases Option.some.inj taken
      exact h

theorem StoresBlocks.blobFrom (h : StoresBlocks chain db.blobs)
    (hread : readBlob db .empty key = some blob) : BlobFrom chain key blob := by
  cases key with
  | dry number => exact (h.dry number blob hread).1
  | buffer number => exact h.buffer number blob hread
  | range number => cases hread

/-- Whatever the index record names holds the block, and what follows it. -/
theorem blobFrom_retKey {headerSynchedTo : Int}
    (hindexes : IndexesBlock rangeIndex number)
    (hblob : BlobFrom chain (paraBlobKey rangeIndex number headerSynchedTo)
      blob) :
    ∃ count, 0 < count ∧ blob = chain.dispatchData number count := by
  rcases hindexes with ⟨hkey, -⟩ | ⟨hkey, -⟩
  · simp only [paraBlobKey, hkey] at hblob
    exact ⟨1, Nat.one_pos, hblob⟩
  · simp only [paraBlobKey, hkey] at hblob
    split at hblob
    · exact hblob
    · exact ⟨1, Nat.one_pos, hblob⟩

/-- A block that is stored alone is found, also behind the record of a group. -/
theorem StoresBlocks.serves (h : StoresBlocks chain db.blobs)
    (hstored : (db.dryParaBlock number).isSome) (headerSynchedTo : Int) :
    ∃ rangeIndex blob, db.rangeParaBlockKey number = some rangeIndex ∧
      readBlob db .empty (paraBlobKey rangeIndex number headerSynchedTo) =
        some blob := by
  obtain ⟨dry, hdry⟩ := Option.isSome_iff_exists.mp hstored
  obtain ⟨rangeIndex, hindex⟩ := Option.isSome_iff_exists.mp
    (h.dry number dry hdry).2
  obtain ⟨⟨hkey, -⟩ | ⟨hkey, -⟩, -, hbuffer⟩ :=
    h.indexes number rangeIndex hindex
  · refine ⟨rangeIndex, dry, hindex, ?_⟩
    simp only [paraBlobKey, hkey]
    exact hdry
  · obtain ⟨group, hgroup⟩ := Option.isSome_iff_exists.mp
      (hbuffer (by rw [hkey]; rfl))
    by_cases hfits : (rangeIndex.lastBlockNumber : Int) ≤ headerSynchedTo
    · refine ⟨rangeIndex, group, hindex, ?_⟩
      simp only [paraBlobKey, hkey, hfits, if_true]
      exact hgroup
    · refine ⟨rangeIndex, dry, hindex, ?_⟩
      simp only [paraBlobKey, hkey, hfits, if_false]
      exact hdry

namespace PRuntime

theorem OnParaChain.keeps {next : pRuntime.State}
    (h : pRuntime.OnParaChain chain before)
    (hkeeps : pRuntime.KeepsBlocks before next) :
    pRuntime.OnParaChain chain next where
  dispatched := by rw [hkeeps.dispatched, hkeeps.blocknum, h.dispatched]
  first := by rw [hkeeps.blocknum]; exact h.first

/-- The part of a request that is dispatched joins on to what was before. -/
theorem OnParaChain.takes {next : pRuntime.State}
    (h : pRuntime.OnParaChain chain before)
    (htakes : pRuntime.TakesBlocks first (chain.dispatchData first count) taken
      before next) :
    pRuntime.OnParaChain chain next where
  dispatched := by
    have hfirst := h.first
    have hle := htakes.first_le
    have hwithin := htakes.within
    rw [dispatchData_length] at hwithin
    rw [htakes.dispatched, htakes.blocknum, h.dispatched, dispatchData_drop,
      Nat.add_sub_cancel' hle, dispatchData_take (by omega)]
    obtain ⟨dispatched, hdispatched⟩ := Nat.exists_eq_add_of_le' hfirst
    rw [hdispatched, Nat.add_sub_cancel, Nat.add_comm dispatched 1,
      dispatchData_append]
    congr 1
    omega
  first := by
    rw [htakes.blocknum]
    exact Nat.le_add_right_of_le h.first

theorem BlockRules.keeps (rules : pRuntime.BlockRules chain)
    (before : pRuntime.State) (request : SyncCombinedHeadersReq) :
    pRuntime.KeepsBlocks before
      (pRuntime.serves before (.syncCombinedHeaders request)) where
  blocknum := (pRuntime.forward before (.syncCombinedHeaders request)).2.2
  dispatched := rules.headers before request

theorem BlockRules.onParaChain (rules : pRuntime.BlockRules chain)
    (h : pRuntime.OnParaChain chain before) (hfits : BlocksFit chain sent) :
    pRuntime.OnParaChain chain (pRuntime.serves before sent) := by
  cases sent with
  | syncCombinedHeaders request => exact h.keeps (rules.keeps before request)
  | dispatchBlock blocks =>
      obtain ⟨first, count, hcount, rfl⟩ := hfits
      rcases rules.inOrder before first count h hcount with
        hkeeps | ⟨taken, htakes⟩
      · exact h.keeps hkeeps
      · exact h.takes htakes

end PRuntime

/-- pRuntime has the chain up to the block that it expects, and what is on its
way to it are blocks of the chain in order. -/
structure BlockStreamOk (chain : Chain) {pRuntime : PRuntime}
    (state : BlockStream pRuntime) : Prop where
  stores : StoresBlocks chain state.para.db.blobs
  indexes : ∀ answer ∈ state.indexes, IndexesBlock answer.2 answer.1
  blobs : ∀ answer ∈ state.blobs, BlobFrom chain answer.1 answer.2
  served : ServedOk (pRuntime.OnParaChain chain) (BlocksFit chain) state.served

theorem sendBlocks_finds
    (taken : state.sendBlocks rangeIndex request = some after) :
    state.Finds rangeIndex request ∧ ∃ served,
      state.served.sendBlocks rangeIndex request = some served ∧
        after = { state with served } := by
  simp only [BlockStream.sendBlocks] at taken
  split at taken
  · next hfinds =>
      obtain ⟨served, hserved, rfl⟩ := Option.map_eq_some_iff.mp taken
      exact ⟨hfinds, served, hserved, rfl⟩
  · cases taken

namespace BlockStreamOk

theorem found (h : BlockStreamOk chain state)
    (hfinds : state.Finds rangeIndex request) :
    ∃ count, 0 < count ∧ request = chain.dispatchData
      state.served.driven.sync.paraBlockSyncNumber.toNat count := by
  obtain ⟨hindex, hblob⟩ := hfinds
  exact blobFrom_retKey (h.indexes _ hindex) (h.blobs _ hblob)

theorem step (rules : pRuntime.BlockRules chain) {event : BlockStreamEvent}
    (h : BlockStreamOk chain state)
    (taken : (blockStreamMachine chain batchSize pRuntime fetchStatus
      start).step state event = some after) : BlockStreamOk chain after := by
  cases event with
  | provider event =>
      obtain ⟨para, hpara, rfl⟩ := Option.map_eq_some_iff.mp taken
      exact { h with stores := h.stores.step hpara }
  | answersIndex number =>
      obtain ⟨rangeIndex, hindex, rfl⟩ := Option.map_eq_some_iff.mp taken
      exact
        { h with
          indexes := List.forall_mem_cons.mpr
            ⟨(h.stores.indexes number rangeIndex hindex).1, h.indexes⟩ }
  | answersBlob key =>
      obtain ⟨blob, hblob, rfl⟩ := Option.map_eq_some_iff.mp taken
      exact
        { h with
          blobs := List.forall_mem_cons.mpr
            ⟨h.stores.blobFrom hblob, h.blobs⟩ }
  | sendBlocks rangeIndex request =>
      obtain ⟨hfinds, served, hserved, rfl⟩ := sendBlocks_finds taken
      obtain ⟨count, hcount, hrequest⟩ := h.found hfinds
      exact
        { h with
          served := h.served.sendBlocks ⟨_, count, hcount, hrequest⟩ hserved }
  | sendHeaders request =>
      obtain ⟨served, hserved, rfl⟩ := Option.map_eq_some_iff.mp taken
      exact { h with served := h.served.sendHeaders True.intro hserved }
  | served event =>
      obtain ⟨served, hserved, rfl⟩ := Option.map_eq_some_iff.mp taken
      exact
        { h with
          served := h.served.step
            (fun _ _ hchain hfits => rules.onParaChain hchain hfits) hserved }

end BlockStreamOk

theorem blockStreamOk_reachable (rules : pRuntime.BlockRules chain)
    (h : (blockStreamMachine chain batchSize pRuntime fetchStatus
      start).Reachable state) : BlockStreamOk chain state := by
  refine Machine.Preserves.reaches ?_ ?_ h
  · exact fun _ _ _ _ hbefore taken => hbefore.step rules taken
  · exact
      { stores :=
          { indexes := fun _ _ hnone => by cases hnone
            dry := fun _ _ hnone => by cases hnone
            buffer := fun _ _ hnone => by cases hnone }
        indexes := fun _ hnone => by cases hnone
        blobs := fun _ hnone => by cases hnone
        served := ServedOk.startSync fetchStatus start start.resumes }

/-- In every run of the para loops and of a worker beside them, whatever fails,
is kept in a cache or is lost, pRuntime has dispatched the blocks of the chain
in order and without a gap; a request for the block that it expects begins there
and is dispatched in whole when pRuntime has the headers of all its blocks; and
a block that is stored alone is always found. -/
theorem para_blocks_stream (chain : Chain) (batchSize : Option Nat)
    (pRuntime : PRuntime) (rules : pRuntime.BlockRules chain)
    (fetchStatus : Option FetchStatus)
    (start : RuntimeStart pRuntime (pRuntime.OnParaChain chain))
    (state : BlockStream pRuntime)
    (h : (blockStreamMachine chain batchSize pRuntime fetchStatus
      start).Reachable state) :
    pRuntime.OnParaChain chain state.served.runtime ∧
      (∀ rangeIndex request after,
        state.sendBlocks rangeIndex request = some after → state.Follows →
        ∃ count, 0 < count ∧
          request = chain.dispatchData
            (pRuntime.info state.served.runtime).blocknum count ∧
          ((pRuntime.info state.served.runtime).blocknum + count ≤
              (pRuntime.info state.served.runtime).paraHeadernum →
            (pRuntime.info (pRuntime.serves state.served.runtime
                (.dispatchBlock request))).blocknum =
              (pRuntime.info state.served.runtime).blocknum + count)) ∧
      ∀ number, (state.para.db.dryParaBlock number).isSome →
        ∀ headerSynchedTo, ∃ rangeIndex blob count,
          state.para.db.rangeParaBlockKey number = some rangeIndex ∧
            readBlob state.para.db .empty
                (paraBlobKey rangeIndex number headerSynchedTo) = some blob ∧
            0 < count ∧ blob = chain.dispatchData number count := by
  have hok := blockStreamOk_reachable rules h
  have hchain := hok.served.runtime
  refine ⟨hchain, ?_, ?_⟩
  · intro rangeIndex request after taken hfollows
    obtain ⟨hfinds, -⟩ := sendBlocks_finds taken
    obtain ⟨count, hcount, hrequest⟩ := hok.found hfinds
    rw [hfollows, Int.toNat_natCast] at hrequest
    refine ⟨count, hcount, hrequest, fun hheaders => ?_⟩
    rw [hrequest]
    exact rules.executes _ count hchain hcount hheaders
  · intro number hstored headerSynchedTo
    obtain ⟨rangeIndex, blob, hindex, hread⟩ :=
      hok.stores.serves hstored headerSynchedTo
    obtain ⟨count, hcount, hblob⟩ := blobFrom_retKey
      (hok.stores.indexes number rangeIndex hindex).1
      (hok.stores.blobFrom hread)
    exact ⟨rangeIndex, blob, count, hindex, hread, hcount, hblob⟩

/-- The data of a block is as long as its number. -/
def countedBlocks : Chain :=
  { blankChain with
    para := fun number =>
      { number, header := [], dispatchBlockData := List.replicate number 0 }
    para_number := fun _ => rfl }

structure Dispatching where
  info : Info
  dispatched : List Bytes

/-- One block after the other is dispatched, up to the first without a header. -/
def Dispatching.takes (state : Dispatching) (first : Nat)
    (blocks : List Bytes) : Dispatching :=
  let next := state.info.blocknum
  let count := min (first + blocks.length) state.info.paraHeadernum - next
  if first ≤ next ∧ next ≤ first + blocks.length then
    { info := { state.info with blocknum := next + count }
      dispatched := state.dispatched ++ (blocks.drop (next - first)).take count }
  else
    state

def Dispatching.dispatchBlock (state : Dispatching) (blocks : List Bytes) :
    Dispatching :=
  state.takes ((blocks.map List.length).headD 0) blocks

def dispatchingRuntime : PRuntime where
  State := Dispatching
  info := Dispatching.info
  relayHeaders _ := []
  setId _ := 0
  dispatched := Dispatching.dispatched
  serves state
    | .syncCombinedHeaders _ => state
    | .dispatchBlock blocks => state.dispatchBlock blocks
  forward state request := by
    cases request with
    | syncCombinedHeaders request => exact ⟨Nat.le_refl _, Nat.le_refl _, rfl⟩
    | dispatchBlock blocks =>
        simp only [Dispatching.dispatchBlock, Dispatching.takes]
        split
        · exact ⟨rfl, rfl, Nat.le_add_right _ _⟩
        · exact ⟨rfl, rfl, Nat.le_refl _⟩

theorem counted_dispatchBlock (first : Nat) (hcount : 0 < count)
    (state : Dispatching) :
    state.dispatchBlock (countedBlocks.dispatchData first count) =
      state.takes first (countedBlocks.dispatchData first count) := by
  have hfirst : ((countedBlocks.dispatchData first count).map
      List.length).headD 0 = first := by
    obtain ⟨rest, rfl⟩ := Nat.exists_eq_add_of_lt hcount
    simp [Chain.dispatchData, countedBlocks, List.range'_succ]
  rw [Dispatching.dispatchBlock, hfirst]

theorem dispatchingRuntime_rules :
    dispatchingRuntime.BlockRules countedBlocks where
  inOrder := fun (state : Dispatching) first count _ hcount => by
    have hserved := counted_dispatchBlock first hcount state
    simp only [Dispatching.takes, dispatchData_length] at hserved
    split at hserved
    · next htaken =>
        right
        refine ⟨min (first + count) state.info.paraHeadernum -
          state.info.blocknum, ?_⟩
        show dispatchingRuntime.TakesBlocks first
          (countedBlocks.dispatchData first count) _ state
          (state.dispatchBlock (countedBlocks.dispatchData first count))
        rw [hserved]
        refine ⟨htaken.1, ?_, rfl, rfl⟩
        show state.info.blocknum + _ ≤ _
        rw [dispatchData_length]
        omega
    · left
      show dispatchingRuntime.KeepsBlocks state
        (state.dispatchBlock (countedBlocks.dispatchData first count))
      rw [hserved]
      exact ⟨rfl, rfl⟩
  executes := fun (state : Dispatching) count _ hcount hheaders => by
    have hserved := counted_dispatchBlock state.info.blocknum hcount state
    have hwithin : state.info.blocknum + count ≤ state.info.paraHeadernum :=
      hheaders
    simp only [Dispatching.takes, dispatchData_length] at hserved
    rw [if_pos ⟨Nat.le_refl _, Nat.le_add_right _ _⟩,
      Nat.min_eq_left hwithin, Nat.add_sub_cancel_left] at hserved
    exact congrArg (·.info.blocknum) hserved
  headers := fun _ _ => rfl

/-- Headers 1 and 2 are known to pRuntime. -/
def countedBlocksStart :
    RuntimeStart dispatchingRuntime
      (dispatchingRuntime.OnParaChain countedBlocks) where
  runtime :=
    { info := { headernum := 5, paraHeadernum := 3, blocknum := 1 }
      dispatched := [] }
  checkpoints := []
  resumes := fun state hmember => by
    cases List.mem_singleton.mp hmember
    exact ⟨rfl, Nat.le_refl 1⟩

/-- Blocks 1 to 3 are sent in one request, which fails at the last of them. -/
def countedBlocksRun : List BlockStreamEvent :=
  let rangeIndex : ParaRangeIndex :=
    { bufferKey := some 1, firstBlockNumber := 1, lastBlockNumber := 3 }
  [.provider .batch, .answersIndex 1, .answersBlob (.buffer 1),
    .served (.drives .polls),
    .sendBlocks rangeIndex (countedBlocks.dispatchData 1 3),
    .served (.serves (some "no header"))]

theorem para_blocks_counted :
    let runtime := ((blockStreamMachine countedBlocks (some 3)
      dispatchingRuntime (some fetched) countedBlocksStart).ended
        countedBlocksRun).served.runtime
    (dispatchingRuntime.info runtime).blocknum = 3 ∧
      dispatchingRuntime.dispatched runtime = [[0], [0, 0]] := by
  intro runtime
  obtain ⟨hchain, -⟩ := para_blocks_stream countedBlocks (some 3)
    dispatchingRuntime dispatchingRuntime_rules (some fetched)
    countedBlocksStart
    ((blockStreamMachine countedBlocks (some 3) dispatchingRuntime
      (some fetched) countedBlocksStart).ended countedBlocksRun)
    (Machine.reachable_ended rfl)
  have hblocknum : (dispatchingRuntime.info runtime).blocknum = 3 := rfl
  have hdispatched := hchain.dispatched
  rw [hblocknum] at hdispatched
  exact ⟨hblocknum, hdispatched⟩

end RuntimeBridge.Lifecycle
