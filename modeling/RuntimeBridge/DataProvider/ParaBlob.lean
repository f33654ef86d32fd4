import RuntimeBridge.DataProvider.ParaRange

/-! `getParaBlockBlob` of the runner: the index record of a block names the
buffer to read, and both are read through an LRU cache. -/

namespace RuntimeBridge.DataProvider

open Library

inductive ParaKey where
  | range (number : Nat)
  | dry (number : Nat)
  | buffer (number : Nat)
  deriving DecidableEq, Repr

/-- What earlier reads have left in the LRU cache. -/
structure BlobCache where
  rangeParaBlockKey : Nat → Option ParaRangeIndex
  dryParaBlock : Nat → Option (List Bytes)
  rangeParaBlockBuffer : Nat → Option (List Bytes)

namespace BlobCache

def empty : BlobCache where
  rangeParaBlockKey _ := none
  dryParaBlock _ := none
  rangeParaBlockBuffer _ := none

def evict (cache : BlobCache) : ParaKey → BlobCache
  | .range number => { cache with
      rangeParaBlockKey := Function.update cache.rangeParaBlockKey number none }
  | .dry number => { cache with
      dryParaBlock := Function.update cache.dryParaBlock number none }
  | .buffer number => { cache with
      rangeParaBlockBuffer :=
        Function.update cache.rangeParaBlockBuffer number none }

end BlobCache

/-- Only records far behind the committed height are read through the cache. -/
def readsCached (blockNumber : Nat)
    (headerSynchedTo currentCommittedNumber : Int) : Bool :=
  300 < currentCommittedNumber - blockNumber &&
    300 < currentCommittedNumber - headerSynchedTo

/-- One look of `waitForParaBlockRange`. -/
def readParaBlockRange (db : ParaDb) (cache : BlobCache) (number : Nat)
    (cached : Bool) : Option ParaRangeIndex :=
  if cached then
    (cache.rangeParaBlockKey number).or (db.rangeParaBlockKey number)
  else
    db.rangeParaBlockKey number

/-- `retKey` of `getParaBlockBlob`. -/
def paraBlobKey (rangeIndex : ParaRangeIndex) (blockNumber : Nat)
    (headerSynchedTo : Int) : ParaKey :=
  match rangeIndex.bufferKey with
  | some number =>
      if (rangeIndex.lastBlockNumber : Int) ≤ headerSynchedTo then
        .buffer number
      else
        .dry blockNumber
  | none => .dry blockNumber

def readBlob (db : ParaDb) (cache : BlobCache) : ParaKey → Option (List Bytes)
  | .buffer number =>
      (cache.rangeParaBlockBuffer number).or (db.rangeParaBlockBuffer number)
  | .dry number => (cache.dryParaBlock number).or (db.dryParaBlock number)
  | .range _ => none

inductive ParaBlob where
  /-- The index record is not stored yet. -/
  | waits
  /-- The buffer is `null` and `ret.meta = meta` throws. -/
  | throws
  | returns (rangeIndex : ParaRangeIndex) (blob : List Bytes)
  deriving DecidableEq, Repr

def getParaBlockBlob (db : ParaDb) (cache : BlobCache) (blockNumber : Nat)
    (headerSynchedTo currentCommittedNumber : Int) : ParaBlob :=
  match readParaBlockRange db cache blockNumber
      (readsCached blockNumber headerSynchedTo currentCommittedNumber) with
  | none => .waits
  | some rangeIndex =>
      match readBlob db cache
          (paraBlobKey rangeIndex blockNumber headerSynchedTo) with
      | none => .throws
      | some blob => .returns rangeIndex blob

/-- What the call leaves in the cache. -/
def cacheParaBlockBlob (db : ParaDb) (cache : BlobCache) (blockNumber : Nat)
    (headerSynchedTo currentCommittedNumber : Int) : BlobCache :=
  let cached := readsCached blockNumber headerSynchedTo currentCommittedNumber
  match readParaBlockRange db cache blockNumber cached with
  | none => cache
  | some rangeIndex =>
      let indexed :=
        if cached then
          { cache with
            rangeParaBlockKey := Function.update cache.rangeParaBlockKey
              blockNumber (some rangeIndex) }
        else
          cache
      match paraBlobKey rangeIndex blockNumber headerSynchedTo with
      | .buffer number =>
          { indexed with
            rangeParaBlockBuffer := Function.update
              indexed.rangeParaBlockBuffer number
              (readBlob db cache (.buffer number)) }
      | .dry number =>
          { indexed with
            dryParaBlock := Function.update indexed.dryParaBlock number
              (readBlob db cache (.dry number)) }
      | .range _ => indexed

structure ServeState where
  para : ParaState
  cache : BlobCache

inductive ServeEvent where
  | provider (event : ParaEvent)
  | get (blockNumber : Nat) (headerSynchedTo currentCommittedNumber : Int)
  | evict (key : ParaKey)
  deriving DecidableEq

def serveMachine (chain : Chain) (batchSize : Option Nat) :
    Machine ServeState ServeEvent where
  start := { para := startPara .empty batchSize, cache := .empty }
  step state
    | .provider event =>
        ((paraMachine chain batchSize).step state.para event).map fun para =>
          { state with para }
    | .get blockNumber headerSynchedTo currentCommittedNumber =>
        some { state with
          cache := cacheParaBlockBlob state.para.db state.cache blockNumber
            headerSynchedTo currentCommittedNumber }
    | .evict key => some { state with cache := state.cache.evict key }

/-- The batch size is the same after every restart. -/
def fixedSize (size : Nat) (_ : ServeState) (event : ServeEvent) : Prop :=
  ∀ other, event = .provider (.restart (some other)) → other = size

def Chain.dispatchData (chain : Chain) (first count : Nat) : List Bytes :=
  (List.range' first count).map fun number =>
    (chain.para number).dispatchBlockData

/-- The call returns a group of consecutive blocks that starts at `blockNumber`
and ends at or below `headerSynchedTo`. -/
def Serves (chain : Chain) (blockNumber : Nat) (headerSynchedTo : Int) :
    ParaBlob → Prop
  | .returns _ blob => ∃ last, blockNumber ≤ last ∧
      (last : Int) ≤ headerSynchedTo ∧
      blob = chain.dispatchData blockNumber (last - blockNumber + 1)
  | _ => False

/-- An index record is written together with the data it stands for. -/
def IndexOk (db : ParaDb) (size number : Nat) (rangeIndex : ParaRangeIndex) :
    Prop :=
  rangeIndex.bufferKey = none ∧ (db.dryParaBlock number).isSome ∨
    rangeIndex.bufferKey = some number ∧ 0 < size ∧
      rangeIndex.lastBlockNumber = number + size - 1 ∧
      (db.rangeParaBlockBuffer number).isSome

def ParaDb.blobs (db : ParaDb) : BlobCache where
  rangeParaBlockKey := db.rangeParaBlockKey
  dryParaBlock := db.dryParaBlock
  rangeParaBlockBuffer := db.rangeParaBlockBuffer

/-- What holds of the stored records, and of any copy of some of them. -/
structure RecordsOk (chain : Chain) (size : Nat) (db : ParaDb)
    (records : BlobCache) : Prop where
  index : ∀ number rangeIndex,
    records.rangeParaBlockKey number = some rangeIndex →
      IndexOk db size number rangeIndex
  dry : ∀ number blob, records.dryParaBlock number = some blob →
    blob = chain.dispatchData number 1 ∧ (db.dryParaBlock number).isSome
  buffer : ∀ number blob, records.rangeParaBlockBuffer number = some blob →
    blob = chain.dispatchData number size ∧
      (db.rangeParaBlockBuffer number).isSome

def BatchSize (size : Nat) : BatchProc → Prop
  | .off => True
  | .write _ current => current = size
  | .commit _ current => current = size

structure ServeOk (chain : Chain) (size : Nat) (state : ServeState) : Prop where
  stored : RecordsOk chain size state.para.db state.para.db.blobs
  cached : RecordsOk chain size state.para.db state.cache
  batch : BatchSize size state.para.batch

variable {chain : Chain} {db later : ParaDb} {cache records : BlobCache}
  {size number blockNumber : Nat} {headerSynchedTo currentCommittedNumber : Int}
  {rangeIndex : ParaRangeIndex} {blob : List Bytes} {key : ParaKey}
  {state before after : ServeState} {event : ServeEvent}

theorem IndexOk.grow (h : IndexOk db size number rangeIndex)
    (hdry : (db.dryParaBlock number).isSome →
      (later.dryParaBlock number).isSome)
    (hbuffer : (db.rangeParaBlockBuffer number).isSome →
      (later.rangeParaBlockBuffer number).isSome) :
    IndexOk later size number rangeIndex := by
  rcases h with ⟨hkey, hstored⟩ | ⟨hkey, hsize, hlast, hstored⟩
  · exact Or.inl ⟨hkey, hdry hstored⟩
  · exact Or.inr ⟨hkey, hsize, hlast, hbuffer hstored⟩

/-- The store only ever adds keys, so a copy of its records stays good. -/
theorem RecordsOk.grow (h : RecordsOk chain size db records)
    (hdry : ∀ number, (db.dryParaBlock number).isSome →
      (later.dryParaBlock number).isSome)
    (hbuffer : ∀ number, (db.rangeParaBlockBuffer number).isSome →
      (later.rangeParaBlockBuffer number).isSome) :
    RecordsOk chain size later records where
  index number rangeIndex hindex :=
    (h.index number rangeIndex hindex).grow (hdry number) (hbuffer number)
  dry number blob hblob :=
    ⟨(h.dry number blob hblob).1, hdry number (h.dry number blob hblob).2⟩
  buffer number blob hblob :=
    ⟨(h.buffer number blob hblob).1,
      hbuffer number (h.buffer number blob hblob).2⟩

theorem RecordsOk.readParaBlockRange {cached : Bool}
    (hstored : RecordsOk chain size db db.blobs)
    (hcache : RecordsOk chain size db cache)
    (hread : readParaBlockRange db cache number cached = some rangeIndex) :
    IndexOk db size number rangeIndex := by
  cases cached with
  | false => exact hstored.index number rangeIndex hread
  | true =>
      rcases Option.or_eq_some_iff.mp hread with hcached | ⟨-, hdb⟩
      · exact hcache.index number rangeIndex hcached
      · exact hstored.index number rangeIndex hdb

theorem RecordsOk.readDry (hstored : RecordsOk chain size db db.blobs)
    (hcache : RecordsOk chain size db cache)
    (hread : readBlob db cache (.dry number) = some blob) :
    blob = chain.dispatchData number 1 ∧ (db.dryParaBlock number).isSome := by
  rcases Option.or_eq_some_iff.mp hread with hcached | ⟨-, hdb⟩
  · exact hcache.dry number blob hcached
  · exact hstored.dry number blob hdb

theorem RecordsOk.readBuffer (hstored : RecordsOk chain size db db.blobs)
    (hcache : RecordsOk chain size db cache)
    (hread : readBlob db cache (.buffer number) = some blob) :
    blob = chain.dispatchData number size ∧
      (db.rangeParaBlockBuffer number).isSome := by
  rcases Option.or_eq_some_iff.mp hread with hcached | ⟨-, hdb⟩
  · exact hcache.buffer number blob hcached
  · exact hstored.buffer number blob hdb

theorem RecordsOk.setDry (hrecords : RecordsOk chain size db records)
    (number : Nat) :
    RecordsOk chain size (db.setDryParaBlockRange (chain.para number))
      records := by
  refine hrecords.grow ?_ fun _ hbuffer => hbuffer
  exact fun other hother => update_isSome hother

theorem RecordsOk.storeDry (hstored : RecordsOk chain size db db.blobs)
    (number : Nat) :
    RecordsOk chain size (db.setDryParaBlockRange (chain.para number))
      (db.setDryParaBlockRange (chain.para number)).blobs := by
  have hkept := hstored.setDry number
  have hnew : ((db.setDryParaBlockRange (chain.para number)).dryParaBlock
      number).isSome := by
    simp [ParaDb.setDryParaBlockRange, chain.para_number]
  refine
    { index := update_forall hkept.index fun rangeIndex hwritten => ?_
      dry := update_forall hkept.dry fun blob hwritten => ?_
      buffer := hkept.buffer }
  · cases Option.some.inj hwritten
    rw [chain.para_number]
    exact Or.inl ⟨rfl, hnew⟩
  · cases Option.some.inj hwritten
    rw [chain.para_number]
    exact ⟨rfl, hnew⟩

theorem paraStep_db (chain : Chain) (para : ParaState) :
    (paraStep chain para).db.blobs = para.db.blobs ∧
        (paraStep chain para).batch = para.batch ∨
      ∃ number, (paraStep chain para).db =
          para.db.setDryParaBlockRange (chain.para number) ∧
        (paraStep chain para).batch = para.batch := by
  unfold paraStep
  split
  · split
    · exact Or.inl ⟨rfl, rfl⟩
    · exact Or.inl ⟨rfl, rfl⟩
  · next number _ => exact Or.inr ⟨number, rfl, rfl⟩
  · exact Or.inl ⟨rfl, rfl⟩

theorem recordsOk_of_blobs (hrecords : RecordsOk chain size db records)
    (hsame : later.blobs = db.blobs) :
    RecordsOk chain size later records := by
  obtain ⟨-, hdry, hbuffer⟩ := BlobCache.mk.inj hsame
  refine hrecords.grow ?_ ?_
  · intro number hstored
    rwa [hdry]
  · intro number hstored
    rwa [hbuffer]

def ParaDb.storeGroup (chain : Chain) (db : ParaDb) (number size : Nat) :
    ParaDb :=
  { db with
    rangeParaBlockBuffer := Function.update db.rangeParaBlockBuffer number
      (some (chain.dispatchData number size))
    rangeParaBlockKey := Function.update db.rangeParaBlockKey number
      (some
        { bufferKey := some number
          firstBlockNumber := number
          lastBlockNumber := number + size - 1 }) }

theorem batchStep_write {para next : ParaState}
    (hwrite : para.batch = .write number size)
    (taken : batchStep chain para = some next) :
    0 < size ∧ next =
      { para with
        db := para.db.storeGroup chain number size
        batch := .commit (number + size - 1) size } := by
  obtain ⟨db, proc, batch⟩ := para
  subst hwrite
  rcases Nat.eq_zero_or_pos size with rfl | hsize
  · cases taken
  · simp only [batchStep, setRangeParaBlockBuffer_range hsize,
      Option.bind_eq_bind, Option.bind_some, Option.pure_def,
      Option.some.injEq] at taken
    exact ⟨hsize, taken.symm⟩

theorem RecordsOk.setGroup (hrecords : RecordsOk chain size db records)
    (number : Nat) :
    RecordsOk chain size (db.storeGroup chain number size) records := by
  refine hrecords.grow (fun _ hdry => hdry) ?_
  exact fun other hother => update_isSome hother

theorem RecordsOk.storeGroup (hstored : RecordsOk chain size db db.blobs)
    (hsize : 0 < size) (number : Nat) :
    RecordsOk chain size (db.storeGroup chain number size)
      (db.storeGroup chain number size).blobs := by
  have hkept := hstored.setGroup number
  have hnew : ((db.storeGroup chain number size).rangeParaBlockBuffer
      number).isSome := by
    simp [ParaDb.storeGroup]
  refine
    { index := update_forall hkept.index fun rangeIndex hwritten => ?_
      dry := hkept.dry
      buffer := update_forall hkept.buffer fun blob hwritten => ?_ }
  · cases Option.some.inj hwritten
    exact Or.inr ⟨rfl, hsize, rfl, hnew⟩
  · exact ⟨(Option.some.inj hwritten).symm, hnew⟩

theorem RecordsOk.evict (hcache : RecordsOk chain size db cache)
    (key : ParaKey) : RecordsOk chain size db (cache.evict key) := by
  cases key with
  | range number =>
      exact
        { index := update_forall hcache.index fun _ hnone => by cases hnone
          dry := hcache.dry
          buffer := hcache.buffer }
  | dry number =>
      exact
        { index := hcache.index
          dry := update_forall hcache.dry fun _ hnone => by cases hnone
          buffer := hcache.buffer }
  | buffer number =>
      exact
        { index := hcache.index
          dry := hcache.dry
          buffer := update_forall hcache.buffer fun _ hnone => by cases hnone }

theorem RecordsOk.cacheIndex (hcache : RecordsOk chain size db cache)
    (hindex : IndexOk db size number rangeIndex) :
    RecordsOk chain size db
      { cache with
        rangeParaBlockKey := Function.update cache.rangeParaBlockKey number
          (some rangeIndex) } where
  index := by
    refine update_forall hcache.index fun otherIndex hwritten => ?_
    cases hwritten
    exact hindex
  dry := hcache.dry
  buffer := hcache.buffer

theorem RecordsOk.cacheDry {value : Option (List Bytes)}
    (hcache : RecordsOk chain size db cache)
    (hvalue : ∀ blob, value = some blob →
      blob = chain.dispatchData number 1 ∧ (db.dryParaBlock number).isSome) :
    RecordsOk chain size db
      { cache with
        dryParaBlock := Function.update cache.dryParaBlock number value } where
  index := hcache.index
  dry := update_forall hcache.dry hvalue
  buffer := hcache.buffer

theorem RecordsOk.cacheBuffer {value : Option (List Bytes)}
    (hcache : RecordsOk chain size db cache)
    (hvalue : ∀ blob, value = some blob →
      blob = chain.dispatchData number size ∧
        (db.rangeParaBlockBuffer number).isSome) :
    RecordsOk chain size db
      { cache with
        rangeParaBlockBuffer := Function.update cache.rangeParaBlockBuffer
          number value } where
  index := hcache.index
  dry := hcache.dry
  buffer := update_forall hcache.buffer hvalue

theorem RecordsOk.cacheParaBlockBlob
    (hstored : RecordsOk chain size db db.blobs)
    (hcache : RecordsOk chain size db cache) :
    RecordsOk chain size db (cacheParaBlockBlob db cache blockNumber
      headerSynchedTo currentCommittedNumber) := by
  unfold DataProvider.cacheParaBlockBlob
  generalize readsCached blockNumber headerSynchedTo currentCommittedNumber =
    cached
  simp only
  cases hread : DataProvider.readParaBlockRange db cache blockNumber cached with
  | none => exact hcache
  | some rangeIndex =>
      have hindex := hstored.readParaBlockRange hcache hread
      have hindexed : RecordsOk chain size db
          (if cached then
            { cache with
              rangeParaBlockKey := Function.update cache.rangeParaBlockKey
                blockNumber (some rangeIndex) }
          else cache) := by
        split
        · exact hcache.cacheIndex hindex
        · exact hcache
      simp only
      cases paraBlobKey rangeIndex blockNumber headerSynchedTo with
      | range number => exact hindexed
      | dry number =>
          exact hindexed.cacheDry fun _ => hstored.readDry hcache
      | buffer number =>
          exact hindexed.cacheBuffer fun _ => hstored.readBuffer hcache

theorem serveOk_provider {event : ParaEvent}
    (hok : ServeOk chain size before)
    (hfixed : fixedSize size before (.provider event))
    (taken : (serveMachine chain (some size)).step before (.provider event) =
      some after) : ServeOk chain size after := by
  obtain ⟨para, hpara, rfl⟩ := Option.map_eq_some_iff.mp taken
  cases event with
  | para =>
      cases Option.some.inj hpara
      rcases paraStep_db chain before.para with
        ⟨hsame, hbatch⟩ | ⟨number, hwritten, hbatch⟩
      · exact
          { stored := by
              simp only [hsame]
              exact recordsOk_of_blobs hok.stored hsame
            cached := recordsOk_of_blobs hok.cached hsame
            batch := by
              simp only [hbatch]
              exact hok.batch }
      · exact
          { stored := by
              simp only [hwritten]
              exact hok.stored.storeDry number
            cached := by
              simp only [hwritten]
              exact hok.cached.setDry number
            batch := by
              simp only [hbatch]
              exact hok.batch }
  | batch =>
      have hsize := hok.batch
      cases hbatch : before.para.batch with
      | off =>
          simp [paraMachine, batchStep, hbatch] at hpara
      | write number current =>
          rw [hbatch] at hsize
          cases hsize
          obtain ⟨hpos, rfl⟩ := batchStep_write hbatch hpara
          exact
            { stored := hok.stored.storeGroup hpos number
              cached := hok.cached.setGroup number
              batch := rfl }
      | commit last current =>
          rw [hbatch] at hsize
          simp only [paraMachine, batchStep, hbatch, Option.some.injEq] at hpara
          subst hpara
          exact
            { stored := recordsOk_of_blobs hok.stored rfl
              cached := recordsOk_of_blobs hok.cached rfl
              batch := hsize }
  | restart other =>
      cases Option.some.inj hpara
      exact
        { stored := hok.stored
          cached := hok.cached
          batch := by
            cases other with
            | none => exact True.intro
            | some other => exact hfixed other rfl }

theorem serveOk_step (hok : ServeOk chain size before)
    (hfixed : fixedSize size before event)
    (taken : (serveMachine chain (some size)).step before event = some after) :
    ServeOk chain size after := by
  cases event with
  | provider event => exact serveOk_provider hok hfixed taken
  | get blockNumber headerSynchedTo currentCommittedNumber =>
      cases Option.some.inj taken
      exact { hok with cached := hok.stored.cacheParaBlockBlob hok.cached }
  | evict key =>
      cases Option.some.inj taken
      exact { hok with cached := hok.cached.evict key }

theorem serveOk_reaches
    (h : (serveMachine chain (some size)).Reaches (fixedSize size) state) :
    ServeOk chain size state := by
  refine Machine.Preserves.reaches ?_ ?_ h
  · intro before event after hfixed hok taken
    exact serveOk_step hok hfixed taken
  · have hempty : RecordsOk chain size .empty .empty :=
      { index := fun _ _ hnone => nomatch hnone
        dry := fun _ _ hnone => nomatch hnone
        buffer := fun _ _ hnone => nomatch hnone }
    exact { stored := hempty, cached := hempty, batch := rfl }

theorem readParaBlockRange_isSome (cache : BlobCache) (cached : Bool)
    (hstored : (db.rangeParaBlockKey number).isSome) :
    ∃ rangeIndex, readParaBlockRange db cache number cached =
      some rangeIndex := by
  refine Option.isSome_iff_exists.mp ?_
  cases cached with
  | false => exact hstored
  | true => simp [readParaBlockRange, hstored]

/-- A dry record is found exactly when it is stored, whatever the cache holds. -/
theorem ServeOk.readDry (hok : ServeOk chain size state)
    (blockNumber : Nat) (rangeIndex : ParaRangeIndex)
    (hle : (blockNumber : Int) ≤ headerSynchedTo) :
    Serves chain blockNumber headerSynchedTo
        (match readBlob state.para.db state.cache (.dry blockNumber) with
          | none => .throws
          | some blob => .returns rangeIndex blob) ↔
      (state.para.db.dryParaBlock blockNumber).isSome := by
  cases hread : readBlob state.para.db state.cache (.dry blockNumber) with
  | none =>
      obtain ⟨-, hdb⟩ := Option.or_eq_none_iff.mp hread
      simp [Serves, hdb]
  | some blob =>
      obtain ⟨hblob, hdry⟩ := hok.stored.readDry hok.cached hread
      refine iff_of_true ⟨blockNumber, Nat.le_refl _, hle, ?_⟩ hdry
      rw [hblob, Nat.sub_self]

/-- A block whose index record is stored is served exactly when it is stored by
itself, or a whole group fits below the header the worker has. -/
theorem serves_iff (chain : Chain) (size : Nat) (state : ServeState)
    (blockNumber : Nat) (headerSynchedTo currentCommittedNumber : Int)
    (hreaches : (serveMachine chain (some size)).Reaches (fixedSize size) state)
    (hstored : (state.para.db.rangeParaBlockKey blockNumber).isSome)
    (hle : (blockNumber : Int) ≤ headerSynchedTo) :
    Serves chain blockNumber headerSynchedTo
        (getParaBlockBlob state.para.db state.cache blockNumber headerSynchedTo
          currentCommittedNumber) ↔
      (state.para.db.dryParaBlock blockNumber).isSome ∨
        (blockNumber : Int) + size - 1 ≤ headerSynchedTo := by
  have hok := serveOk_reaches hreaches
  unfold getParaBlockBlob
  generalize readsCached blockNumber headerSynchedTo currentCommittedNumber =
    cached
  obtain ⟨rangeIndex, hread⟩ := readParaBlockRange_isSome state.cache cached
    hstored
  rw [hread]
  rcases hok.stored.readParaBlockRange hok.cached hread with
    ⟨hkey, hdry⟩ | ⟨hkey, hsize, hlast, hbuffer⟩
  · have hdryKey : paraBlobKey rangeIndex blockNumber headerSynchedTo =
        .dry blockNumber := by
      simp only [paraBlobKey, hkey]
    simp only [hdryKey]
    exact (hok.readDry blockNumber rangeIndex hle).trans
      (iff_of_true hdry (Or.inl hdry))
  · by_cases hfits : (rangeIndex.lastBlockNumber : Int) ≤ headerSynchedTo
    · have hbufferKey : paraBlobKey rangeIndex blockNumber headerSynchedTo =
          .buffer blockNumber := by
        simp only [paraBlobKey, hkey, hfits, if_true]
      simp only [hbufferKey]
      have hfits' : (blockNumber : Int) + size - 1 ≤ headerSynchedTo := by
        omega
      cases hblob : readBlob state.para.db state.cache (.buffer blockNumber) with
      | none =>
          obtain ⟨-, hdb⟩ := Option.or_eq_none_iff.mp hblob
          rw [hdb] at hbuffer
          contradiction
      | some blob =>
          obtain ⟨hdata, -⟩ := hok.stored.readBuffer hok.cached hblob
          refine iff_of_true ⟨blockNumber + size - 1, by omega, by omega, ?_⟩
            (Or.inr hfits')
          rw [hdata]
          congr 1
          omega
    · have hdryKey : paraBlobKey rangeIndex blockNumber headerSynchedTo =
          .dry blockNumber := by
        simp only [paraBlobKey, hkey, hfits, if_false]
      simp only [hdryKey]
      have hlong : ¬ (blockNumber : Int) + size - 1 ≤ headerSynchedTo := by
        omega
      exact (hok.readDry blockNumber rangeIndex hle).trans
        (or_iff_left hlong).symm

/-- The group is stored ahead of para block 1, and only its first header is
there. -/
def groupFirst : ServeState :=
  (serveMachine blankChain (some 3)).ended [.provider .batch]

theorem serves_group :
    Serves blankChain 1 3
        (getParaBlockBlob groupFirst.para.db groupFirst.cache 1 3 0) ↔
      (groupFirst.para.db.dryParaBlock 1).isSome ∨ (1 : Int) + 3 - 1 ≤ 3 :=
  serves_iff blankChain 3 groupFirst 1 3 0
    (Machine.reaches_ended (by simp [fixedSize]) rfl) rfl (by decide)

theorem serves_fails_first :
    (serveMachine blankChain (some 3)).Reaches (fixedSize 3) groupFirst ∧
      (groupFirst.para.db.rangeParaBlockKey 1).isSome ∧
      getParaBlockBlob groupFirst.para.db groupFirst.cache 1 1 0 = .throws ∧
      ¬ Serves blankChain 1 1
        (getParaBlockBlob groupFirst.para.db groupFirst.cache 1 1 0) :=
  ⟨Machine.reaches_ended (by simp [fixedSize]) rfl, rfl, rfl, id⟩

end RuntimeBridge.DataProvider
