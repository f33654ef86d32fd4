import RuntimeBridge.DataProvider.FetchPara
import RuntimeBridge.DataProvider.FetchParent
import RuntimeBridge.DataProvider.ParaRange
import RuntimeBridge.DataProvider.WindowWithin

/-! The four walkers over one database: the two fetchers, the para loops of
`make_blob` and its window loop.  The fetchers resume from cursors that
`make_blob` writes. -/

namespace RuntimeBridge.DataProvider

open Library

structure Walkers {Hash : Type} (codec : HeaderCodec Hash) where
  fetchPara : ParaFetcher codec
  fetchParent : ParentFetcher
  para : ParaState
  window : WalkState

/-- A step of `make_blob` comes with what the blocks that it reads hold. -/
inductive WalkersEvent (Hash : Type) where
  | fetchPara (event : FetchEvent Hash)
  | fetchParent (event : ParentEvent)
  | para (blocks : Chain)
  | batch (blocks : Chain)
  | window (blocks : Chain)
  /-- `make_blob` starts, whatever its loops were doing. -/
  | startMakeBlob (batchSize : Option Nat)

/-- `iteratePara` begins at the stored cursor. -/
def FetchEvent.resume {Hash : Type} (cursor : Nat) :
    FetchEvent Hash → FetchEvent Hash
  | .restart _ target => .restart cursor target
  | event => event

/-- `(await getLastCommittedParentBlock()) || genesis.parentNumber` -/
def WindowDb.parentStartNum (db : WindowDb) (genesis : Genesis) : Int :=
  match db.lastCommittedParentBlock with
  | some number => if number = 0 then genesis.parentNumber else number
  | none => genesis.parentNumber

section

variable {Hash : Type} {codec : HeaderCodec Hash}

def ParaStore.stored (store : ParaStore) (number : Nat) : Bool :=
  (store.pb number).isSome

/-- The para blocks that the next step of the para loop waits for. -/
def ParaProc.reads : ParaProc → List Nat
  | .check number => [number]
  | _ => []

def BatchProc.reads : BatchProc → List Nat
  | .write number size => List.range' number size
  | _ => []

namespace Walkers

def initial (codec : HeaderCodec Hash) (batchSize : Option Nat) :
    Walkers codec where
  fetchPara := { store := .empty, paraTarget := 0, proc := .exited }
  fetchParent := .initial
  para := startPara .empty batchSize
  window := { db := .empty, proc := .next 0 none, committedHeights := [] }

/-- The window loop finds the blocks that it waits for. -/
def windowReady (genesis : Genesis) (walkers : Walkers codec) : Bool :=
  (walkers.window.parentRead genesis).all walkers.fetchParent.store.pb &&
    walkers.window.paraRead.all walkers.fetchPara.store.stored

def step [DecidableEq Hash] (genesis : Genesis) (walkers : Walkers codec) :
    WalkersEvent Hash → Option (Walkers codec)
  | .fetchPara event =>
      (walkers.fetchPara.step
        (event.resume walkers.para.db.getLastCommittedParaBlock)).map
          fun fetchPara => { walkers with fetchPara }
  | .fetchParent event =>
      (walkers.fetchParent.step (walkers.window.db.parentStartNum genesis)
        event).map fun fetchParent => { walkers with fetchParent }
  | .para blocks =>
      if walkers.para.para.reads.all walkers.fetchPara.store.stored then
        some { walkers with para := paraStep blocks walkers.para }
      else
        none
  | .batch blocks =>
      if walkers.para.batch.reads.all walkers.fetchPara.store.stored then
        (batchStep blocks walkers.para).map fun para => { walkers with para }
      else
        none
  | .window blocks =>
      if walkers.windowReady genesis then
        some { walkers with
          window := walkStep { blocks with genesis } walkers.window }
      else
        none
  | .startMakeBlob batchSize =>
      some { walkers with
        para := startPara walkers.para.db batchSize
        window := { walkers.window with proc := .next 0 none } }

end Walkers

def walkersMachine [DecidableEq Hash] (codec : HeaderCodec Hash)
    (genesis : Genesis) (batchSize : Option Nat) :
    Machine (Walkers codec) (WalkersEvent Hash) where
  start := .initial codec batchSize
  step := Walkers.step genesis

/-- The loops of `make_blob` that handle para blocks stay below `stop`. -/
structure ParaWithin (stop : Nat) (state : ParaState) : Prop where
  cursor : ∀ cursor, state.db.lastCommittedParaBlock = some cursor →
    cursor < stop
  batchCursor : ∀ cursor, state.db.lastCommittedParaBlockBatch = some cursor →
    cursor < stop
  write : ∀ number, state.para = .write number → number < stop
  commit : ∀ number, state.para = .commit number → number < stop
  batchCommit : ∀ last size, state.batch = .commit last size → last < stop

/-- The relay blocks up to `parentStop` and the para blocks up to `paraStop`
are stored, and no walker is ahead of them. -/
structure WalkersOk (genesis : Genesis) (walkers : Walkers codec)
    (parentStop paraStop : Nat) : Prop where
  fetchPara : FetcherOk walkers.fetchPara paraStop
  fetchParent :
    ParentFetcherOk walkers.fetchParent genesis.parentNumber parentStop
  para : ParaWithin paraStop walkers.para
  window : WalkWithin genesis.parentNumber parentStop walkers.window

variable {genesis : Genesis} {walkers after : Walkers codec}
  {parentStop paraStop stop stored : Nat} {state : ParaState}
  {event : WalkersEvent Hash}

theorem ParaWithin.mono (h : ParaWithin stop state) (hle : stop ≤ stored) :
    ParaWithin stored state where
  cursor := fun cursor hcursor =>
    Nat.lt_of_lt_of_le (h.cursor cursor hcursor) hle
  batchCursor := fun cursor hcursor =>
    Nat.lt_of_lt_of_le (h.batchCursor cursor hcursor) hle
  write := fun number hproc => Nat.lt_of_lt_of_le (h.write number hproc) hle
  commit := fun number hproc => Nat.lt_of_lt_of_le (h.commit number hproc) hle
  batchCommit := fun last size hproc =>
    Nat.lt_of_lt_of_le (h.batchCommit last size hproc) hle

theorem ParaWithin.start (h : ParaWithin stop state) (batchSize : Option Nat) :
    ParaWithin stop (startPara state.db batchSize) where
  cursor := h.cursor
  batchCursor := h.batchCursor
  write := nofun
  commit := nofun
  batchCommit := by
    cases batchSize with
    | none => exact nofun
    | some size => exact nofun

theorem ParaWithin.paraStep {blocks : Chain} (h : ParaWithin stop state)
    (hreads : ∀ number ∈ state.para.reads, number < stop) :
    ParaWithin stop (DataProvider.paraStep blocks state) := by
  obtain ⟨db, para, batch⟩ := state
  cases para with
  | check number =>
      have hlt := hreads number List.mem_cons_self
      simp only [DataProvider.paraStep]
      split
      · refine { h with write := fun _ heq => by cases heq
                        commit := fun other heq => ?_ }
        cases heq
        exact hlt
      · refine { h with write := fun other heq => ?_
                        commit := fun _ heq => by cases heq }
        cases heq
        exact hlt
  | write number =>
      refine { h with write := fun _ heq => by cases heq
                      commit := fun other heq => ?_ }
      cases heq
      exact h.write number rfl
  | commit number =>
      have hlt := h.commit number rfl
      refine { h with cursor := fun cursor hcursor => ?_
                      write := fun _ heq => by cases heq
                      commit := fun _ heq => by cases heq }
      cases Option.some.inj hcursor
      omega

theorem ParaWithin.batchStep {blocks : Chain} {next : ParaState}
    (h : ParaWithin stop state)
    (hreads : ∀ number ∈ state.batch.reads, number < stop)
    (taken : DataProvider.batchStep blocks state = some next) :
    ParaWithin stop next := by
  obtain ⟨db, para, batch⟩ := state
  cases batch with
  | off => cases taken
  | write number size =>
      simp only [DataProvider.batchStep, Option.bind_eq_bind,
        Option.bind_eq_some_iff] at taken
      obtain ⟨written, hwritten, heq⟩ := taken
      cases heq
      obtain ⟨hcursor, hbatchCursor⟩ := setRangeParaBlockBuffer_cursors hwritten
      refine
        { cursor := by rw [hcursor]; exact h.cursor
          batchCursor := by rw [hbatchCursor]; exact h.batchCursor
          write := h.write
          commit := h.commit
          batchCommit := fun last other heq => ?_ }
      cases heq
      cases size with
      | zero => cases hwritten
      | succ size =>
          exact hreads _ (List.mem_range'_1.mpr (by omega))
  | commit last size =>
      cases taken
      refine { h with batchCursor := fun cursor heq => ?_
                      batchCommit := fun _ _ heq => by cases heq }
      cases Option.some.inj heq
      exact h.batchCommit last size rfl

/-- The relay blocks that the fetcher starts from are stored, but for the last
one. -/
theorem parentStartNum_within {db : WindowDb}
    (h : DbWithin genesis.parentNumber parentStop db)
    (hle : genesis.parentNumber ≤ parentStop) :
    (genesis.parentNumber : Int) ≤ db.parentStartNum genesis ∧
      db.parentStartNum genesis ≤ parentStop := by
  unfold WindowDb.parentStartNum
  split
  · next number hnumber =>
      have := h.cursor number hnumber
      split
      · omega
      · omega
  · omega

theorem ParaStore.StoredTo.below {store : ParaStore} {number : Nat}
    (h : store.StoredTo stop) (hstored : store.stored number = true) :
    number < stop :=
  (h number).mp hstored

/-- What `make_blob` has written is a number of the interval. -/
theorem resumes_within [DecidableEq Hash] {resumed : FetchEvent Hash}
    (h : WalkersOk genesis walkers parentStop paraStop) :
    resumesStored walkers.fetchPara
      (resumed.resume walkers.para.db.getLastCommittedParaBlock) := by
  intro cursor target heq
  cases resumed with
  | restart other otherTarget =>
      cases heq
      cases hcursor : walkers.para.db.lastCommittedParaBlock with
      | none => exact Or.inl (by simp [ParaDb.getLastCommittedParaBlock, hcursor])
      | some number =>
          refine Or.inr ⟨number, ?_, ?_⟩
          · simp [ParaDb.getLastCommittedParaBlock, hcursor]
          · exact (h.fetchPara.stored number).mpr (h.para.cursor number hcursor)
  | updateParaTarget _ => cases heq
  | proceed => cases heq
  | blockHash _ => cases heq
  | header _ => cases heq
  | fail _ => cases heq

theorem walkersOk_window {blocks : Chain}
    (h : WalkersOk genesis walkers parentStop paraStop)
    (hready : walkers.windowReady genesis = true) :
    WalkWithin genesis.parentNumber parentStop
      (walkStep { blocks with genesis } walkers.window) := by
  refine walkWithin_step h.window rfl fun number hread => ?_
  simp only [Walkers.windowReady, Bool.and_eq_true] at hready
  have hstored := hready.1
  rw [hread] at hstored
  exact ((h.fetchParent.stored number).mp hstored).2

theorem walkersOk_step [DecidableEq Hash]
    (h : WalkersOk genesis walkers parentStop paraStop)
    (taken : walkers.step genesis event = some after) :
    ∃ parentStored paraStored,
      WalkersOk genesis after parentStored paraStored := by
  cases event with
  | fetchPara event =>
      obtain ⟨fetcher, htaken, rfl⟩ := Option.map_eq_some_iff.mp taken
      obtain ⟨stored, hle, hok⟩ :=
        fetcherOk_step h.fetchPara (resumes_within h) htaken
      exact ⟨parentStop, stored,
        { h with fetchPara := hok, para := h.para.mono hle }⟩
  | fetchParent event =>
      obtain ⟨fetcher, htaken, rfl⟩ := Option.map_eq_some_iff.mp taken
      obtain ⟨stored, hle, hok⟩ := parentFetcherOk_step h.fetchParent
        (parentStartNum_within h.window.db h.fetchParent.ordered) htaken
      exact ⟨stored, paraStop,
        { h with fetchParent := hok, window := h.window.mono hle }⟩
  | para blocks =>
      simp only [Walkers.step] at taken
      split at taken
      · next hready =>
          cases taken
          refine ⟨parentStop, paraStop, { h with para := h.para.paraStep ?_ }⟩
          intro number hmem
          exact h.fetchPara.stored.below (List.all_eq_true.mp hready _ hmem)
      · cases taken
  | batch blocks =>
      simp only [Walkers.step] at taken
      split at taken
      · next hready =>
          obtain ⟨para, htaken, rfl⟩ := Option.map_eq_some_iff.mp taken
          refine ⟨parentStop, paraStop,
            { h with para := h.para.batchStep ?_ htaken }⟩
          intro number hmem
          exact h.fetchPara.stored.below (List.all_eq_true.mp hready _ hmem)
      · cases taken
  | window blocks =>
      simp only [Walkers.step] at taken
      split at taken
      · next hready =>
          cases taken
          exact ⟨parentStop, paraStop,
            { h with window := walkersOk_window h hready }⟩
      · cases taken
  | startMakeBlob batchSize =>
      cases taken
      exact ⟨parentStop, paraStop,
        { h with
          para := h.para.start batchSize
          window := { db := h.window.db, proc := nofun } }⟩

theorem walkersOk_reachable [DecidableEq Hash] {batchSize : Option Nat}
    (h : (walkersMachine codec genesis batchSize).Reachable walkers) :
    ∃ parentStop paraStop, WalkersOk genesis walkers parentStop paraStop := by
  have hpreserved : (walkersMachine codec genesis batchSize).Preserves
      Machine.anyEvent fun walkers => ∃ parentStop paraStop,
        WalkersOk genesis walkers parentStop paraStop := by
    rintro before event after - ⟨parentStop, paraStop, hok⟩ taken
    exact walkersOk_step hok taken
  refine hpreserved.reaches ⟨genesis.parentNumber, 0, ?_⟩ h
  exact
    { fetchPara :=
        { stored := fun number => by simp [walkersMachine, Walkers.initial, ParaStore.empty]
          linked := fun _ _ _ heq => by cases heq
          proc := True.intro }
      fetchParent := parentFetcherOk_initial genesis.parentNumber
      para :=
        { cursor := fun _ heq => by cases heq
          batchCursor := fun _ heq => by cases heq
          write := fun _ heq => by cases heq
          commit := fun _ heq => by cases heq
          batchCommit := by
            cases batchSize with
            | none => exact fun _ _ heq => by cases heq
            | some size => exact fun _ _ heq => by cases heq }
      window :=
        { db :=
            { opens := fun _ _ heq => by cases heq
              closes := fun _ _ heq => by cases heq
              cursor := fun _ heq => by cases heq }
          proc := fun _ heq => by cases heq } }

/-- The stored relay blocks are an interval from the genesis block on.  It
contains the cursor, and the fetcher resumes in it or right behind it. -/
def ParentsCovered (genesis : Genesis) (walkers : Walkers codec) : Prop :=
  ∃ stop, genesis.parentNumber ≤ stop ∧
    walkers.fetchParent.store.StoredFrom genesis.parentNumber stop ∧
    (∀ cursor, walkers.window.db.lastCommittedParentBlock = some cursor →
      (genesis.parentNumber : Int) ≤ cursor ∧ cursor < stop) ∧
    (genesis.parentNumber : Int) ≤ walkers.window.db.parentStartNum genesis ∧
    walkers.window.db.parentStartNum genesis ≤ stop

def ParasCovered (walkers : Walkers codec) : Prop :=
  ∃ stop, walkers.fetchPara.store.StoredTo stop ∧
    (∀ cursor, walkers.para.db.lastCommittedParaBlock = some cursor →
      cursor < stop) ∧
    (∀ cursor, walkers.para.db.lastCommittedParaBlockBatch = some cursor →
      cursor < stop) ∧
    walkers.para.db.getLastCommittedParaBlock ≤ stop

/-- Whatever the interleaving of the walkers and their restarts, no cursor runs
ahead of the block store. -/
theorem cursors_covered [DecidableEq Hash] (codec : HeaderCodec Hash)
    (genesis : Genesis) (batchSize : Option Nat) (walkers : Walkers codec)
    (h : (walkersMachine codec genesis batchSize).Reachable walkers) :
    ParentsCovered genesis walkers ∧ ParasCovered walkers := by
  obtain ⟨parentStop, paraStop, hok⟩ := walkersOk_reachable h
  constructor
  · have hordered := hok.fetchParent.ordered
    exact ⟨parentStop, hordered, hok.fetchParent.stored, hok.window.db.cursor,
      parentStartNum_within hok.window.db hordered⟩
  · refine ⟨paraStop, hok.fetchPara.stored, hok.para.cursor,
      hok.para.batchCursor, ?_⟩
    cases hcursor : walkers.para.db.lastCommittedParaBlock with
    | none => simp [ParaDb.getLastCommittedParaBlock, hcursor]
    | some cursor =>
        rw [ParaDb.getLastCommittedParaBlock, hcursor, Option.getD_some]
        exact Nat.le_of_lt (hok.para.cursor cursor hcursor)

end

def fetchesTwoParas : List (FetchEvent Bytes) :=
  [.restart 0 1, .proceed, .proceed, .blockHash [5], .header [5], .proceed,
    .proceed, .proceed, .proceed, .proceed, .blockHash [7, 5], .header [7, 5],
    .proceed, .proceed]

def fetchesFiveParents : List ParentEvent :=
  .restart 4 :: List.replicate 25 .proceed

/-- The loops close two windows and one para block, and the relay fetcher is
started again. -/
def closesTwoWindows : List (WalkersEvent Bytes) :=
  List.flatten
    [fetchesTwoParas.map .fetchPara, fetchesFiveParents.map .fetchParent,
      List.replicate 16 (.window (.setsEvery 2)),
      List.replicate 3 (.para (.setsEvery 2)),
      [.fetchParent (.restart 9), .fetchParent .proceed]]

theorem cursors_covered_resumed :
    let walkers := (walkersMachine nestedHeaders
      { paraNumber := 0, parentNumber := 0 } none).ended closesTwoWindows
    walkers.window.db.lastCommittedParentBlock = some 2 ∧
      walkers.fetchParent.proc = .existance { number := 2, retries := 0 } ∧
      ParentsCovered { paraNumber := 0, parentNumber := 0 } walkers ∧
      ParasCovered walkers :=
  ⟨rfl, rfl, cursors_covered nestedHeaders _ none _
    (Machine.reachable_ended rfl)⟩

end RuntimeBridge.DataProvider
