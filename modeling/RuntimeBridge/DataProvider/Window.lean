import RuntimeBridge.DataProvider.Block
import RuntimeBridge.Library.Update

/-! The window records, the range records and the two writers of
`data_provider/io/window.js`.  Each key family of the database is one map, and
a batch write is one update of the whole database.  The types library encodes
injectively, so a request is stored as itself. -/

namespace RuntimeBridge.DataProvider

open Library

/-- `-1` stands for a number that is not known yet. -/
structure Window where
  windowId : Nat
  parentStartBlock : Nat
  parentStopBlock : Int
  paraStartBlock : Nat
  paraStopBlock : Int
  stopBlock : Int
  setId : Int
  isFinished : Bool
  deriving DecidableEq, Repr

/-- The suffix of the keys `drySyncHeader:`, `rangeWritten:`, `blobRange:` and
`blobRangeCommitted:`. -/
structure RangeKey where
  parentStartBlock : Nat
  parentStopBlock : Int
  paraStartBlock : Int
  paraStopBlock : Int
  deriving DecidableEq, Repr

structure RangeMeta where
  parentStartBlock : Nat
  parentStopBlock : Nat
  paraStartBlock : Int
  paraStopBlock : Int
  parentRange : List Nat
  paraRange : List Nat
  drySyncHeaderReqKey : RangeKey
  latestSetId : Nat
  blobParentStopBlock : Option Int := none
  blobParaStopBlock : Option Int := none
  blobSyncHeaderReqKey : Option RangeKey := none
  deriving DecidableEq, Repr

structure SyncCombinedHeadersReq where
  relaychainHeaders : List HeaderToSync
  authoritySetChange : Option Bytes
  parachainHeaders : List Bytes
  proof : List Bytes
  deriving DecidableEq

structure WindowDb where
  window : Nat → Option Window
  rangeByParentBlock : Nat → Option RangeMeta
  rangeByParaBlock : Nat → Option RangeMeta
  drySyncHeader : RangeKey → Option SyncCombinedHeadersReq
  rangeWritten : RangeKey → Bool
  blobRange : RangeKey → Option SyncCombinedHeadersReq
  blobRangeCommitted : RangeKey → Bool
  lastCommittedParentBlock : Option Int

def WindowDb.empty : WindowDb where
  window _ := none
  rangeByParentBlock _ := none
  rangeByParaBlock _ := none
  drySyncHeader _ := none
  rangeWritten _ := false
  blobRange _ := none
  blobRangeCommitted _ := false
  lastCommittedParentBlock := none

namespace WindowDb

def getWindow (db : WindowDb) (windowId : Nat) : Option Window :=
  db.window windowId

/-- `createWindow`, and `updateWindow` once the changes are assigned. -/
def putWindow (db : WindowDb) (window : Window) : WindowDb :=
  { db with window := Function.update db.window window.windowId (some window) }

def emptyWindow (windowId parentStartBlock paraStartBlock : Nat) : Window where
  windowId
  parentStartBlock
  parentStopBlock := -1
  paraStartBlock
  paraStopBlock := -1
  stopBlock := -1
  setId := -1
  isFinished := false

def setLastCommittedParentBlock (db : WindowDb) (number : Int) : WindowDb :=
  { db with lastCommittedParentBlock := some number }

def paraStopOf (paraBlocks : List ParaBlock) : Int :=
  match paraBlocks.getLast? with
  | some block => block.number
  | none => -1

def dryRangeKey (parentStartBlock : Nat) (paraStartBlock : Int)
    (paraBlocks : List ParaBlock) (parentStop : ParentBlock) : RangeKey where
  parentStartBlock
  parentStopBlock := parentStop.number
  paraStartBlock
  paraStopBlock := paraStopOf paraBlocks

def dryRangeMeta (parentStartBlock : Nat) (paraStartBlock : Int)
    (paraBlocks : List ParaBlock) (parentBlocks : List ParentBlock)
    (parentStop : ParentBlock) (latestSetId : Nat) : RangeMeta where
  parentStartBlock
  parentStopBlock := parentStop.number
  paraStartBlock
  paraStopBlock := paraStopOf paraBlocks
  parentRange := parentBlocks.map (·.number)
  paraRange := paraBlocks.map (·.number)
  drySyncHeaderReqKey :=
    dryRangeKey parentStartBlock paraStartBlock paraBlocks parentStop
  latestSetId

def drySyncHeaderReq (paraBlocks : List ParaBlock)
    (parentBlocks : List ParentBlock) (parentStop : ParentBlock)
    (setIdChanged : Bool) : SyncCombinedHeadersReq where
  relaychainHeaders := parentBlocks.map (·.syncHeaderData)
  authoritySetChange :=
    if setIdChanged then parentStop.authoritySetChange else none
  parachainHeaders := paraBlocks.map (·.header)
  proof := if paraBlocks.isEmpty then [] else parentStop.paraProof

/-- `setDryRange`: one existence check, then one batch.  An empty block list has
no last element and the call throws. -/
def setDryRange (db : WindowDb) (parentStartBlock : Nat)
    (paraStartBlock : Int) (paraBlocks : List ParaBlock)
    (parentBlocks : List ParentBlock) (latestSetId : Nat)
    (setIdChanged : Bool) : Option WindowDb := do
  let parentStop ← parentBlocks.getLast?
  let key := dryRangeKey parentStartBlock paraStartBlock paraBlocks parentStop
  let rangeMeta := dryRangeMeta parentStartBlock paraStartBlock paraBlocks
    parentBlocks parentStop latestSetId
  if db.rangeWritten key then
    return db
  return { db with
    drySyncHeader := Function.update db.drySyncHeader key
      (some (drySyncHeaderReq paraBlocks parentBlocks parentStop setIdChanged))
    rangeByParentBlock :=
      Function.update db.rangeByParentBlock parentStartBlock (some rangeMeta)
    -- The second index is written under the parent number as well.
    rangeByParaBlock :=
      Function.update db.rangeByParaBlock parentStartBlock (some rangeMeta)
    rangeWritten := Function.update db.rangeWritten key true }

def blobRangeKey (window : Window) (paraBlocks : List ParaBlock) : RangeKey where
  parentStartBlock := window.parentStartBlock
  parentStopBlock := window.parentStopBlock
  paraStartBlock := if paraBlocks.isEmpty then -1 else window.paraStartBlock
  paraStopBlock := if paraBlocks.isEmpty then -1 else window.paraStopBlock

def blobRelaychainHeaders : List ParentBlock → List HeaderToSync
  | [] => []
  | [last] => [last.syncHeaderData]
  | block :: next :: rest =>
      { header := block.header, justification := none } ::
        blobRelaychainHeaders (next :: rest)

def blobSyncHeaderReq (paraBlocks : List ParaBlock)
    (parentBlocks : List ParentBlock) (parentStop : ParentBlock) :
    SyncCombinedHeadersReq where
  relaychainHeaders := blobRelaychainHeaders parentBlocks
  authoritySetChange := parentStop.authoritySetChange
  parachainHeaders := paraBlocks.map (·.header)
  proof := parentStop.paraProof

def pointToBlob (key : RangeKey) (rangeMeta : RangeMeta) : RangeMeta :=
  { rangeMeta with
    blobParentStopBlock := some key.parentStopBlock
    blobParaStopBlock := some key.paraStopBlock
    blobSyncHeaderReqKey := some key }

/-- One pass of the loop of `commitBlobRange`.  `ranges` is the database as it
was before the batch. -/
def pointRange (ranges : Nat → Option RangeMeta) (key : RangeKey)
    (batch : Nat → Option RangeMeta) (block : ParentBlock) :
    Nat → Option RangeMeta :=
  match ranges block.number with
  | some rangeMeta =>
      Function.update batch block.number (some (pointToBlob key rangeMeta))
  | none => batch

def pointRanges (ranges : Nat → Option RangeMeta) (key : RangeKey)
    (parentBlocks : List ParentBlock) : Nat → Option RangeMeta :=
  parentBlocks.foldl (pointRange ranges key) ranges

/-- The batch of `commitBlobRange`, unless the window is marked committed. -/
def commitBlobRange (db : WindowDb) (window : Window)
    (paraBlocks : List ParaBlock) (parentBlocks : List ParentBlock) :
    Option WindowDb := do
  let key := blobRangeKey window paraBlocks
  if db.blobRangeCommitted key then
    return db
  let parentStop ← parentBlocks.getLast?
  return { db with
    rangeByParentBlock := pointRanges db.rangeByParentBlock key parentBlocks
    blobRange := Function.update db.blobRange key
      (some (blobSyncHeaderReq paraBlocks parentBlocks parentStop)) }

/-- The write of `commitBlobRange` that follows its batch. -/
def markBlobRange (db : WindowDb) (key : RangeKey) : WindowDb :=
  { db with
    blobRangeCommitted := Function.update db.blobRangeCommitted key true }

variable {db written : WindowDb} {window : Window}
  {paraBlocks : List ParaBlock} {parentBlocks : List ParentBlock}

/-- Neither batch touches a window or the cursor. -/
theorem setDryRange_frame {parentStartBlock latestSetId : Nat}
    {paraStartBlock : Int} {changed : Bool}
    (h : db.setDryRange parentStartBlock paraStartBlock paraBlocks
      parentBlocks latestSetId changed = some written) :
    written.window = db.window ∧
      written.lastCommittedParentBlock = db.lastCommittedParentBlock := by
  simp only [setDryRange, Option.bind_eq_bind, Option.bind_eq_some_iff] at h
  obtain ⟨parentStop, -, hwritten⟩ := h
  split at hwritten
  · cases hwritten
    exact ⟨rfl, rfl⟩
  · cases hwritten
    exact ⟨rfl, rfl⟩

theorem commitBlobRange_frame
    (h : db.commitBlobRange window paraBlocks parentBlocks = some written) :
    written.window = db.window ∧
      written.lastCommittedParentBlock = db.lastCommittedParentBlock := by
  simp only [commitBlobRange] at h
  split at h
  · cases h
    exact ⟨rfl, rfl⟩
  · simp only [Option.bind_eq_bind, Option.bind_eq_some_iff] at h
    obtain ⟨parentStop, -, hwritten⟩ := h
    cases hwritten
    exact ⟨rfl, rfl⟩

end WindowDb

variable {db : WindowDb} {window other : Window} {id : Nat}

theorem putWindow_self (window : Window) :
    (db.putWindow window).window window.windowId = some window := by
  simp [WindowDb.putWindow]

theorem putWindow_of_ne (h : id ≠ window.windowId) :
    (db.putWindow window).window id = db.window id := by
  simp [WindowDb.putWindow, h]

theorem putWindow_cases
    (h : (db.putWindow window).window id = some other) :
    id = window.windowId ∧ other = window ∨ db.window id = some other := by
  rcases update_some_cases h with ⟨hid, hnew⟩ | ⟨-, hold⟩
  · exact Or.inl ⟨hid, (Option.some.inj hnew).symm⟩
  · exact Or.inr hold

end RuntimeBridge.DataProvider
