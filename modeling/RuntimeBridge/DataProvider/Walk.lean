import RuntimeBridge.DataProvider.Window
import RuntimeBridge.Library.Machine

/-! The window loop of `make_blob`: `walkWindow` and the recursion of
`walkBlock`, cut at the database writes.  Every step performs at most one
write, so a crash between two steps is a crash between two writes. -/

namespace RuntimeBridge.DataProvider

open Library

structure Context where
  parentStartBlock : Nat
  paraStartBlock : Nat
  paraBlocks : List ParaBlock
  parentBlocks : List ParentBlock
  accParaBlocks : List ParaBlock
  accParentBlocks : List ParentBlock

def Context.start (parentStartBlock paraStartBlock : Nat) : Context where
  parentStartBlock
  paraStartBlock
  paraBlocks := []
  parentBlocks := []
  accParaBlocks := []
  accParentBlocks := []

/-- The arguments of one call of `walkBlock`. -/
structure Walk where
  currentWindow : Window
  parentNumber : Nat
  paraNumber : Nat
  context : Context
  lastParentBlock : Option ParentBlock

/-- A call of `walkBlock` past its justification branch. -/
structure Visit where
  currentWindow : Window
  currParentBlock : ParentBlock
  currParaBlock : ParaBlock
  paraNumberMatched : Bool
  context : Context
  nextContext : Context
  lastParentBlock : Option ParentBlock

inductive Proc where
  | next (windowId : Nat) (lastWindow : Option Window)
  | block (walk : Walk)
  | visited (visit : Visit)
  /-- `commitBlobRange` has written its batch. -/
  | mark (window : Window) (key : RangeKey)
  | close (window : Window)
  /-- `walkBlock` has returned. -/
  | commit (window : Window)
  | exited

structure WalkState where
  db : WindowDb
  proc : Proc
  /-- Heights sent as `setParentCommittedHeight`, oldest first. -/
  committedHeights : List Int

/-- `currParentBlock.setId > lastParentBlock?.setId`; a comparison with
`undefined` is false. -/
def setIdChanged (currParentBlock : ParentBlock)
    (lastParentBlock : Option ParentBlock) : Bool :=
  match lastParentBlock with
  | some last => decide (last.setId < currParentBlock.setId)
  | none => false

/-- `setDryRange` of `blob.js`. -/
def Context.setDryRange (context : Context) (db : WindowDb)
    (latestSetId : Nat) (setIdChanged : Bool) : Option WindowDb :=
  db.setDryRange context.parentStartBlock
    (if context.paraBlocks.isEmpty then -1 else context.paraStartBlock)
    context.paraBlocks context.parentBlocks latestSetId setIdChanged

def Context.push (context : Context) (currParentBlock : ParentBlock)
    (currParaBlock : ParaBlock) : Context :=
  let withParent : Context := { context with
    parentBlocks := context.parentBlocks ++ [currParentBlock]
    accParentBlocks := context.accParentBlocks ++ [currParentBlock] }
  if currParaBlock.number = currParentBlock.paraNumber then
    { withParent with
      paraBlocks := context.paraBlocks ++ [currParaBlock]
      accParaBlocks := context.accParaBlocks ++ [currParaBlock] }
  else
    withParent

def Context.reset (context : Context) (parentStartBlock paraStartBlock : Nat) :
    Context :=
  { context with
    parentStartBlock
    paraStartBlock
    paraBlocks := []
    parentBlocks := [] }

/-- The fields `walkBlock` assigns when the authority set changes. -/
def closeWindow (visit : Visit) : Option Window := do
  let parentStop ← visit.context.parentBlocks.getLast?
  return { visit.currentWindow with
    parentStopBlock := parentStop.number
    paraStopBlock :=
      if visit.currentWindow.paraStartBlock = visit.currParaBlock.number then
        visit.currentWindow.paraStartBlock
      else if visit.paraNumberMatched then
        visit.currParaBlock.number
      else
        (visit.currParaBlock.number : Int) - 1
    isFinished := true }

def Visit.recur (visit : Visit) (currentWindow : Window) : Walk where
  currentWindow
  parentNumber := visit.currParentBlock.number + 1
  paraNumber :=
    if visit.paraNumberMatched then visit.currParaBlock.number + 1
    else visit.currParaBlock.number
  context := visit.nextContext
  lastParentBlock := some visit.currParentBlock

/-- The start of `walkBlock`, up to and including its `setDryRange`. -/
def visitBlock (chain : Chain) (db : WindowDb) (walk : Walk) :
    Option (WindowDb × Visit) := do
  let currParentBlock := chain.parent walk.parentNumber
  let currParaBlock := chain.para walk.paraNumber
  let paraNumberMatched :=
    decide (currParaBlock.number = currParentBlock.paraNumber)
  let context := walk.context.push currParentBlock currParaBlock
  let visit : Visit :=
    { currentWindow := walk.currentWindow
      currParentBlock
      currParaBlock
      paraNumberMatched
      context
      nextContext := context
      lastParentBlock := walk.lastParentBlock }
  if currParentBlock.hasJustification then
    let written ← context.setDryRange db currParentBlock.setId
      (setIdChanged currParentBlock walk.lastParentBlock)
    return (written, { visit with
      nextContext := context.reset (currParentBlock.number + 1)
        (if paraNumberMatched then currParaBlock.number + 1
          else currParaBlock.number) })
  else
    return (db, visit)

/-- The rest of `walkBlock`, up to its next write. -/
def finishVisit (db : WindowDb) (visit : Visit) : Option (WindowDb × Proc) := do
  if setIdChanged visit.currParentBlock visit.lastParentBlock then
    let window ← closeWindow visit
    let key := WindowDb.blobRangeKey window visit.context.accParaBlocks
    let written ← db.commitBlobRange window visit.context.accParaBlocks
      visit.context.accParentBlocks
    if db.blobRangeCommitted key then
      return (written, .close window)
    else
      return (written, .mark window key)
  else if visit.currentWindow.setId = -1 then
    let window :=
      { visit.currentWindow with setId := visit.currParentBlock.setId }
    return (db.putWindow window, .block (visit.recur window))
  else
    return (db, .block (visit.recur visit.currentWindow))

def startWalk (window : Window) (lastParentBlock : Option ParentBlock) : Proc :=
  .block
    { currentWindow := window
      parentNumber := window.parentStartBlock
      paraNumber := window.paraStartBlock
      context := Context.start window.parentStartBlock window.paraStartBlock
      lastParentBlock }

/-- Where window `windowId` starts when it is not stored yet.  Only the first
window looks at the block before its start. -/
def firstBlocks (chain : Chain) (windowId : Nat) (lastWindow : Option Window) :
    Option (Nat × Nat × Option ParentBlock) :=
  match windowId, lastWindow with
  | 0, _ =>
      some (chain.genesis.parentNumber + 1, chain.genesis.paraNumber + 1,
        some (chain.parent chain.genesis.parentNumber))
  | _ + 1, some last =>
      some ((last.parentStopBlock + 1).toNat,
        (if (last.paraStartBlock : Int) = last.paraStopBlock then
          last.paraStopBlock
        else
          last.paraStopBlock + 1).toNat,
        none)
  | _ + 1, none => none

/-- The start of `walkWindow`, up to its first write. -/
def walkWindow (chain : Chain) (state : WalkState) (windowId : Nat)
    (lastWindow : Option Window) : Option WalkState :=
  match state.db.getWindow windowId with
  | some window =>
      if window.isFinished then
        some { state with
          proc := .next (windowId + 1) (some window)
          committedHeights :=
            if 0 < window.parentStopBlock then
              state.committedHeights ++ [(window.parentStartBlock : Int)]
            else
              state.committedHeights }
      else
        some { state with
          proc := startWalk window none
          committedHeights := state.committedHeights ++
            [(window.parentStartBlock : Int) - 1] }
  | none => do
      let (parentStartBlock, paraStartBlock, lastParentBlock) ←
        firstBlocks chain windowId lastWindow
      let window :=
        WindowDb.emptyWindow windowId parentStartBlock paraStartBlock
      return { state with
        db := state.db.putWindow window
        proc := startWalk window lastParentBlock }

/-- One step of the loop.  An exception ends the process. -/
def walkStep (chain : Chain) (state : WalkState) : WalkState :=
  match state.proc with
  | .next windowId lastWindow =>
      (walkWindow chain state windowId lastWindow).getD
        { state with proc := .exited }
  | .block walk =>
      match visitBlock chain state.db walk with
      | some (db, visit) => { state with db, proc := .visited visit }
      | none => { state with proc := .exited }
  | .visited visit =>
      match finishVisit state.db visit with
      | some (db, proc) => { state with db, proc }
      | none => { state with proc := .exited }
  | .mark window key =>
      { state with db := state.db.markBlobRange key, proc := .close window }
  | .close window =>
      { state with db := state.db.putWindow window, proc := .commit window }
  | .commit window =>
      let height := (window.parentStartBlock : Int) - 1
      { db := state.db.setLastCommittedParentBlock height
        proc := .next (window.windowId + 1) (some window)
        committedHeights := state.committedHeights ++ [height] }
  | .exited => state

inductive WalkEvent where
  | proceed
  | crash
  deriving DecidableEq

def walkMachine (chain : Chain) : Machine WalkState WalkEvent where
  start := { db := .empty, proc := .next 0 none, committedHeights := [] }
  step state
    | .proceed => some (walkStep chain state)
    | .crash => some { state with proc := .next 0 none }

def uninterrupted (_ : WalkState) (event : WalkEvent) : Prop :=
  event = .proceed

variable {chain : Chain} {db written : WindowDb} {walk : Walk} {visit : Visit}

theorem visitBlock_frame
    (h : visitBlock chain db walk = some (written, visit)) :
    written.window = db.window ∧
      written.lastCommittedParentBlock = db.lastCommittedParentBlock := by
  simp only [visitBlock] at h
  split at h
  · simp only [Option.bind_eq_bind, Option.bind_eq_some_iff] at h
    obtain ⟨after, hafter, hvisit⟩ := h
    cases hvisit
    exact WindowDb.setDryRange_frame hafter
  · cases h
    exact ⟨rfl, rfl⟩

theorem visitBlock_visit
    (h : visitBlock chain db walk = some (written, visit)) :
    visit.currentWindow = walk.currentWindow ∧
      visit.currParentBlock = chain.parent walk.parentNumber ∧
      visit.lastParentBlock = walk.lastParentBlock ∧
      visit.context = walk.context.push (chain.parent walk.parentNumber)
        (chain.para walk.paraNumber) := by
  simp only [visitBlock] at h
  split at h
  · simp only [Option.bind_eq_bind, Option.bind_eq_some_iff] at h
    obtain ⟨after, -, hvisit⟩ := h
    cases hvisit
    exact ⟨rfl, rfl, rfl, rfl⟩
  · cases h
    exact ⟨rfl, rfl, rfl, rfl⟩

end RuntimeBridge.DataProvider
