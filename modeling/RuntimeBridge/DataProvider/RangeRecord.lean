import RuntimeBridge.DataProvider.Segment

/-! What the writers of `window.js` store, said in terms of the origin of the
window and the blocks that bound the range. -/

namespace RuntimeBridge.DataProvider

namespace Chain

variable (chain : Chain) (origin : Origin)

/-- The context of a walk that has reached `number` inside the range begun at
`first`. -/
def contextAt (first number : Nat) : Context where
  parentStartBlock := first
  paraStartBlock := chain.cursor origin first
  paraBlocks := chain.packed origin first number
  parentBlocks := chain.parents first number
  accParaBlocks := chain.packed origin origin.parentStart number
  accParentBlocks := chain.parents origin.parentStart number

def rangeParaStart (first stop : Nat) : Int :=
  if (chain.packed origin first (stop + 1)).isEmpty then -1
  else chain.cursor origin first

def rangeKey (first stop : Nat) : RangeKey :=
  WindowDb.dryRangeKey first (chain.rangeParaStart origin first stop)
    (chain.packed origin first (stop + 1)) (chain.parent stop)

def rangeMeta (first stop : Nat) : RangeMeta :=
  WindowDb.dryRangeMeta first (chain.rangeParaStart origin first stop)
    (chain.packed origin first (stop + 1)) (chain.parents first (stop + 1))
    (chain.parent stop) (chain.parent stop).setId

def rangeReq (first stop : Nat) (changed : Bool) : SyncCombinedHeadersReq :=
  WindowDb.drySyncHeaderReq (chain.packed origin first (stop + 1))
    (chain.parents first (stop + 1)) (chain.parent stop) changed

/-- The batch of `setDryRange`. -/
def writeRange (db : WindowDb) (first stop : Nat) (changed : Bool) :
    WindowDb :=
  { db with
    drySyncHeader := Function.update db.drySyncHeader
      (chain.rangeKey origin first stop)
      (some (chain.rangeReq origin first stop changed))
    rangeByParentBlock := Function.update db.rangeByParentBlock first
      (some (chain.rangeMeta origin first stop))
    rangeByParaBlock := Function.update db.rangeByParaBlock first
      (some (chain.rangeMeta origin first stop))
    rangeWritten := Function.update db.rangeWritten
      (chain.rangeKey origin first stop) true }

/-- `paraStopBlock` of a window that stops at `stop`. -/
def closingPara (stop : Nat) : Int :=
  if chain.cursor origin stop = origin.paraStart then origin.paraStart
  else (chain.cursor origin (stop + 1) : Int) - 1

def blobParas (stop : Nat) : List ParaBlock :=
  chain.packed origin origin.parentStart (stop + 1)

def blobKey (stop : Nat) : RangeKey where
  parentStartBlock := origin.parentStart
  parentStopBlock := stop
  paraStartBlock :=
    if (chain.blobParas origin stop).isEmpty then -1 else origin.paraStart
  paraStopBlock :=
    if (chain.blobParas origin stop).isEmpty then -1
    else chain.closingPara origin stop

def blobReq (stop : Nat) : SyncCombinedHeadersReq :=
  WindowDb.blobSyncHeaderReq (chain.blobParas origin stop)
    (chain.parents origin.parentStart (stop + 1)) (chain.parent stop)

/-- The batch of `commitBlobRange`. -/
def writeBlob (db : WindowDb) (stop : Nat) : WindowDb :=
  { db with
    rangeByParentBlock := WindowDb.pointRanges db.rangeByParentBlock
      (chain.blobKey origin stop)
      (chain.parents origin.parentStart (stop + 1))
    blobRange := Function.update db.blobRange (chain.blobKey origin stop)
      (some (chain.blobReq origin stop)) }

variable {chain origin} {first number stop : Nat} {db : WindowDb}

theorem contextAt_start :
    chain.contextAt origin origin.parentStart origin.parentStart =
      Context.start origin.parentStart origin.paraStart := by
  simp [contextAt, Context.start, cursor_of_le (Nat.le_refl _)]

theorem push_contextAt (h : chain.OpenRange origin first number) :
    (chain.contextAt origin first number).push (chain.parent number)
        (chain.para (chain.cursor origin number)) =
      chain.contextAt origin first (number + 1) := by
  have hstart : origin.parentStart ≤ number :=
    Nat.le_trans h.start_le h.ordered
  simp only [Context.push, contextAt, chain.para_number,
    parents_succ h.ordered, parents_succ hstart, packed_succ hstart h.ordered,
    packed_succ hstart hstart]
  by_cases hmatch : chain.cursor origin number =
      (chain.parent number).paraNumber
  · rw [if_pos hmatch, if_pos hmatch.symm]
  · rw [if_neg hmatch, if_neg (Ne.symm hmatch), List.append_nil,
      List.append_nil]

theorem reset_contextAt (first number : Nat) :
    (chain.contextAt origin first number).reset number
        (chain.cursor origin number) =
      chain.contextAt origin number number := by
  simp [contextAt, Context.reset]

theorem next_paraNumber (hstart : origin.parentStart ≤ number) :
    (if decide ((chain.para (chain.cursor origin number)).number =
        (chain.parent number).paraNumber) = true
      then (chain.para (chain.cursor origin number)).number + 1
      else (chain.para (chain.cursor origin number)).number) =
      chain.cursor origin (number + 1) := by
  rw [chain.para_number, cursor_succ hstart, advance]
  by_cases h : chain.cursor origin number = (chain.parent number).paraNumber
  · simp [h]
  · simp [h, Ne.symm h]

theorem setDryRange_contextAt (h : first ≤ stop) (changed : Bool) :
    (chain.contextAt origin first (stop + 1)).setDryRange db
        (chain.parent stop).setId changed =
      some (if db.rangeWritten (chain.rangeKey origin first stop) then db
        else chain.writeRange origin db first stop changed) := by
  simp only [Context.setDryRange, WindowDb.setDryRange, contextAt,
    parents_getLast? h, Option.bind_eq_bind, Option.bind_some]
  change (if db.rangeWritten (chain.rangeKey origin first stop) then _
    else _) = _
  split
  · rfl
  · rfl

theorem blobRangeKey_closed {window : Window}
    (hparent : window.parentStopBlock = stop)
    (hpara : window.paraStopBlock = chain.closingPara window.origin stop) :
    WindowDb.blobRangeKey window (chain.blobParas window.origin stop) =
      chain.blobKey window.origin stop := by
  simp only [WindowDb.blobRangeKey, blobKey, hparent, hpara]
  rfl

theorem commitBlobRange_closed {window : Window}
    (hparent : window.parentStopBlock = stop)
    (hpara : window.paraStopBlock = chain.closingPara window.origin stop)
    (h : window.parentStartBlock ≤ stop) :
    db.commitBlobRange window (chain.blobParas window.origin stop)
        (chain.parents window.parentStartBlock (stop + 1)) =
      some (if db.blobRangeCommitted (chain.blobKey window.origin stop) then db
        else chain.writeBlob window.origin db stop) := by
  simp only [WindowDb.commitBlobRange, blobRangeKey_closed hparent hpara,
    parents_getLast? h, Option.bind_eq_bind, Option.bind_some]
  split
  · rfl
  · rfl

@[simp] theorem rangeKey_parentStart (first stop : Nat) :
    (chain.rangeKey origin first stop).parentStartBlock = first := rfl

@[simp] theorem rangeMeta_key (first stop : Nat) :
    (chain.rangeMeta origin first stop).drySyncHeaderReqKey =
      chain.rangeKey origin first stop := rfl

@[simp] theorem rangeMeta_stop (first stop : Nat) :
    (chain.rangeMeta origin first stop).parentStopBlock = stop :=
  chain.parent_number stop

theorem rangeMeta_parentRange (first stop : Nat) :
    (chain.rangeMeta origin first stop).parentRange =
      List.range' first (stop + 1 - first) :=
  parents_numbers first (stop + 1)

theorem rangeMeta_paraRange (first stop : Nat) :
    (chain.rangeMeta origin first stop).paraRange =
      List.range' (chain.cursor origin first)
        (chain.cursor origin (stop + 1) - chain.cursor origin first) :=
  packed_numbers first (stop + 1)

end Chain

namespace WindowDb

variable {ranges : Nat → Option RangeMeta} {key : RangeKey}

private theorem foldl_pointRanges (parentBlocks : List ParentBlock)
    (batch : Nat → Option RangeMeta) (number : Nat) :
    parentBlocks.foldl (pointRange ranges key) batch number =
      if number ∈ parentBlocks.map (·.number) ∧ (ranges number).isSome then
        (ranges number).map (pointToBlob key)
      else batch number := by
  induction parentBlocks generalizing batch with
  | nil => simp
  | cons block rest ih =>
      rw [List.foldl_cons, ih]
      by_cases hrest : number ∈ rest.map (·.number)
      · simp [hrest, pointRange]
        cases hstored : ranges number with
        | some rangeMeta => simp
        | none =>
            cases hblock : ranges block.number with
            | none => simp
            | some rangeMeta =>
                have hne : number ≠ block.number := by
                  rintro rfl
                  rw [hstored] at hblock
                  contradiction
                simp [hne]
      · by_cases heq : number = block.number
        · subst heq
          simp only [hrest, false_and, ite_false, List.map_cons,
            List.mem_cons, true_or, true_and, pointRange]
          cases hstored : ranges block.number <;> simp
        · have hcons : ¬ number ∈ (block :: rest).map (·.number) := by
            simpa [heq] using hrest
          simp only [hrest, hcons, false_and, ite_false, pointRange]
          cases ranges block.number <;> simp [heq]

/-- The loop touches exactly the stored records of the blocks it is given. -/
theorem pointRanges_apply (parentBlocks : List ParentBlock) (number : Nat) :
    pointRanges ranges key parentBlocks number =
      if number ∈ parentBlocks.map (·.number) then
        (ranges number).map (pointToBlob key)
      else ranges number := by
  rw [pointRanges, foldl_pointRanges]
  cases hstored : ranges number <;> simp

end WindowDb

namespace Chain

variable {chain : Chain} {origin : Origin} {stop : Nat} {db : WindowDb}

theorem writeBlob_range (number : Nat) :
    (chain.writeBlob origin db stop).rangeByParentBlock number =
      if origin.parentStart ≤ number ∧ number ≤ stop then
        (db.rangeByParentBlock number).map
          (WindowDb.pointToBlob (chain.blobKey origin stop))
      else db.rangeByParentBlock number := by
  simp only [writeBlob, WindowDb.pointRanges_apply, parents_numbers,
    List.mem_range'_1]
  congr 1
  apply propext
  omega

end Chain

end RuntimeBridge.DataProvider
