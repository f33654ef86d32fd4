import RuntimeBridge.DataProvider.Block
import RuntimeBridge.Library.Machine
import RuntimeBridge.Library.Update

/-! The two para loops of `make_blob`.  One stores para blocks one by one, the
other stores groups of them, and both write the index record of the first
block. -/

namespace RuntimeBridge.DataProvider

open Library

/-- The value of `rangeParaBlock:key:`.  A buffer key is named by the number
behind `rangeParaBlock:buffer:`. -/
structure ParaRangeIndex where
  bufferKey : Option Nat
  firstBlockNumber : Nat
  lastBlockNumber : Nat
  deriving DecidableEq, Repr

/-- A stored buffer is the list of the dispatch data it encodes. -/
structure ParaDb where
  dryParaBlock : Nat → Option (List Bytes)
  rangeParaBlockKey : Nat → Option ParaRangeIndex
  rangeParaBlockBuffer : Nat → Option (List Bytes)
  lastCommittedParaBlock : Option Nat
  lastCommittedParaBlockBatch : Option Nat

namespace ParaDb

def empty : ParaDb where
  dryParaBlock _ := none
  rangeParaBlockKey _ := none
  rangeParaBlockBuffer _ := none
  lastCommittedParaBlock := none
  lastCommittedParaBlockBatch := none

/-- The batch of `setDryParaBlockRange`, behind its existence check. -/
def setDryParaBlockRange (db : ParaDb) (block : ParaBlock) : ParaDb :=
  { db with
    dryParaBlock := Function.update db.dryParaBlock block.number
      (some [block.dispatchBlockData])
    rangeParaBlockKey := Function.update db.rangeParaBlockKey block.number
      (some
        { bufferKey := none
          firstBlockNumber := block.number
          lastBlockNumber := block.number }) }

/-- `setRangeParaBlockBuffer`; finding the buffer stored already only leaves a
log line.  An empty group has no first element and the call throws. -/
def setRangeParaBlockBuffer (db : ParaDb) (blocks : List ParaBlock) :
    Option ParaDb := do
  let firstBlock ← blocks.head?
  let lastBlock ← blocks.getLast?
  return { db with
    rangeParaBlockBuffer :=
      Function.update db.rangeParaBlockBuffer firstBlock.number
        (some (blocks.map (·.dispatchBlockData)))
    rangeParaBlockKey :=
      Function.update db.rangeParaBlockKey firstBlock.number
        (some
          { bufferKey := some firstBlock.number
            firstBlockNumber := firstBlock.number
            lastBlockNumber := lastBlock.number }) }

def setLastCommittedParaBlock (db : ParaDb) (number : Nat) : ParaDb :=
  { db with lastCommittedParaBlock := some number }

def setLastCommittedParaBlockBatch (db : ParaDb) (number : Nat) : ParaDb :=
  { db with lastCommittedParaBlockBatch := some number }

def getLastCommittedParaBlock (db : ParaDb) : Nat :=
  db.lastCommittedParaBlock.getD 0

def getLastCommittedParaBlockBatch (db : ParaDb) : Nat :=
  db.lastCommittedParaBlockBatch.getD 0

end ParaDb

/-- `walkParaBlock` between its awaits. -/
inductive ParaProc where
  | check (number : Nat)
  | write (number : Nat)
  | commit (number : Nat)
  deriving DecidableEq, Repr

/-- `walkParaBlockBatch` between its awaits.  It looks up `bufferKey` on a
promise, so it never returns early. -/
inductive BatchProc where
  | off
  | write (number size : Nat)
  | commit (lastBlockNumber size : Nat)
  deriving DecidableEq, Repr

structure ParaState where
  db : ParaDb
  para : ParaProc
  batch : BatchProc

/-- The process starts both loops from their cursors.  `batchSize` is absent
when batch sync is not enabled. -/
def startPara (db : ParaDb) (batchSize : Option Nat) : ParaState where
  db
  para := .check (db.getLastCommittedParaBlock + 1)
  batch :=
    match batchSize with
    | some size => .write (db.getLastCommittedParaBlockBatch + 1) size
    | none => .off

def paraStep (chain : Chain) (state : ParaState) : ParaState :=
  match state.para with
  | .check number =>
      if (state.db.dryParaBlock number).isSome then
        { state with para := .commit number }
      else
        { state with para := .write number }
  | .write number =>
      { state with
        db := state.db.setDryParaBlockRange (chain.para number)
        para := .commit number }
  | .commit number =>
      { state with
        db := state.db.setLastCommittedParaBlock (number - 1)
        para := .check (number + 1) }

def batchStep (chain : Chain) (state : ParaState) : Option ParaState :=
  match state.batch with
  | .off => none
  | .write number size => do
      let db ← state.db.setRangeParaBlockBuffer
        ((List.range' number size).map chain.para)
      return { state with db, batch := .commit (number + size - 1) size }
  | .commit lastBlockNumber size =>
      some { state with
        db := state.db.setLastCommittedParaBlockBatch lastBlockNumber
        batch := .write (lastBlockNumber + 1) size }

inductive ParaEvent where
  | para
  | batch
  | restart (batchSize : Option Nat)
  deriving DecidableEq

def paraMachine (chain : Chain) (batchSize : Option Nat) :
    Machine ParaState ParaEvent where
  start := startPara .empty batchSize
  step state
    | .para => some (paraStep chain state)
    | .batch => batchStep chain state
    | .restart size => some (startPara state.db size)

/-- The index record of `number` names the batch buffer stored there. -/
def Discoverable (chain : Chain) (db : ParaDb) (number : Nat) : Prop :=
  ∃ size, 0 < size ∧
    db.rangeParaBlockBuffer number =
      some ((List.range' number size).map fun block =>
        (chain.para block).dispatchBlockData) ∧
    db.rangeParaBlockKey number =
      some
        { bufferKey := some number
          firstBlockNumber := number
          lastBlockNumber := number + size - 1 }

def batchBehind (state : ParaState) (event : ParaEvent) : Prop :=
  ∀ number size, event = .batch → state.batch = .write number size →
    (state.db.dryParaBlock number).isSome

def StoredUpTo (db : ParaDb) (last : Nat) : Prop :=
  ∀ number, 1 ≤ number → number ≤ last → (db.dryParaBlock number).isSome

def ParaProcOk (db : ParaDb) : ParaProc → Prop
  | .check number => 1 ≤ number ∧ StoredUpTo db (number - 1)
  | .write number =>
      1 ≤ number ∧ StoredUpTo db (number - 1) ∧ db.dryParaBlock number = none
  | .commit number => 1 ≤ number ∧ StoredUpTo db number

def BatchProcOk : BatchProc → Prop
  | .write number _ => 1 ≤ number
  | _ => True

structure ParaOk (state : ParaState) : Prop where
  committed : StoredUpTo state.db state.db.getLastCommittedParaBlock
  para : ParaProcOk state.db state.para
  batch : BatchProcOk state.batch

variable {chain : Chain} {db : ParaDb} {state before after : ParaState}
  {batchSize : Option Nat} {number size last : Nat} {event : ParaEvent}

theorem StoredUpTo.extend (h : StoredUpTo db (number - 1))
    (hstored : (db.dryParaBlock number).isSome) : StoredUpTo db number :=
  fun other hfirst hlast => by
    rcases Nat.lt_or_eq_of_le hlast with hlt | rfl
    · exact h other hfirst (by omega)
    · exact hstored

theorem StoredUpTo.setDry (h : StoredUpTo db last) (number : Nat) :
    StoredUpTo (db.setDryParaBlockRange (chain.para number)) last :=
  fun other hfirst hlast => update_isSome (h other hfirst hlast)

theorem setRangeParaBlockBuffer_range (hsize : 0 < size) :
    db.setRangeParaBlockBuffer ((List.range' number size).map chain.para) =
      some { db with
        rangeParaBlockBuffer := Function.update db.rangeParaBlockBuffer number
          (some ((List.range' number size).map fun block =>
            (chain.para block).dispatchBlockData))
        rangeParaBlockKey := Function.update db.rangeParaBlockKey number
          (some
            { bufferKey := some number
              firstBlockNumber := number
              lastBlockNumber := number + size - 1 }) } := by
  obtain ⟨rest, rfl⟩ : ∃ rest, size = rest + 1 :=
    ⟨_, (Nat.succ_pred_eq_of_pos hsize).symm⟩
  have hhead : ((List.range' number (rest + 1)).map chain.para).head? =
      some (chain.para number) := by
    simp [List.range'_succ]
  have hlast : ((List.range' number (rest + 1)).map chain.para).getLast? =
      some (chain.para (number + rest)) := by
    rw [List.range'_1_concat, List.map_append, List.map_singleton,
      List.getLast?_concat]
  simp only [ParaDb.setRangeParaBlockBuffer, hhead, hlast, List.map_map,
    Option.bind_eq_bind, Option.bind_some, Option.pure_def,
    chain.para_number]
  rfl

theorem setRangeParaBlockBuffer_cursors {blocks : List ParaBlock}
    {written : ParaDb} (h : db.setRangeParaBlockBuffer blocks = some written) :
    written.lastCommittedParaBlock = db.lastCommittedParaBlock ∧
      written.lastCommittedParaBlockBatch =
        db.lastCommittedParaBlockBatch := by
  simp only [ParaDb.setRangeParaBlockBuffer, Option.bind_eq_bind,
    Option.bind_eq_some_iff] at h
  obtain ⟨firstBlock, -, lastBlock, -, hwritten⟩ := h
  cases hwritten
  exact ⟨rfl, rfl⟩

theorem batchStep_cases (h : batchStep chain before = some after) :
    (∃ number size, before.batch = .write number size ∧ 0 < size ∧
      after.para = before.para ∧
      after.db.dryParaBlock = before.db.dryParaBlock ∧
      after.db.lastCommittedParaBlock = before.db.lastCommittedParaBlock ∧
      after.batch = .commit (number + size - 1) size ∧
      Discoverable chain after.db number ∧
      ∀ other, other ≠ number →
        after.db.rangeParaBlockKey other = before.db.rangeParaBlockKey other ∧
        after.db.rangeParaBlockBuffer other =
          before.db.rangeParaBlockBuffer other) ∨
    (∃ last size, before.batch = .commit last size ∧
      after = { before with
        db := before.db.setLastCommittedParaBlockBatch last
        batch := .write (last + 1) size }) := by
  obtain ⟨db, para, batch⟩ := before
  cases batch with
  | off => cases h
  | write number size =>
      refine Or.inl ⟨number, size, rfl, ?_⟩
      rcases Nat.eq_zero_or_pos size with rfl | hsize
      · cases h
      · simp only [batchStep, setRangeParaBlockBuffer_range hsize,
          Option.bind_eq_bind, Option.bind_some, Option.pure_def,
          Option.some.injEq] at h
        subst h
        refine ⟨hsize, rfl, rfl, rfl, rfl, ?_, ?_⟩
        · exact ⟨size, hsize, by simp, by simp⟩
        · intro other hne
          exact ⟨by simp [hne], by simp [hne]⟩
  | commit last size =>
      cases h
      exact Or.inr ⟨last, size, rfl, rfl⟩

theorem paraOk_startPara (hcommitted : StoredUpTo db
      db.getLastCommittedParaBlock) : ParaOk (startPara db batchSize) where
  committed := hcommitted
  para := ⟨Nat.succ_pos _, hcommitted⟩
  batch := by
    cases batchSize with
    | none => exact True.intro
    | some size => exact Nat.succ_pos _

theorem paraOk_paraStep (h : ParaOk state) : ParaOk (paraStep chain state) := by
  obtain ⟨db, para, batch⟩ := state
  obtain ⟨hcommitted, hpara, hbatch⟩ := h
  cases para with
  | check number =>
      obtain ⟨hfirst, hstored⟩ := hpara
      simp only [paraStep]
      split
      · next hfound =>
          exact
            { committed := hcommitted
              para := ⟨hfirst, hstored.extend hfound⟩
              batch := hbatch }
      · next habsent =>
          exact
            { committed := hcommitted
              para := ⟨hfirst, hstored, by simpa using habsent⟩
              batch := hbatch }
  | write number =>
      obtain ⟨hfirst, hstored, -⟩ := hpara
      refine
        { committed := hcommitted.setDry number
          para := ⟨hfirst, (hstored.setDry number).extend ?_⟩
          batch := hbatch }
      simp [ParaDb.setDryParaBlockRange, chain.para_number]
  | commit number =>
      obtain ⟨hfirst, hstored⟩ := hpara
      exact
        { committed := fun other hother hle =>
            hstored other hother (Nat.le_trans hle (Nat.sub_le _ _))
          para := ⟨Nat.succ_pos _, hstored⟩
          batch := hbatch }

theorem paraOk_step (h : ParaOk before)
    (taken : (paraMachine chain batchSize).step before event = some after) :
    ParaOk after := by
  cases event with
  | para =>
      cases Option.some.inj taken
      exact paraOk_paraStep h
  | batch =>
      rcases batchStep_cases taken with
        ⟨number, size, -, -, hpara, hdry, hcommitted, hbatch, -⟩ |
          ⟨last, size, -, rfl⟩
      · have hsame : ∀ bound, StoredUpTo before.db bound →
            StoredUpTo after.db bound := fun bound hstored => by
          rwa [StoredUpTo, hdry]
        have hcursor : after.db.getLastCommittedParaBlock =
            before.db.getLastCommittedParaBlock := by
          rw [ParaDb.getLastCommittedParaBlock, hcommitted]
          rfl
        refine
          { committed := by rw [hcursor]; exact hsame _ h.committed
            para := ?_
            batch := by rw [hbatch]; exact True.intro }
        have hproc := h.para
        rw [hpara]
        cases hbefore : before.para with
        | check number =>
            rw [hbefore] at hproc
            exact ⟨hproc.1, hsame _ hproc.2⟩
        | write number =>
            rw [hbefore] at hproc
            exact ⟨hproc.1, hsame _ hproc.2.1, by rw [hdry]; exact hproc.2.2⟩
        | commit number =>
            rw [hbefore] at hproc
            exact ⟨hproc.1, hsame _ hproc.2⟩
      · exact { committed := h.committed, para := h.para,
                batch := Nat.succ_pos _ }
  | restart size =>
      cases Option.some.inj taken
      exact paraOk_startPara h.committed

theorem paraOk_reachable (h : (paraMachine chain batchSize).Reachable state) :
    ParaOk state := by
  refine Machine.Preserves.reaches ?_ ?_ h
  · intro before event after _ hbefore taken
    exact paraOk_step hbefore taken
  · apply paraOk_startPara
    intro number hfirst hle
    have : number ≤ 0 := hle
    omega

/-- A group that is stored behind the single block. -/
def Safe (chain : Chain) (db : ParaDb) (number : Nat) : Prop :=
  (db.dryParaBlock number).isSome ∧ Discoverable chain db number

theorem safe_step (hok : ParaOk before)
    (h : Safe chain before.db number)
    (taken : (paraMachine chain batchSize).step before event = some after) :
    Safe chain after.db number := by
  obtain ⟨hdry, size, hsize, hbuffer, hkey⟩ := h
  cases event with
  | para =>
      cases Option.some.inj taken
      have hproc := hok.para
      simp only [paraStep]
      split
      · split
        · exact ⟨hdry, size, hsize, hbuffer, hkey⟩
        · exact ⟨hdry, size, hsize, hbuffer, hkey⟩
      · next other hwrite =>
          rw [hwrite] at hproc
          have hne : number ≠ other := by
            rintro rfl
            rw [hproc.2.2] at hdry
            contradiction
          rw [← chain.para_number other] at hne
          exact ⟨by simpa [ParaDb.setDryParaBlockRange, hne] using hdry, size,
            hsize, hbuffer,
            by simpa [ParaDb.setDryParaBlockRange, hne] using hkey⟩
      · exact ⟨hdry, size, hsize, hbuffer, hkey⟩
  | batch =>
      rcases batchStep_cases taken with
        ⟨other, otherSize, -, -, -, hsame, -, -, hnew, hothers⟩ |
          ⟨last, otherSize, -, rfl⟩
      · refine ⟨by rwa [hsame], ?_⟩
        by_cases heq : number = other
        · rwa [heq]
        · obtain ⟨hsameKey, hsameBuffer⟩ := hothers number heq
          exact ⟨size, hsize, by rw [hsameBuffer, hbuffer],
            by rw [hsameKey, hkey]⟩
      · exact ⟨hdry, size, hsize, hbuffer, hkey⟩
  | restart size' =>
      cases Option.some.inj taken
      exact ⟨hdry, size, hsize, hbuffer, hkey⟩

theorem safe_leads (hok : ParaOk before) (h : Safe chain before.db number)
    (hleads : (paraMachine chain batchSize).Leads Machine.anyEvent before
      after) : Safe chain after.db number := by
  have hboth := @Machine.Preserves.leads _ _ (paraMachine chain batchSize)
    Machine.anyEvent
    (fun state => ParaOk state ∧ Safe chain state.db number) before after ?_
    ⟨hok, h⟩ hleads
  · exact hboth.2
  · intro before event after _ hbefore taken
    exact ⟨paraOk_step hbefore.1 taken,
      safe_step hbefore.1 hbefore.2 taken⟩

theorem paraStep_leads (state : ParaState) :
    (paraMachine chain batchSize).Leads Machine.anyEvent state
      (paraStep chain state) :=
  Machine.Next.leads ⟨.para, True.intro, rfl⟩

/-- The single-block loop reaches every block that is not stored yet, and
writes its index record without a buffer key. -/
theorem overwrites_from_check (hcheck : state.para = .check last)
    (hle : last ≤ number) (habsent : state.db.dryParaBlock number = none) :
    ∃ later, (paraMachine chain batchSize).Leads Machine.anyEvent state later ∧
      later.db.rangeParaBlockKey number = some
        { bufferKey := none
          firstBlockNumber := number
          lastBlockNumber := number } := by
  obtain ⟨distance, hdistance⟩ : ∃ distance, number - last = distance :=
    ⟨_, rfl⟩
  induction distance generalizing state last with
  | zero =>
      have heq : last = number := by omega
      subst heq
      refine ⟨paraStep chain (paraStep chain state),
        (paraStep_leads state).trans (paraStep_leads _), ?_⟩
      simp [paraStep, hcheck, habsent, ParaDb.setDryParaBlockRange,
        chain.para_number]
  | succ distance ih =>
      have hne : number ≠ (chain.para last).number := by
        rw [chain.para_number]
        omega
      obtain ⟨next, hleads, hnext, hkept⟩ : ∃ next,
          (paraMachine chain batchSize).Leads Machine.anyEvent state next ∧
            next.para = .check (last + 1) ∧
            next.db.dryParaBlock number = none := by
        cases hfound : (state.db.dryParaBlock last).isSome with
        | true =>
            refine ⟨paraStep chain (paraStep chain state),
              (paraStep_leads state).trans (paraStep_leads _), ?_, ?_⟩
            · simp [paraStep, hcheck, hfound]
            · simpa [paraStep, hcheck, hfound,
                ParaDb.setLastCommittedParaBlock] using habsent
        | false =>
            refine ⟨paraStep chain (paraStep chain (paraStep chain state)),
              ((paraStep_leads state).trans (paraStep_leads _)).trans
                (paraStep_leads _), ?_, ?_⟩
            · simp [paraStep, hcheck, hfound]
            · simpa [paraStep, hcheck, hfound, hne,
                ParaDb.setLastCommittedParaBlock,
                ParaDb.setDryParaBlockRange] using habsent
      obtain ⟨later, hlater, hwritten⟩ := ih hnext (by omega) hkept (by omega)
      exact ⟨later, hleads.trans hlater, hwritten⟩

theorem overwrites (hok : ParaOk state) (hfirst : 1 ≤ number)
    (habsent : state.db.dryParaBlock number = none) :
    ∃ later, (paraMachine chain batchSize).Leads Machine.anyEvent state later ∧
      later.db.rangeParaBlockKey number = some
        { bufferKey := none
          firstBlockNumber := number
          lastBlockNumber := number } := by
  have hbehind : ∀ last, StoredUpTo state.db last → last < number :=
    fun last hstored => Nat.lt_of_not_le fun hle => by
      have := hstored number hfirst hle
      rw [habsent] at this
      contradiction
  have hproc := hok.para
  cases hpara : state.para with
  | check last =>
      rw [hpara] at hproc
      have := hbehind _ hproc.2
      exact overwrites_from_check hpara (by omega) habsent
  | write last =>
      rw [hpara] at hproc
      have hlt := hbehind _ hproc.2.1
      by_cases heq : last = number
      · subst heq
        refine ⟨paraStep chain state, paraStep_leads state, ?_⟩
        simp [paraStep, hpara, ParaDb.setDryParaBlockRange, chain.para_number]
      · have hne : number ≠ (chain.para last).number := by
          rw [chain.para_number]
          exact Ne.symm heq
        have hnext : (paraStep chain (paraStep chain state)).para =
            .check (last + 1) := by
          simp [paraStep, hpara]
        have hkept : (paraStep chain (paraStep chain state)).db.dryParaBlock
            number = none := by
          simpa [paraStep, hpara, hne, ParaDb.setLastCommittedParaBlock,
            ParaDb.setDryParaBlockRange] using habsent
        obtain ⟨later, hlater, hwritten⟩ := @overwrites_from_check chain _
          batchSize number _ hnext (by omega) hkept
        exact ⟨later, ((paraStep_leads state).trans
          (paraStep_leads _)).trans hlater, hwritten⟩
  | commit last =>
      rw [hpara] at hproc
      have hlt := hbehind _ hproc.2
      have hnext : (paraStep chain state).para = .check (last + 1) := by
        simp [paraStep, hpara]
      have hkept : (paraStep chain state).db.dryParaBlock number = none := by
        simpa [paraStep, hpara, ParaDb.setLastCommittedParaBlock] using habsent
      obtain ⟨later, hlater, hwritten⟩ := @overwrites_from_check chain _
        batchSize number _ hnext (by omega) hkept
      exact ⟨later, (paraStep_leads state).trans hlater, hwritten⟩

theorem safe_reaches
    (h : (paraMachine chain batchSize).Reaches batchBehind state)
    (hstored : (state.db.rangeParaBlockBuffer number).isSome) :
    Safe chain state.db number := by
  have hboth := @Machine.Preserves.reaches _ _ (paraMachine chain batchSize)
    batchBehind (fun state => ParaOk state ∧ ∀ number,
      (state.db.rangeParaBlockBuffer number).isSome →
        Safe chain state.db number) state ?_ ?_ h
  · exact hboth.2 number hstored
  · intro before event after hguard ⟨hok, hsafe⟩ taken
    refine ⟨paraOk_step hok taken, fun number hbuffer => ?_⟩
    by_cases hold : (before.db.rangeParaBlockBuffer number).isSome = true
    · exact safe_step hok (hsafe number hold) taken
    · cases event with
      | para =>
          cases Option.some.inj taken
          refine absurd ?_ hold
          simp only [paraStep] at hbuffer
          split at hbuffer
          · split at hbuffer
            · exact hbuffer
            · exact hbuffer
          · exact hbuffer
          · exact hbuffer
      | batch =>
          rcases batchStep_cases taken with
            ⟨other, size, hwrite, -, -, hdry, -, -, hnew, hothers⟩ |
              ⟨last, size, -, rfl⟩
          · by_cases heq : number = other
            · subst heq
              exact ⟨by rw [hdry]; exact hguard number size rfl hwrite, hnew⟩
            · rw [(hothers number heq).2] at hbuffer
              exact absurd hbuffer hold
          · exact absurd hbuffer hold
      | restart size =>
          cases Option.some.inj taken
          exact absurd hbuffer hold
  · refine ⟨paraOk_reachable Relation.ReflTransGen.refl, fun number hnone => ?_⟩
    cases hnone

/-- A group stays discoverable in every later state exactly when its first
block was stored by itself before the group was. -/
theorem discoverable_iff (chain : Chain) (batchSize : Option Nat) :
    (∀ state, (paraMachine chain batchSize).Reaches batchBehind state →
      ∀ number, (state.db.rangeParaBlockBuffer number).isSome →
        Discoverable chain state.db number) ∧
    ∀ before after number size,
      (paraMachine chain batchSize).Reachable before →
      before.batch = .write number size →
      batchStep chain before = some after →
      ((∀ later, (paraMachine chain batchSize).Leads Machine.anyEvent after
          later → Discoverable chain later.db number) ↔
        (before.db.dryParaBlock number).isSome) := by
  refine ⟨fun state h number hstored => (safe_reaches h hstored).2, ?_⟩
  intro before after number size hreachable hwrite taken
  have hbefore := paraOk_reachable hreachable
  have hafter : ParaOk after :=
    @paraOk_step chain before after batchSize .batch hbefore taken
  have hfirst : 1 ≤ number := by
    have := hbefore.batch
    rwa [hwrite] at this
  rcases batchStep_cases taken with
    ⟨other, otherSize, hother, -, -, hdry, -, -, hnew, -⟩ | ⟨_, _, hcommit, -⟩
  · rw [hwrite] at hother
    cases hother
    constructor
    · intro hkept
      cases hfound : (before.db.dryParaBlock number).isSome with
      | true => rfl
      | false =>
          have habsent : after.db.dryParaBlock number = none := by
            rw [hdry]
            simpa using hfound
          obtain ⟨later, hleads, hwritten⟩ :=
            @overwrites chain after batchSize number hafter hfirst habsent
          obtain ⟨_, _, _, hkey⟩ := hkept later hleads
          rw [hwritten] at hkey
          cases hkey
    · intro hfound later hleads
      exact (safe_leads hafter ⟨by rwa [hdry], hnew⟩ hleads).2
  · rw [hwrite] at hcommit
    cases hcommit

def blankChain : Chain :=
  Chain.fetched { paraNumber := 0, parentNumber := 0 } fun _ =>
    { header := [], justifications := none, setId := 0, paraNumber := 0
      paraProof := [], authoritySet := [] }

/-- The first group is stored behind para block 1. -/
theorem discoverable_behind :
    ∀ later, (paraMachine blankChain (some 3)).Leads Machine.anyEvent
        ((paraMachine blankChain (some 3)).ended [.para, .para, .batch])
        later →
      Discoverable blankChain later.db 1 :=
  ((discoverable_iff blankChain (some 3)).2
    ((paraMachine blankChain (some 3)).ended [.para, .para]) _ 1 3
    (Machine.reachable_ended rfl) rfl rfl).mpr rfl

/-- The first group is stored ahead of para block 1 and loses its buffer key. -/
theorem discoverable_fails_ahead :
    ∃ stored later,
      (paraMachine blankChain (some 3)).Reachable stored ∧
      Discoverable blankChain stored.db 1 ∧
      (paraMachine blankChain (some 3)).Leads Machine.anyEvent stored later ∧
      later.db.rangeParaBlockKey 1 = some
        { bufferKey := none, firstBlockNumber := 1, lastBlockNumber := 1 } ∧
      ¬ Discoverable blankChain later.db 1 := by
  refine ⟨(paraMachine blankChain (some 3)).ended [.batch],
    paraStep blankChain (paraStep blankChain
      ((paraMachine blankChain (some 3)).ended [.batch])),
    Machine.reachable_ended rfl, ⟨3, by decide, rfl, rfl⟩,
    (paraStep_leads _).trans (paraStep_leads _), rfl, ?_⟩
  rintro ⟨size, -, -, hkey⟩
  cases hkey

end RuntimeBridge.DataProvider
