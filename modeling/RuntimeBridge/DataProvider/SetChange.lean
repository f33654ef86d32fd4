import RuntimeBridge.DataProvider.WalkInvariant

/-! Changes of the authority set: which of them the window loop sees, and what
the windows and dry ranges say of them. -/

namespace RuntimeBridge.DataProvider

open Library

def Chain.MonotoneSets (chain : Chain) : Prop :=
  ∀ number, (chain.parent number).setId ≤ (chain.parent (number + 1)).setId

/-- The `authoritySetChange` that a request ending at `stop` should carry. -/
def Chain.authoritySetChange (chain : Chain) (stop : Nat) : Option Bytes :=
  if chain.SetIdGrows stop then (chain.parent stop).authoritySetChange else none

/-- The record is stored, and its request carries the set change of `stop`. -/
structure Carries (chain : Chain) (db : WindowDb) (rangeMeta : RangeMeta) :
    Prop where
  request : ∃ request,
    db.drySyncHeader rangeMeta.drySyncHeaderReqKey = some request ∧
      request.authoritySetChange =
        chain.authoritySetChange rangeMeta.parentStopBlock

structure SetChangesKept (chain : Chain) (db : WindowDb) : Prop where
  /-- A change inside a finished window is its last block, with a dry range
  that carries it. -/
  closes : ∀ id window number, db.window id = some window →
    window.isFinished = true → window.parentStartBlock ≤ number →
    (number : Int) ≤ window.parentStopBlock → chain.SetIdGrows number →
    window.parentStopBlock = number ∧
      ∃ first rangeMeta authoritySet,
        db.rangeByParentBlock first = some rangeMeta ∧
        rangeMeta.parentStopBlock = number ∧
        (chain.parent number).authoritySetChange = some authoritySet ∧
        ∃ request,
          db.drySyncHeader rangeMeta.drySyncHeaderReqKey = some request ∧
          request.authoritySetChange = some authoritySet
  /-- No dry range of an unfinished window goes past a change. -/
  stays : ∀ id window first rangeMeta number, db.window id = some window →
    window.isFinished = false →
    db.rangeByParentBlock first = some rangeMeta →
    window.parentStartBlock ≤ number → number < rangeMeta.parentStopBlock →
    ¬ chain.SetIdGrows number
  carries : ∀ first rangeMeta, db.rangeByParentBlock first = some rangeMeta →
    Carries chain db rangeMeta

/-- `walkWindow` begins its walk at a block that changes the set, with no
block before it to compare with. -/
def missesFirst (chain : Chain) (state : WalkState) : Bool :=
  match state.proc with
  | .next windowId lastWindow =>
      match state.db.getWindow windowId, windowId, lastWindow with
      | some window, _, _ =>
          !window.isFinished &&
            decide (chain.SetIdGrows window.parentStartBlock)
      | none, _ + 1, some last =>
          decide (chain.SetIdGrows (last.parentStopBlock + 1).toNat)
      | none, _, _ => false
  | _ => false

def seesFirst (chain : Chain) (state : WalkState) (event : WalkEvent) : Prop :=
  event = .proceed → missesFirst chain state = false

/-- The first window when its first block changes the set. -/
def FirstChange (chain : Chain) (window : Window) : Prop :=
  window.windowId = 0 ∧ chain.SetIdGrows window.parentStartBlock

structure SetDbOk (chain : Chain) (db : WindowDb) : Prop where
  later : ∀ id window, db.window (id + 1) = some window →
    ¬ chain.SetIdGrows window.parentStartBlock
  finished : ∀ window, db.window 0 = some window → window.isFinished = true →
    FirstChange chain window → window.stop = window.parentStartBlock
  within : ∀ window first rangeMeta, db.window 0 = some window →
    window.isFinished = false → FirstChange chain window →
    db.rangeByParentBlock first = some rangeMeta →
    rangeMeta.parentStopBlock = window.parentStartBlock
  carries : ∀ first rangeMeta, db.rangeByParentBlock first = some rangeMeta →
    Carries chain db rangeMeta

/-- The walk of such a window has the block before it, and goes no further. -/
def SetProcOk (chain : Chain) : Proc → Prop
  | .block walk =>
      FirstChange chain walk.currentWindow →
        walk.parentNumber = walk.currentWindow.parentStartBlock ∧
          walk.lastParentBlock = some (chain.parent (walk.parentNumber - 1))
  | .visited visit =>
      FirstChange chain visit.currentWindow →
        visit.currParentBlock.number = visit.currentWindow.parentStartBlock ∧
          visit.lastParentBlock =
            some (chain.parent (visit.currParentBlock.number - 1))
  | .mark window _ =>
      FirstChange chain window → window.stop = window.parentStartBlock
  | .close window =>
      FirstChange chain window → window.stop = window.parentStartBlock
  | _ => True

structure SetsOk (chain : Chain) (state : WalkState) : Prop where
  db : SetDbOk chain state.db
  proc : SetProcOk chain state.proc

variable {chain : Chain} {db written : WindowDb} {state : WalkState}
  {window : Window} {walk : Walk} {visit : Visit}
  {count number first stop : Nat} {origin : Origin}

theorem Carries.congr {rangeMeta : RangeMeta}
    (h : Carries chain db rangeMeta)
    (hsame : written.drySyncHeader rangeMeta.drySyncHeaderReqKey =
      db.drySyncHeader rangeMeta.drySyncHeaderReqKey) :
    Carries chain written rangeMeta where
  request := by
    rw [hsame]
    exact h.request

theorem SetDbOk.congr (h : SetDbOk chain db)
    (hwindow : written.window = db.window)
    (hranges : written.rangeByParentBlock = db.rangeByParentBlock)
    (hrequests : written.drySyncHeader = db.drySyncHeader) :
    SetDbOk chain written where
  later := by
    rw [hwindow]
    exact h.later
  finished := by
    rw [hwindow]
    exact h.finished
  within := by
    rw [hwindow, hranges]
    exact h.within
  carries := fun first rangeMeta hmeta => by
    rw [hranges] at hmeta
    exact (h.carries first rangeMeta hmeta).congr (by rw [hrequests])

/-- Pointing records to a blob changes neither their ranges nor their
requests. -/
theorem SetDbOk.writeBlob (h : SetDbOk chain db) (origin : Origin)
    (stop : Nat) : SetDbOk chain (chain.writeBlob origin db stop) where
  later := h.later
  finished := h.finished
  within := fun window first rangeMeta hstored hopen hchange hmeta => by
    obtain ⟨old, hold, rfl | ⟨-, rfl⟩⟩ := writeBlob_record hmeta
    · exact h.within window first _ hstored hopen hchange hold
    · exact h.within window first old hstored hopen hchange hold
  carries := fun first rangeMeta hmeta => by
    obtain ⟨old, hold, rfl | ⟨-, rfl⟩⟩ := writeBlob_record hmeta
    · exact (h.carries first _ hold).congr rfl
    · obtain ⟨request, hrequest, hcarries⟩ := (h.carries first _ hold).request
      exact ⟨request, hrequest, hcarries⟩

theorem SetDbOk.putWindow (h : SetDbOk chain db)
    (hlater : window.windowId ≠ 0 →
      ¬ chain.SetIdGrows window.parentStartBlock)
    (hfinished : window.isFinished = true → FirstChange chain window →
      window.stop = window.parentStartBlock)
    (hwithin : window.isFinished = false → FirstChange chain window →
      ∀ first rangeMeta, db.rangeByParentBlock first = some rangeMeta →
        rangeMeta.parentStopBlock = window.parentStartBlock) :
    SetDbOk chain (db.putWindow window) where
  later := fun id other hother => by
    rcases putWindow_cases hother with ⟨hid, rfl⟩ | hold
    · exact hlater (by omega)
    · exact h.later id other hold
  finished := fun other hother => by
    rcases putWindow_cases hother with ⟨-, rfl⟩ | hold
    · exact hfinished
    · exact h.finished other hold
  within := fun other first rangeMeta hother hopen hchange hmeta => by
    rcases putWindow_cases hother with ⟨-, rfl⟩ | hold
    · exact hwithin hopen hchange first rangeMeta hmeta
    · exact h.within other first rangeMeta hold hopen hchange hmeta
  carries := fun first rangeMeta hmeta =>
    (h.carries first rangeMeta hmeta).congr rfl

theorem SetDbOk.not_first (h : SetDbOk chain db)
    (hid : window.windowId = count) (hstored : db.window count = some window)
    (hnot : ¬ FirstChange chain window) :
    ¬ chain.SetIdGrows window.parentStartBlock := by
  cases count with
  | zero => exact fun hgrows => hnot ⟨hid, hgrows⟩
  | succ id => exact h.later id window hstored

/-- At every block the walk sees whether the set changes. -/
theorem sees_change (h : SetDbOk chain db)
    (hid : walk.currentWindow.windowId = count)
    (hwalk : WalkOk chain db count first number walk)
    (hproc : SetProcOk chain (.block walk)) :
    setIdChanged (chain.parent number) walk.lastParentBlock =
      decide (chain.SetIdGrows number) := by
  rcases hwalk.arriving.last with ⟨-, hlast⟩ | ⟨hnumber, hnone | ⟨-, hlast⟩⟩
  · rw [hlast]
    rfl
  · have hnot : ¬ FirstChange chain walk.currentWindow := fun hchange => by
      rw [(hproc hchange).2] at hnone
      contradiction
    have hquiet := h.not_first hid hwalk.window hnot
    rw [← hnumber] at hquiet
    rw [hnone, decide_eq_false hquiet]
    rfl
  · rw [hlast]
    rfl

theorem carries_writeRange :
    Carries chain
      (chain.writeRange origin db first stop (decide (chain.SetIdGrows stop)))
      (chain.rangeMeta origin first stop) where
  request := by
    refine ⟨_, Function.update_self .., ?_⟩
    rw [Chain.rangeMeta_stop, Chain.authoritySetChange]
    simp only [Chain.rangeReq, WindowDb.drySyncHeaderReq, decide_eq_true_eq]

theorem SetDbOk.visitedDb (hok : DbOk chain db count) (h : SetDbOk chain db)
    (hwalk : WalkOk chain db count first number walk)
    (hproc : SetProcOk chain (.block walk)) :
    SetDbOk chain (chain.visitedDb db first number walk) := by
  have hid := hok.windows.windowId count _ hwalk.window
  unfold Chain.visitedDb
  split
  · rw [sees_change h hid hwalk hproc]
    refine
      { later := h.later, finished := h.finished, within := ?_, carries := ?_ }
    · intro window other rangeMeta hstored hopen hchange hmeta
      by_cases heq : other = first
      · subst heq
        simp only [Chain.writeRange, Function.update_self,
          Option.some.injEq] at hmeta
        subst hmeta
        cases hok.windows.eq_count_of_open hstored hopen
        cases Option.some.inj (hstored.symm.trans hwalk.window)
        rw [Chain.rangeMeta_stop, ← hwalk.parentNumber]
        exact (hproc hchange).1
      · simp only [Chain.writeRange, Function.update_of_ne heq] at hmeta
        exact h.within window other rangeMeta hstored hopen hchange hmeta
    · intro other rangeMeta hmeta
      by_cases heq : other = first
      · subst heq
        simp only [Chain.writeRange, Function.update_self,
          Option.some.injEq] at hmeta
        subst hmeta
        exact carries_writeRange
      · simp only [Chain.writeRange, Function.update_of_ne heq] at hmeta
        refine (h.carries other rangeMeta hmeta).congr ?_
        obtain ⟨id, owner, otherStop, -, hrecord, -⟩ :=
          hok.ranges other rangeMeta hmeta
        have hkey := congrArg RangeMeta.drySyncHeaderReqKey hrecord.content
        have hne : rangeMeta.drySyncHeaderReqKey ≠
            chain.rangeKey walk.currentWindow.origin first number := by
          intro hsame
          exact heq (congrArg RangeKey.parentStartBlock
            (hkey.symm.trans hsame))
        exact Function.update_of_ne hne ..
  · exact h

theorem setsOk_found {id : Nat} {last : Option Window} {heights : List Int}
    (h : SetDbOk chain db) (hstored : db.window id = some window)
    (hsees : missesFirst chain ⟨db, .next id last, heights⟩ = false) :
    SetsOk chain (walkStep chain ⟨db, .next id last, heights⟩) := by
  simp only [walkStep, walkWindow, WindowDb.getWindow, hstored]
  cases hfinished : window.isFinished with
  | true =>
      simp only [if_true, Option.getD_some]
      exact { db := h, proc := True.intro }
  | false =>
      simp only [missesFirst, WindowDb.getWindow, hstored, hfinished,
        Bool.not_false, Bool.true_and, decide_eq_false_iff_not] at hsees
      simp only [Bool.false_eq_true, if_false, Option.getD_some]
      exact { db := h, proc := fun hchange => absurd hchange.2 hsees }

theorem setsOk_created {last : Option Window} {heights : List Int}
    (hok : DbOk chain db count)
    (hnext : ProcOk chain db count (.next count last)) (h : SetDbOk chain db)
    (habsent : db.window count = none)
    (hsees : missesFirst chain ⟨db, .next count last, heights⟩ = false) :
    SetsOk chain (walkStep chain ⟨db, .next count last, heights⟩) := by
  rcases hnext.2 with ⟨rfl, rfl⟩ | ⟨previous, window, rfl, rfl, -⟩
  · have hnone := (hok.untouched habsent ⟨0, 0⟩).ranges
    simp only [walkStep, walkWindow, WindowDb.getWindow, habsent, firstBlocks,
      Option.bind_eq_bind, Option.bind_some, Option.pure_def, Option.getD_some]
    refine { db := h.putWindow ?_ ?_ ?_, proc := fun _ => ⟨rfl, rfl⟩ }
    · exact fun hne => absurd rfl hne
    · exact fun hfinished => by cases hfinished
    · intro _ _ first rangeMeta hmeta
      rw [hnone first (Nat.zero_le first)] at hmeta
      contradiction
  · simp only [missesFirst, WindowDb.getWindow, habsent,
      decide_eq_false_iff_not] at hsees
    simp only [walkStep, walkWindow, WindowDb.getWindow, habsent, firstBlocks,
      Option.bind_eq_bind, Option.bind_some, Option.pure_def, Option.getD_some]
    refine { db := h.putWindow ?_ ?_ ?_, proc := fun hchange => ?_ }
    · exact fun _ => hsees
    · exact fun hfinished => by cases hfinished
    · exact fun _ hchange => absurd hchange.1 (Nat.succ_ne_zero previous)
    · exact absurd hchange.1 (Nat.succ_ne_zero previous)

theorem setsOk_block {heights : List Int} (hok : DbOk chain db count)
    (hwalk : WalkOk chain db count first number walk)
    (h : SetsOk chain ⟨db, .block walk, heights⟩) :
    SetsOk chain (walkStep chain ⟨db, .block walk, heights⟩) := by
  obtain ⟨visit, hvisit, harrived, hcurrent, hlast⟩ :=
    hwalk.arriving.visitBlock db
  simp only [walkStep, hvisit]
  refine { db := h.db.visitedDb hok hwalk h.proc, proc := ?_ }
  simp only [SetProcOk, hcurrent, hlast, harrived.currParentBlock,
    chain.parent_number]
  rw [← hwalk.parentNumber]
  exact h.proc

theorem setsOk_closes {heights : List Int} (hok : DbOk chain db count)
    (hvisited : VisitOk chain db count number visit)
    (hchanged :
      setIdChanged visit.currParentBlock visit.lastParentBlock = true)
    (h : SetsOk chain ⟨db, .visited visit, heights⟩) :
    SetsOk chain (walkStep chain ⟨db, .visited visit, heights⟩) := by
  have hid := hok.windows.windowId count _ hvisited.window
  obtain ⟨window, hclose, hwindowId, horigin, -, hstop, -⟩ :=
    hvisited.arrived.closedWindow hid hchanged
  have hstart : window.parentStartBlock =
      visit.currentWindow.parentStartBlock := congrArg Origin.parentStart horigin
  have hfirst : FirstChange chain window →
      window.stop = window.parentStartBlock := by
    rintro ⟨hzero, hgrows⟩
    rw [hstart] at hgrows
    have hat := (h.proc ⟨by omega, hgrows⟩).1
    rw [hvisited.currParentBlock, chain.parent_number] at hat
    rw [hstop, hstart, hat]
  have hfinish := hvisited.arrived.finishVisit_changed hchanged hclose db
  split at hfinish
  · simp only [walkStep, hfinish]
    exact { db := h.db, proc := hfirst }
  · simp only [walkStep, hfinish]
    exact { db := h.db.writeBlob _ _, proc := hfirst }

theorem setsOk_quiet {heights : List Int} (hok : DbOk chain db count)
    (hvisited : VisitOk chain db count number visit)
    (hquiet : setIdChanged visit.currParentBlock visit.lastParentBlock = false)
    (h : SetsOk chain ⟨db, .visited visit, heights⟩) :
    SetsOk chain (walkStep chain ⟨db, .visited visit, heights⟩) := by
  have hid := hok.windows.windowId count _ hvisited.window
  have hopen := hok.windows.current _ hvisited.window
  have hnot : ¬ FirstChange chain visit.currentWindow := by
    intro hchange
    obtain ⟨hat, hlast⟩ := h.proc hchange
    rw [hlast, setIdChanged_some, decide_eq_false_iff_not,
      hvisited.currParentBlock, chain.parent_number] at hquiet
    rw [hvisited.currParentBlock, chain.parent_number] at hat
    rw [hat] at hquiet
    exact hquiet hchange.2
  have hstays := h.db.not_first hid hvisited.window hnot
  have hfinish := finishVisit_quiet hquiet db
  by_cases hknown : visit.currentWindow.setId = -1
  · rw [if_pos hknown] at hfinish
    simp only [walkStep, hfinish]
    refine { db := h.db.putWindow ?_ ?_ ?_, proc := fun hchange => ?_ }
    · exact fun _ => hstays
    · intro hfinished
      rw [hopen] at hfinished
      contradiction
    · exact fun _ hchange => absurd hchange hnot
    · exact absurd hchange hnot
  · rw [if_neg hknown] at hfinish
    simp only [walkStep, hfinish]
    exact { db := h.db, proc := fun hchange => absurd hchange hnot }

theorem setsOk_step (hstate : StateOk chain state)
    (hsees : missesFirst chain state = false) (h : SetsOk chain state) :
    SetsOk chain (walkStep chain state) := by
  obtain ⟨db, proc, heights⟩ := state
  obtain ⟨count, hok, hproc⟩ := hstate
  cases proc with
  | next id last =>
      cases hstored : db.window id with
      | some window => exact setsOk_found h.db hstored hsees
      | none =>
          cases hok.windows.eq_count_of_absent hproc.1 hstored
          exact setsOk_created hok hproc h.db hstored hsees
  | block walk =>
      obtain ⟨first, number, hwalk⟩ := hproc
      exact setsOk_block hok hwalk h
  | visited visit =>
      obtain ⟨number, hvisited⟩ := hproc
      cases hchanged :
          setIdChanged visit.currParentBlock visit.lastParentBlock with
      | true => exact setsOk_closes hok hvisited hchanged h
      | false => exact setsOk_quiet hok hvisited hchanged h
  | mark window key =>
      exact { db := h.db.congr rfl rfl rfl, proc := h.proc }
  | close window =>
      obtain ⟨opened, hstored, horigin⟩ := hproc.current
      have hid := hproc.windowId
      refine { db := h.db.putWindow ?_ ?_ ?_, proc := True.intro }
      · intro hne hgrows
        have hstart : opened.parentStartBlock = window.parentStartBlock :=
          congrArg Origin.parentStart horigin
        rw [← hstart] at hgrows
        refine h.db.not_first (hok.windows.windowId count _ hstored) hstored
          (fun hchange => hne ?_) hgrows
        have := hok.windows.windowId count _ hstored
        have := hchange.1
        omega
      · exact fun _ => h.proc
      · intro hopen
        rw [hproc.isFinished] at hopen
        contradiction
  | commit window =>
      exact { db := h.db.congr rfl rfl rfl, proc := True.intro }
  | exited => exact hproc.elim

theorem setsOk_reaches (hgrandpa : chain.Grandpa)
    (h : (walkMachine chain).Reaches (seesFirst chain) state) :
    StateOk chain state ∧ SetsOk chain state := by
  have hpreserved : (walkMachine chain).Preserves (seesFirst chain)
      fun state => StateOk chain state ∧ SetsOk chain state := by
    intro before event after hsees hbefore htaken
    cases event with
    | proceed =>
        cases Option.some.inj htaken
        exact ⟨stateOk_step hgrandpa hbefore.1,
          setsOk_step hbefore.1 (hsees rfl) hbefore.2⟩
    | crash =>
        cases Option.some.inj htaken
        obtain ⟨⟨count, hok, -⟩, hsets⟩ := hbefore
        exact ⟨⟨count, hok, Nat.zero_le _, Or.inl ⟨rfl, rfl⟩⟩,
          { db := hsets.db, proc := True.intro }⟩
  refine hpreserved.reaches ⟨?_, ?_⟩ h
  · exact stateOk_reachable hgrandpa Relation.ReflTransGen.refl
  · exact
      { db :=
          { later := fun _ _ hnone => by cases hnone
            finished := fun _ hnone => by cases hnone
            within := fun _ _ _ hnone => by cases hnone
            carries := fun _ _ hnone => by cases hnone }
        proc := True.intro }

theorem SetDbOk.stops (hok : DbOk chain db count) (h : SetDbOk chain db)
    {id : Nat} (hid : id < count) (hstored : db.window id = some window)
    (hstart : window.parentStartBlock ≤ number) (hle : number ≤ window.stop)
    (hgrows : chain.SetIdGrows number) : number = window.stop := by
  obtain ⟨closed, hclosed, hfinished, hshape⟩ := hok.windows.finished id hid
  cases Option.some.inj (hstored.symm.trans hclosed)
  by_contra hne
  rcases Nat.eq_or_lt_of_le hstart with rfl | hlater
  · cases id with
    | zero =>
        have hwindow := hok.windows.windowId 0 window hstored
        exact hne (h.finished window hstored hfinished
          ⟨hwindow, hgrows⟩).symm
    | succ id => exact h.later id window hstored hgrows
  · exact hshape.sameSet number hlater (by omega) hgrows

/-- The last range of a finished window carries the change that closes it. -/
theorem SetDbOk.last_range (hgrandpa : chain.Grandpa)
    (hok : DbOk chain db count) (h : SetDbOk chain db) {id : Nat}
    (hid : id < count) (hstored : db.window id = some window)
    (hgrows : chain.SetIdGrows window.stop) :
    ∃ first rangeMeta authoritySet,
      db.rangeByParentBlock first = some rangeMeta ∧
      rangeMeta.parentStopBlock = window.stop ∧
      (chain.parent window.stop).authoritySetChange = some authoritySet ∧
      ∃ request,
        db.drySyncHeader rangeMeta.drySyncHeaderReqKey = some request ∧
        request.authoritySetChange = some authoritySet := by
  have hsealed := hok.sealed id window hid hstored
  have hordered := (hok.windows.closed hid hstored).ordered
  obtain ⟨first, hrange, -⟩ := hsealed.last
  obtain ⟨rangeMeta, hmeta⟩ := Option.isSome_iff_exists.mp
    (hsealed.covered first window.stop hrange (Nat.lt_succ_self _))
  obtain ⟨stop, hrecord, -⟩ := hok.range_of_window hstored hmeta
    hrange.start_le (fun _ => hrange.ordered)
  cases hrange.stop_unique hrecord.range
  have hstop : rangeMeta.parentStopBlock = window.stop :=
    (congrArg RangeMeta.parentStopBlock hrecord.content).trans
      (Chain.rangeMeta_stop first window.stop)
  have hjustified : chain.Justified window.stop :=
    hgrandpa _ (by have := hok.windows.genesis_lt hstored; omega) hgrows
  obtain ⟨authoritySet, hset⟩ := Option.isSome_iff_exists.mp
    ((chain.parent window.stop).authority_iff.trans hjustified)
  obtain ⟨request, hrequest, hcarries⟩ := (h.carries first rangeMeta hmeta).request
  refine ⟨first, rangeMeta, authoritySet, hmeta, hstop, hset, request, hrequest,
    ?_⟩
  rw [hcarries, hstop, Chain.authoritySetChange, if_pos hgrows, hset]

theorem setChangesKept (hgrandpa : chain.Grandpa) (hok : DbOk chain db count)
    (h : SetDbOk chain db) : SetChangesKept chain db where
  closes := fun id window number hstored hfinished hstart hle hgrows => by
    have hid : id < count := by
      refine Nat.lt_of_le_of_ne (hok.windows.le_count hstored) ?_
      rintro rfl
      rw [hok.windows.current window hstored] at hfinished
      contradiction
    have hparent := (hok.windows.closed hid hstored).parentStop
    have heq := h.stops hok hid hstored hstart (by omega) hgrows
    subst heq
    exact ⟨hparent, h.last_range hgrandpa hok hid hstored hgrows⟩
  stays := fun id window first rangeMeta number hstored hopen hmeta hstart
      hlt hgrows => by
    cases hok.windows.eq_count_of_open hstored hopen
    obtain ⟨owner, ownerWindow, stop, howner, hrecord, hbound⟩ :=
      hok.ranges first rangeMeta hmeta
    have hstop : rangeMeta.parentStopBlock = stop :=
      (congrArg RangeMeta.parentStopBlock hrecord.content).trans
        (Chain.rangeMeta_stop first stop)
    rw [hstop] at hlt
    rcases Nat.lt_or_eq_of_le (hok.windows.le_count howner) with hbefore | rfl
    · have := hok.windows.stop_lt_start hbefore howner hstored
      have := hbound hbefore
      omega
    · cases Option.some.inj (hstored.symm.trans howner)
      rcases Nat.eq_or_lt_of_le hstart with rfl | hlater
      · by_cases hchange : FirstChange chain window
        · have := h.within window first rangeMeta
            (by
              have hzero := hok.windows.windowId owner window hstored
              rwa [hchange.1.symm.trans hzero]) hopen hchange hmeta
          omega
        · exact h.not_first (hok.windows.windowId owner window hstored)
            hstored hchange hgrows
      · exact hrecord.sameSet number hlater hlt hgrows
  carries := h.carries

/-- When no walk begins unseen at a set change, none is missed. -/
theorem setChanges_kept (chain : Chain) (hgrandpa : chain.Grandpa)
    (state : WalkState)
    (h : (walkMachine chain).Reaches (seesFirst chain) state) :
    SetChangesKept chain state.db := by
  obtain ⟨⟨count, hok, -⟩, hsets⟩ := setsOk_reaches hgrandpa h
  exact setChangesKept hgrandpa hok hsets.db

theorem setsEvery_monotone (blocks : Nat) :
    (Chain.setsEvery blocks).MonotoneSets :=
  fun number => Nat.div_le_div_right (Nat.le_succ number)

def seen (chain : Chain) (state : WalkState) (event : WalkEvent) : Bool :=
  decide (event = .crash) || !missesFirst chain state

theorem seesFirst_of_seen {event : WalkEvent}
    (h : seen chain state event = true) : seesFirst chain state event := by
  intro hproceed
  subst hproceed
  simpa [seen] using h

/-- Changes at blocks 2 and 4, with a crash in the second window. -/
theorem setChanges_kept_crash :
    SetChangesKept (Chain.setsEvery 2)
      ((walkMachine (Chain.setsEvery 2)).endedIf (seen (Chain.setsEvery 2))
        (List.replicate 11 .proceed ++ .crash ::
          List.replicate 9 .proceed)).db :=
  setChanges_kept (Chain.setsEvery 2) (fun _ _ _ => rfl) _
    (Machine.reaches_endedIf (fun _ _ => seesFirst_of_seen) rfl)

/-- Windows 0 and 1 of the chain whose set changes at every block. -/
def everyBlock : WalkState :=
  (walkMachine (Chain.setsEvery 1)).ended (List.replicate 14 .proceed)

/-- The second window begins at block 2 and closes at block 3. -/
theorem setChanges_missed :
    ¬ ∀ chain : Chain, chain.MonotoneSets → chain.Grandpa →
      ∀ state, (walkMachine chain).Reachable state →
        SetChangesKept chain state.db := by
  intro hclaim
  have hkept := hclaim (Chain.setsEvery 1) (setsEvery_monotone 1)
    (fun _ _ _ => rfl) everyBlock (Machine.reachable_ended rfl)
  obtain ⟨window, hstored, hfinished, hstart, hstop⟩ : ∃ window,
      everyBlock.db.window 1 = some window ∧ window.isFinished = true ∧
        window.parentStartBlock = 2 ∧ window.parentStopBlock = 3 :=
    ⟨_, rfl, rfl, rfl, rfl⟩
  have hgrows : (Chain.setsEvery 1).SetIdGrows 2 := by decide
  obtain ⟨hlast, -⟩ := hkept.closes 1 window 2 hstored hfinished (by omega)
    (by omega) hgrows
  omega

end RuntimeBridge.DataProvider
