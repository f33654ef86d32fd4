import RuntimeBridge.DataProvider.WalkShape

/-! The invariant of the window loop at each of its program points, kept by
every step and by every crash. -/

namespace RuntimeBridge.DataProvider

open Library

structure Untouched (chain : Chain) (db : WindowDb) (origin : Origin) :
    Prop where
  ranges : ∀ first, origin.parentStart ≤ first →
    db.rangeByParentBlock first = none
  committed : ∀ stop,
    db.blobRangeCommitted (chain.blobKey origin stop) = false

/-- The walk is about to visit `number` in the range begun at `first`. -/
structure WalkOk (chain : Chain) (db : WindowDb) (count first number : Nat)
    (walk : Walk) : Prop where
  window : db.window count = some walk.currentWindow
  parentNumber : walk.parentNumber = number
  paraNumber :
    walk.paraNumber = chain.cursor walk.currentWindow.origin number
  context :
    walk.context = chain.contextAt walk.currentWindow.origin first number
  range : chain.OpenRange walk.currentWindow.origin first number
  sameSet : chain.SameSet walk.currentWindow.parentStartBlock number
  covered : Covered chain db walk.currentWindow.origin number
  last :
    walk.currentWindow.parentStartBlock < number ∧
      walk.lastParentBlock = some (chain.parent (number - 1)) ∨
    number = walk.currentWindow.parentStartBlock ∧
      (walk.lastParentBlock = none ∨
        count = 0 ∧
          walk.lastParentBlock = some (chain.parent (number - 1)) ∧
          Untouched chain db walk.currentWindow.origin)

/-- What the first visit of the first window leaves when nothing was stored
before it. -/
structure FirstVisit (chain : Chain) (db : WindowDb) (origin : Origin) :
    Prop where
  within : ∀ first rangeMeta, origin.parentStart ≤ first →
    db.rangeByParentBlock first = some rangeMeta →
    rangeMeta.parentStopBlock = origin.parentStart
  committed : ∀ stop,
    db.blobRangeCommitted (chain.blobKey origin stop) = false
  request : chain.Justified origin.parentStart →
    db.drySyncHeader
        (chain.rangeKey origin origin.parentStart origin.parentStart) =
      some (chain.rangeReq origin origin.parentStart origin.parentStart
        (decide (chain.SetIdGrows origin.parentStart)))

structure VisitOk (chain : Chain) (db : WindowDb) (count number : Nat)
    (visit : Visit) : Prop where
  window : db.window count = some visit.currentWindow
  currParentBlock : visit.currParentBlock = chain.parent number
  currParaBlock : visit.currParaBlock =
    chain.para (chain.cursor visit.currentWindow.origin number)
  matched : visit.paraNumberMatched =
    decide (visit.currParaBlock.number = visit.currParentBlock.paraNumber)
  range : ∃ first, chain.OpenRange visit.currentWindow.origin first number ∧
    visit.context =
      chain.contextAt visit.currentWindow.origin first (number + 1)
  next : ∃ first,
    chain.OpenRange visit.currentWindow.origin first (number + 1) ∧
    visit.nextContext =
      chain.contextAt visit.currentWindow.origin first (number + 1)
  sameSet : chain.SameSet visit.currentWindow.parentStartBlock number
  covered : Covered chain db visit.currentWindow.origin (number + 1)
  last :
    visit.currentWindow.parentStartBlock < number ∧
      visit.lastParentBlock = some (chain.parent (number - 1)) ∨
    number = visit.currentWindow.parentStartBlock ∧
      (visit.lastParentBlock = none ∨
        count = 0 ∧
          visit.lastParentBlock = some (chain.parent (number - 1)) ∧
          FirstVisit chain db visit.currentWindow.origin)

structure Closing (chain : Chain) (db : WindowDb) (count : Nat)
    (window : Window) : Prop where
  current : ∃ opened, db.window count = some opened ∧
    opened.origin = window.origin
  windowId : window.windowId = count
  isFinished : window.isFinished = true
  closed : ClosedAt chain window
  ok : Sealed chain db window.origin window.stop
  within : ∀ first stop rangeMeta,
    RangeOk chain db count window.origin first stop rangeMeta →
    db.rangeByParentBlock first = some rangeMeta → stop ≤ window.stop

def ProcOk (chain : Chain) (db : WindowDb) (count : Nat) : Proc → Prop
  | .next id last =>
      id ≤ count ∧
        (id = 0 ∧ last = none ∨
          ∃ previous window, id = previous + 1 ∧ last = some window ∧
            db.window previous = some window)
  | .block walk => ∃ first number, WalkOk chain db count first number walk
  | .visited visit => ∃ number, VisitOk chain db count number visit
  | .mark window key =>
      Closing chain db count window ∧
        key = chain.blobKey window.origin window.stop
  | .close window => Closing chain db count window
  | .commit window => ∃ id, count = id + 1 ∧ db.window id = some window
  | .exited => False

def StateOk (chain : Chain) (state : WalkState) : Prop :=
  ∃ count, DbOk chain state.db count ∧ ProcOk chain state.db count state.proc

variable {chain : Chain} {db : WindowDb} {count number first : Nat}
  {window : Window} {walk : Walk} {visit : Visit}

theorem dbOk_empty (chain : Chain) : DbOk chain .empty 0 where
  windows := windowsOk_empty chain
  ranges := fun _ _ h => by cases h
  written := fun _ => by simp [WindowDb.empty]
  sealed := fun _ _ hlt => absurd hlt (Nat.not_lt_zero _)
  committed := fun _ _ h => by cases h
  owner := fun _ h => by cases h

theorem walkOk_start (stored : db.window count = some window)
    {lastParentBlock : Option ParentBlock}
    (hlast : lastParentBlock = none ∨
      count = 0 ∧
        lastParentBlock =
          some (chain.parent (window.parentStartBlock - 1)) ∧
        Untouched chain db window.origin) :
    ProcOk chain db count (startWalk window lastParentBlock) := by
  refine ⟨window.parentStartBlock, window.parentStartBlock, ?_⟩
  have harriving : Arriving chain count window.parentStartBlock
      window.parentStartBlock
      { currentWindow := window
        parentNumber := window.parentStartBlock
        paraNumber := window.paraStartBlock
        context := Context.start window.parentStartBlock window.paraStartBlock
        lastParentBlock } :=
    arriving_start (hlast.imp_right fun hfirst => ⟨hfirst.1, hfirst.2.1⟩)
  exact
    { harriving with
      window := stored
      covered := fun _ _ hrange hlt =>
        absurd hlt (Nat.not_lt.mpr (Nat.le_trans hrange.start_le hrange.ordered))
      last := Or.inr ⟨rfl, hlast⟩ }

theorem WalkOk.arriving (h : WalkOk chain db count first number walk) :
    Arriving chain count first number walk where
  parentNumber := h.parentNumber
  paraNumber := h.paraNumber
  context := h.context
  range := h.range
  sameSet := h.sameSet
  last := h.last.imp_right fun hfirst =>
    ⟨hfirst.1, hfirst.2.imp_right fun hzero => ⟨hzero.1, hzero.2.1⟩⟩

theorem VisitOk.arrived (h : VisitOk chain db count number visit) :
    Arrived chain count number visit where
  currParentBlock := h.currParentBlock
  currParaBlock := h.currParaBlock
  matched := h.matched
  range := h.range
  next := h.next
  sameSet := h.sameSet
  last := h.last.imp_right fun hfirst =>
    ⟨hfirst.1, hfirst.2.imp_right fun hzero => ⟨hzero.1, hzero.2.1⟩⟩

theorem WalkOk.changed (h : WalkOk chain db count first number walk) :
    (walk.currentWindow.parentStartBlock < number →
        setIdChanged (chain.parent number) walk.lastParentBlock =
          decide (chain.SetIdGrows number)) ∧
      (number = walk.currentWindow.parentStartBlock → count ≠ 0 →
        setIdChanged (chain.parent number) walk.lastParentBlock = false) := by
  rcases h.last with ⟨hlt, hlast⟩ | ⟨hnumber, hnone | ⟨hcount, hlast, -⟩⟩
  · refine ⟨fun _ => ?_, fun hnumber => by omega⟩
    rw [hlast, setIdChanged_some]
    rfl
  · refine ⟨fun hlt => by omega, fun _ _ => ?_⟩
    rw [hnone]
    rfl
  · exact ⟨fun hlt => by omega, fun _ hne => absurd hcount hne⟩

/-- Every range up to `number` is stored behind the visit, also when its mark
is found and the batch is skipped. -/
theorem WalkOk.visitedDb (hok : DbOk chain db count)
    (h : WalkOk chain db count first number walk) :
    DbOk chain (chain.visitedDb db first number walk) count ∧
      Covered chain (chain.visitedDb db first number walk)
        walk.currentWindow.origin (number + 1) := by
  by_cases hjustified : chain.Justified number
  · have hrange : chain.IsRange walk.currentWindow.origin first number :=
      { h.range with closes := hjustified }
    have hwritten := hok.written_iff h.window hrange
    cases hmark : db.rangeWritten
        (chain.rangeKey walk.currentWindow.origin first number) with
    | true =>
        rw [Chain.visitedDb, if_neg (by simp [hmark])]
        refine ⟨hok, fun rangeFirst rangeStop hother hlt => ?_⟩
        rcases Nat.lt_succ_iff_lt_or_eq.mp hlt with hlt | rfl
        · exact h.covered rangeFirst rangeStop hother hlt
        · rw [hother.start_unique hrange]
          exact hwritten.mp hmark
    | false =>
        have habsent : db.rangeByParentBlock first = none := by
          rw [← Option.not_isSome_iff_eq_none, ← hwritten, hmark]
          exact Bool.false_ne_true
        rw [Chain.visitedDb, if_pos ⟨hjustified, hmark⟩]
        refine ⟨hok.writeRange h.window hrange h.sameSet habsent h.changed.1
          h.changed.2, fun rangeFirst rangeStop hother hlt => ?_⟩
        rcases Nat.lt_succ_iff_lt_or_eq.mp hlt with hlt | rfl
        · have := h.covered rangeFirst rangeStop hother hlt
          by_cases heq : rangeFirst = first
          · simp [Chain.writeRange, heq]
          · simpa [Chain.writeRange, heq] using this
        · simp [Chain.writeRange, hother.start_unique hrange]
  · rw [Chain.visitedDb, if_neg (by simp [hjustified])]
    refine ⟨hok, fun rangeFirst rangeStop hother hlt => ?_⟩
    rcases Nat.lt_succ_iff_lt_or_eq.mp hlt with hlt | rfl
    · exact h.covered rangeFirst rangeStop hother hlt
    · exact absurd hother.closes hjustified

/-- The first visit of the first window, when nothing is stored yet. -/
theorem WalkOk.firstVisit (h : WalkOk chain db count first number walk)
    (hnumber : number = walk.currentWindow.parentStartBlock)
    (hlast : walk.lastParentBlock = some (chain.parent (number - 1)))
    (hfresh : Untouched chain db walk.currentWindow.origin)
    (hunmarked : db.rangeWritten
      (chain.rangeKey walk.currentWindow.origin first number) = false) :
    FirstVisit chain (chain.visitedDb db first number walk)
      walk.currentWindow.origin := by
  have hfirst : first = number := by
    have hle := h.range.start_le
    have hge := h.range.ordered
    simp only [origin_parentStart] at hle
    omega
  subst hfirst
  rw [← origin_parentStart] at hnumber
  by_cases hjustified : chain.Justified first
  · rw [Chain.visitedDb, if_pos ⟨hjustified, hunmarked⟩]
    refine
      { within := ?_, committed := hfresh.committed, request := ?_ }
    · intro rangeFirst rangeMeta hstart hmeta
      by_cases heq : rangeFirst = first
      · subst heq
        simp only [Chain.writeRange, Function.update_self,
          Option.some.injEq] at hmeta
        rw [← hmeta, Chain.rangeMeta_stop, hnumber]
      · simp only [Chain.writeRange, Function.update_of_ne heq] at hmeta
        rw [hfresh.ranges rangeFirst hstart] at hmeta
        contradiction
    · intro _
      rw [← hnumber, hlast, setIdChanged_some]
      simp only [Chain.writeRange, Function.update_self]
      rfl
  · rw [Chain.visitedDb, if_neg (by simp [hjustified])]
    exact
      { within := fun rangeFirst rangeMeta hstart hmeta => by
          rw [hfresh.ranges rangeFirst hstart] at hmeta
          contradiction
        committed := hfresh.committed
        request := fun hrequested => by
          rw [← hnumber] at hrequested
          exact absurd hrequested hjustified }

/-- The visit of a block writes the range it closes, unless that range is
stored already. -/
theorem visitBlock_ok (hok : DbOk chain db count)
    (h : WalkOk chain db count first number walk) :
    ∃ written visit, visitBlock chain db walk = some (written, visit) ∧
      DbOk chain written count ∧ VisitOk chain written count number visit := by
  obtain ⟨visit, hvisit, harrived, hcurrent, hlastBlock⟩ :=
    h.arriving.visitBlock db
  obtain ⟨hdb, hcovered⟩ := h.visitedDb hok
  refine ⟨_, visit, hvisit, hdb, ?_⟩
  refine
    { harrived with
      window := by
        rw [visitedDb_window, hcurrent]
        exact h.window
      covered := by rwa [hcurrent]
      last := ?_ }
  rw [hcurrent, hlastBlock]
  rcases h.last with hlater | ⟨hnumber, hnone | ⟨hcount, hlast, hfresh⟩⟩
  · exact Or.inl hlater
  · exact Or.inr ⟨hnumber, Or.inl hnone⟩
  · refine Or.inr ⟨hnumber, Or.inr ⟨hcount, hlast,
      h.firstVisit hnumber hlast hfresh ?_⟩⟩
    rw [Bool.eq_false_iff]
    intro hmark
    obtain ⟨rangeMeta, hmeta, -⟩ := (hok.written _).mp hmark
    rw [Chain.rangeKey_parentStart, hfresh.ranges first h.range.start_le]
      at hmeta
    contradiction

namespace VisitOk

theorem grows (h : VisitOk chain db count number visit)
    (hchanged : setIdChanged visit.currParentBlock visit.lastParentBlock = true) :
    chain.SetIdGrows number ∧
      (visit.currentWindow.parentStartBlock < number ∨
        number = visit.currentWindow.parentStartBlock ∧ count = 0 ∧
          FirstVisit chain db visit.currentWindow.origin) := by
  refine ⟨(h.arrived.grows hchanged).1, ?_⟩
  rcases h.last with ⟨hlt, -⟩ | ⟨hnumber, hnone | ⟨hcount, -, hfirst⟩⟩
  · exact Or.inl hlt
  · rw [hnone] at hchanged
    contradiction
  · exact Or.inr ⟨hnumber, hcount, hfirst⟩

theorem recur {written : WindowDb}
    (h : VisitOk chain db count number visit)
    (hquiet : setIdChanged visit.currParentBlock visit.lastParentBlock = false)
    (stored : written.window count = some window)
    (horigin : window.origin = visit.currentWindow.origin)
    (hranges : written.rangeByParentBlock = db.rangeByParentBlock) :
    ∃ first, WalkOk chain written count first (number + 1)
      (visit.recur window) := by
  obtain ⟨first, harriving⟩ := h.arrived.recur hquiet horigin
  have hle := h.arrived.start_le
  have hstart : window.parentStartBlock =
      visit.currentWindow.parentStartBlock :=
    congrArg Origin.parentStart horigin
  refine ⟨first, { harriving with
    window := stored
    covered := ?_
    last := Or.inl ⟨?_, ?_⟩ }⟩
  · simpa only [Covered, Visit.recur, horigin, hranges] using h.covered
  · simp only [Visit.recur, hstart]
    omega
  · simp only [Visit.recur, h.currParentBlock, Nat.add_sub_cancel]

/-- The dry range that ends at the closing block carries the authority set
change. -/
theorem last_request (hok : DbOk chain db count)
    (h : VisitOk chain db count number visit)
    (hchanged : setIdChanged visit.currParentBlock visit.lastParentBlock = true)
    (hjustified : chain.Justified number) :
    ∃ first, chain.IsRange visit.currentWindow.origin first number ∧
      db.drySyncHeader
          (chain.rangeKey visit.currentWindow.origin first number) =
        some (chain.rangeReq visit.currentWindow.origin first number true) := by
  obtain ⟨first, hopen, -⟩ := h.range
  have hrange : chain.IsRange visit.currentWindow.origin first number :=
    { hopen with closes := hjustified }
  obtain ⟨hgrows, hlt | ⟨hnumber, -, hfirst⟩⟩ := h.grows hchanged
  · obtain ⟨rangeMeta, hmeta⟩ := Option.isSome_iff_exists.mp
      (h.covered first number hrange (Nat.lt_succ_self _))
    obtain ⟨changed, hrequest, hlater, -⟩ :=
      (hok.stop_eq h.window hrange hmeta).request
    refine ⟨first, hrange, ?_⟩
    rw [hrequest, hlater hlt, decide_eq_true hgrows]
  · have hfirstNumber : first = number := by
      have hle := hopen.start_le
      have hge := hopen.ordered
      simp only [origin_parentStart] at hle
      omega
    subst hfirstNumber
    refine ⟨first, hrange, ?_⟩
    have hrequest := hfirst.request (by rwa [origin_parentStart, ← hnumber])
    rw [origin_parentStart, ← hnumber, decide_eq_true hgrows] at hrequest
    exact hrequest

theorem within (h : VisitOk chain db count number visit)
    (hchanged : setIdChanged visit.currParentBlock visit.lastParentBlock = true)
    {stop : Nat} {rangeMeta : RangeMeta}
    (hrange : RangeOk chain db count visit.currentWindow.origin first stop
      rangeMeta)
    (hmeta : db.rangeByParentBlock first = some rangeMeta) :
    stop ≤ number := by
  obtain ⟨hgrows, hlt | ⟨hnumber, -, hfirst⟩⟩ := h.grows hchanged
  · by_contra hgt
    exact hrange.sameSet number hlt (by omega) hgrows
  · have hstop := hfirst.within first rangeMeta hrange.range.start_le hmeta
    have hcontent := congrArg RangeMeta.parentStopBlock hrange.content
    rw [Chain.rangeMeta_stop] at hcontent
    have : stop = visit.currentWindow.parentStartBlock :=
      hcontent.symm.trans hstop
    omega

/-- What the database must hold once the blob of the closing window is there,
whether it was written now or before. -/
theorem closing (hok : DbOk chain db count)
    (h : VisitOk chain db count number visit)
    (hchanged :
      setIdChanged visit.currParentBlock visit.lastParentBlock = true)
    (hjustified : chain.Justified number) {written : WindowDb}
    (hid : window.windowId = count)
    (horigin : window.origin = visit.currentWindow.origin)
    (hfinished : window.isFinished = true) (hstop : window.stop = number)
    (hclosed : ClosedAt chain window) (hwindow : written.window = db.window)
    (hrequests : written.drySyncHeader = db.drySyncHeader)
    (hcovered : Covered chain written visit.currentWindow.origin (number + 1))
    (hblob : BlobOk chain written visit.currentWindow.origin number)
    (hwithin : ∀ first stop rangeMeta,
      RangeOk chain written count visit.currentWindow.origin first stop
        rangeMeta →
      written.rangeByParentBlock first = some rangeMeta → stop ≤ number) :
    Closing chain written count window := by
  refine
    { current := ⟨visit.currentWindow, ?_, horigin.symm⟩
      windowId := hid
      isFinished := hfinished
      closed := hclosed
      ok := ?_
      within := ?_ }
  · rw [hwindow]
    exact h.window
  · rw [horigin, hstop]
    exact
      { covered := hcovered
        blob := hblob
        last := by
          rw [hrequests]
          exact h.last_request hok hchanged hjustified }
  · rw [horigin, hstop]
    exact hwithin

theorem writeBlob_covered (h : VisitOk chain db count number visit) :
    Covered chain (chain.writeBlob visit.currentWindow.origin db number)
      visit.currentWindow.origin (number + 1) := by
  intro rangeFirst rangeStop hrange hlt
  have := h.covered rangeFirst rangeStop hrange hlt
  rw [Chain.writeBlob_range]
  split
  · simpa using this
  · exact this

/-- Pointing the ranges to the blob leaves them within the window. -/
theorem writeBlob_within (hok : DbOk chain db count)
    (h : VisitOk chain db count number visit)
    (hchanged : setIdChanged visit.currParentBlock visit.lastParentBlock = true)
    {stop : Nat} {rangeMeta : RangeMeta}
    (hrange : RangeOk chain
      (chain.writeBlob visit.currentWindow.origin db number) count
      visit.currentWindow.origin first stop rangeMeta)
    (hmeta :
      (chain.writeBlob visit.currentWindow.origin db
        number).rangeByParentBlock first = some rangeMeta) :
    stop ≤ number := by
  obtain ⟨old, hold, rfl | ⟨-, rfl⟩⟩ := writeBlob_record hmeta
  · exact h.within hchanged (hrange.congr rfl) hold
  · obtain ⟨otherStop, hother, -⟩ := hok.range_of_window h.window hold
      hrange.range.start_le (fun hlt => absurd hlt (Nat.lt_irrefl _))
    rw [hrange.range.stop_unique hother.range]
    exact h.within hchanged hother hold

/-- The window closes: its blob is written, or was committed before. -/
theorem finish_changed (hgrandpa : chain.Grandpa)
    (hok : DbOk chain db count)
    (h : VisitOk chain db count number visit)
    (hchanged :
      setIdChanged visit.currParentBlock visit.lastParentBlock = true) :
    ∃ written proc, finishVisit db visit = some (written, proc) ∧
      DbOk chain written count ∧ ProcOk chain written count proc := by
  obtain ⟨hgrows, hplace⟩ := h.grows hchanged
  have hgenesis := hok.windows.genesis_lt h.window
  have hle := h.arrived.start_le
  have hjustified : chain.Justified number :=
    hgrandpa number (by omega) hgrows
  obtain ⟨window, hclose, hid, horigin, hfinished, hstop, hclosed⟩ :=
    h.arrived.closedWindow (hok.windows.windowId count _ h.window) hchanged
  rw [h.arrived.finishVisit_changed hchanged hclose db]
  cases hcommitted : db.blobRangeCommitted
      (chain.blobKey window.origin number) with
  | true =>
      refine ⟨db, .close window, by simp, hok, ?_⟩
      rw [horigin] at hcommitted
      rcases hplace with hlt | ⟨-, -, hfirst⟩
      · obtain ⟨-, -, hcovered, hblob⟩ :=
          hok.committed visit.currentWindow number h.window hlt hcommitted
        exact h.closing hok hchanged hjustified hid horigin hfinished hstop
          hclosed rfl rfl hcovered hblob
          fun _ _ _ hrange hmeta => h.within hchanged hrange hmeta
      · rw [hfirst.committed number] at hcommitted
        contradiction
  | false =>
      rw [horigin] at hcommitted
      have hfresh : visit.currentWindow.parentStartBlock < number ∧
            chain.SetIdGrows number ∧
            chain.SameSet visit.currentWindow.parentStartBlock number ∧
            db.blobRangeCommitted
              (chain.blobKey visit.currentWindow.origin number) = false ∨
          ∀ other, db.blobRangeCommitted
            (chain.blobKey visit.currentWindow.origin other) = false := by
        rcases hplace with hlt | ⟨-, -, hfirst⟩
        · exact Or.inl ⟨hlt, hgrows, h.sameSet, hcommitted⟩
        · exact Or.inr hfirst.committed
      have hdb := hok.writeBlob h.window hfresh
      refine ⟨chain.writeBlob window.origin db number,
        .mark window (chain.blobKey window.origin number), by simp, ?_, ?_, ?_⟩
      · rwa [horigin]
      · rw [horigin]
        exact h.closing hok hchanged hjustified hid horigin hfinished hstop
          hclosed rfl rfl h.writeBlob_covered blobOk_writeBlob
          fun _ _ _ hrange hmeta => h.writeBlob_within hok hchanged hrange hmeta
      · rw [hstop]

theorem finish_quiet (hok : DbOk chain db count)
    (h : VisitOk chain db count number visit)
    (hquiet :
      setIdChanged visit.currParentBlock visit.lastParentBlock = false) :
    ∃ written proc, finishVisit db visit = some (written, proc) ∧
      DbOk chain written count ∧ ProcOk chain written count proc := by
  rw [finishVisit_quiet hquiet]
  have hid := hok.windows.windowId count _ h.window
  have hopen := hok.windows.current _ h.window
  split
  · have hstored : (db.putWindow { visit.currentWindow with
          setId := visit.currParentBlock.setId }).window count =
        some { visit.currentWindow with
          setId := visit.currParentBlock.setId } := by
      rw [← hid]
      exact putWindow_self _
    obtain ⟨first, hwalk⟩ := h.recur hquiet hstored rfl rfl
    exact ⟨_, _, rfl, hok.rewrite h.window hid hopen rfl,
      first, number + 1, hwalk⟩
  · obtain ⟨first, hwalk⟩ := h.recur hquiet h.window rfl rfl
    exact ⟨_, _, rfl, hok, first, number + 1, hwalk⟩

end VisitOk

theorem DbOk.untouched (hok : DbOk chain db 0) (absent : db.window 0 = none)
    (origin : Origin) : Untouched chain db origin where
  ranges := fun first _ => by
    rw [← Option.not_isSome_iff_eq_none]
    intro hsome
    obtain ⟨rangeMeta, hmeta⟩ := Option.isSome_iff_exists.mp hsome
    obtain ⟨id, owner, -, hwindow, -⟩ := hok.ranges first rangeMeta hmeta
    cases Nat.le_zero.mp (hok.windows.le_count hwindow)
    rw [absent] at hwindow
    contradiction
  committed := fun stop => by
    rw [Bool.eq_false_iff]
    intro hcommitted
    obtain ⟨id, owner, hwindow, -⟩ := hok.owner _ hcommitted
    cases Nat.le_zero.mp (hok.windows.le_count hwindow)
    rw [absent] at hwindow
    contradiction

theorem walkWindow_ok {state : WalkState} {id : Nat}
    {lastWindow : Option Window} (hok : DbOk chain state.db count)
    (hproc : ProcOk chain state.db count (.next id lastWindow)) :
    ∃ after, walkWindow chain state id lastWindow = some after ∧
      StateOk chain after := by
  have hle := hproc.1
  cases hstored : state.db.window id with
  | some window =>
      simp only [walkWindow, WindowDb.getWindow, hstored]
      rcases Nat.lt_or_eq_of_le hle with hlt | rfl
      · rw [if_pos ((hok.windows.isFinished_iff hstored).mpr hlt)]
        exact ⟨_, rfl, count, hok, hlt,
          Or.inr ⟨id, window, rfl, rfl, hstored⟩⟩
      · rw [if_neg (by simp [hok.windows.current window hstored])]
        exact ⟨_, rfl, id, hok, walkOk_start hstored (Or.inl rfl)⟩
  | none =>
      cases hok.windows.eq_count_of_absent hle hstored
      obtain ⟨origin, last, hfirst, hplaced, hbehind, hlast⟩ :=
        firstBlocks_placed hok.windows hproc.2
      simp only [walkWindow, WindowDb.getWindow, hstored, hfirst,
        Option.bind_eq_bind, Option.bind_some, Option.pure_def]
      have hcreated := hok.create hstored hplaced rfl fun other window hother =>
        hbehind other window hother (Nat.lt_of_le_of_ne
          (hok.windows.le_count hother) (by
            rintro rfl
            rw [hstored] at hother
            contradiction))
      refine ⟨_, rfl, count, hcreated, walkOk_start (putWindow_self _) ?_⟩
      apply hlast.imp_right
      rintro ⟨rfl, hparent⟩
      have huntouched := hok.untouched hstored origin
      exact ⟨rfl, hparent, { huntouched with }⟩

theorem stateOk_step {state : WalkState} (hgrandpa : chain.Grandpa)
    (h : StateOk chain state) : StateOk chain (walkStep chain state) := by
  obtain ⟨db, proc, heights⟩ := state
  obtain ⟨count, hok, hproc⟩ := h
  cases proc with
  | next id lastWindow =>
      obtain ⟨after, hafter, hstate⟩ :=
        @walkWindow_ok chain count ⟨db, .next id lastWindow, heights⟩ id
          lastWindow hok hproc
      simp only [walkStep, hafter, Option.getD_some]
      exact hstate
  | block walk =>
      obtain ⟨first, number, hwalk⟩ := hproc
      obtain ⟨written, visit, hvisit, hdb, hvisited⟩ := visitBlock_ok hok hwalk
      simp only [walkStep, hvisit]
      exact ⟨count, hdb, number, hvisited⟩
  | visited visit =>
      obtain ⟨number, hvisited⟩ := hproc
      have hfinish : ∃ written proc,
          finishVisit db visit = some (written, proc) ∧
            DbOk chain written count ∧ ProcOk chain written count proc := by
        cases hchanged :
            setIdChanged visit.currParentBlock visit.lastParentBlock with
        | true => exact hvisited.finish_changed hgrandpa hok hchanged
        | false => exact hvisited.finish_quiet hok hchanged
      obtain ⟨written, proc, hfinished, hdb, hnext⟩ := hfinish
      simp only [walkStep, hfinished]
      exact ⟨count, hdb, hnext⟩
  | mark window key =>
      obtain ⟨hclosing, rfl⟩ := hproc
      obtain ⟨opened, hstored, horigin⟩ := hclosing.current
      have hstart : opened.parentStartBlock = window.parentStartBlock :=
        congrArg Origin.parentStart horigin
      refine ⟨count, ?_, ?_⟩
      · have := hok.markBlob hstored
          hclosing.closed.grows (by rw [hstart]; exact hclosing.closed.sameSet)
          (by rw [horigin]; exact hclosing.ok.covered)
          (by rw [horigin]; exact hclosing.ok.blob)
        rwa [horigin] at this
      · exact
          { current := ⟨opened, hstored, horigin⟩
            windowId := hclosing.windowId
            isFinished := hclosing.isFinished
            closed := hclosing.closed
            ok :=
              { covered := hclosing.ok.covered
                blob :=
                  { stored := hclosing.ok.blob.stored
                    points := hclosing.ok.blob.points }
                last := hclosing.ok.last }
            within := fun _ _ _ hrange hmeta =>
              hclosing.within _ _ _ (hrange.congr rfl) hmeta }
  | close window =>
      obtain ⟨opened, hstored, horigin⟩ := hproc.current
      refine ⟨count + 1, ?_, count, rfl, ?_⟩
      · refine hok.close hstored hproc.windowId hproc.isFinished horigin.symm
          hproc.closed hproc.ok ?_
        rw [horigin]
        exact hproc.within
      · rw [← hproc.windowId]
        exact putWindow_self window
  | commit window =>
      obtain ⟨id, rfl, hstored⟩ := hproc
      have hid := hok.windows.windowId id window hstored
      refine ⟨id + 1, hok.setLastCommittedParentBlock _, ?_⟩
      simp only [walkStep, hid]
      exact ⟨Nat.le_refl _, Or.inr ⟨id, window, rfl, rfl, hstored⟩⟩
  | exited => exact hproc.elim

/-- Every run keeps the database in order, whatever crashes interrupt it. -/
theorem stateOk_reachable {state : WalkState} (hgrandpa : chain.Grandpa)
    (h : (walkMachine chain).Reachable state) : StateOk chain state := by
  refine Machine.Preserves.reaches ?_ ?_ h
  · intro before event after _ hbefore htaken
    cases event with
    | proceed =>
        cases Option.some.inj htaken
        exact stateOk_step hgrandpa hbefore
    | crash =>
        cases Option.some.inj htaken
        obtain ⟨count, hok, -⟩ := hbefore
        exact ⟨count, hok, Nat.zero_le _, Or.inl ⟨rfl, rfl⟩⟩
  · exact ⟨0, dbOk_empty chain, Nat.le_refl _, Or.inl ⟨rfl, rfl⟩⟩

end RuntimeBridge.DataProvider
