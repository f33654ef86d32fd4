import RuntimeBridge.DataProvider.WindowWrites

/-! Where the window loop stands on any chain, in closed form: what `walkBlock`
has collected at each relay block, and the window that it closes. -/

namespace RuntimeBridge.DataProvider

open Library

/-- The walk is about to visit `number` in the range begun at `first`. -/
structure Arriving (chain : Chain) (count first number : Nat) (walk : Walk) :
    Prop where
  parentNumber : walk.parentNumber = number
  paraNumber :
    walk.paraNumber = chain.cursor walk.currentWindow.origin number
  context :
    walk.context = chain.contextAt walk.currentWindow.origin first number
  range : chain.OpenRange walk.currentWindow.origin first number
  sameSet : chain.SameSet walk.currentWindow.parentStartBlock number
  last :
    walk.currentWindow.parentStartBlock < number ∧
      walk.lastParentBlock = some (chain.parent (number - 1)) ∨
    number = walk.currentWindow.parentStartBlock ∧
      (walk.lastParentBlock = none ∨
        count = 0 ∧ walk.lastParentBlock = some (chain.parent (number - 1)))

structure Arrived (chain : Chain) (count number : Nat) (visit : Visit) :
    Prop where
  currParentBlock : visit.currParentBlock = chain.parent number
  currParaBlock : visit.currParaBlock =
    chain.para (chain.cursor visit.currentWindow.origin number)
  matched : visit.paraNumberMatched =
    decide (visit.currParaBlock.number = visit.currParentBlock.paraNumber)
  range : ∃ first, chain.OpenRange visit.currentWindow.origin first number ∧
    visit.context =
      chain.contextAt visit.currentWindow.origin first (number + 1)
  next : ∃ first,
    chain.OpenRange visit.currentWindow.origin first (number + 1) ∧
    visit.nextContext =
      chain.contextAt visit.currentWindow.origin first (number + 1)
  sameSet : chain.SameSet visit.currentWindow.parentStartBlock number
  last :
    visit.currentWindow.parentStartBlock < number ∧
      visit.lastParentBlock = some (chain.parent (number - 1)) ∨
    number = visit.currentWindow.parentStartBlock ∧
      (visit.lastParentBlock = none ∨
        count = 0 ∧ visit.lastParentBlock = some (chain.parent (number - 1)))

variable {chain : Chain} {db written : WindowDb}
  {count number first : Nat} {window : Window} {walk : Walk} {visit : Visit}

theorem setIdChanged_some (curr last : ParentBlock) :
    setIdChanged curr (some last) = decide (last.setId < curr.setId) := rfl

/-- The end of `walkBlock` where the set stays as it was: the walk goes on. -/
theorem finishVisit_quiet
    (hquiet :
      setIdChanged visit.currParentBlock visit.lastParentBlock = false)
    (db : WindowDb) :
    finishVisit db visit =
      if visit.currentWindow.setId = -1 then
        some (db.putWindow { visit.currentWindow with
            setId := visit.currParentBlock.setId },
          .block (visit.recur { visit.currentWindow with
            setId := visit.currParentBlock.setId }))
      else
        some (db, .block (visit.recur visit.currentWindow)) := by
  rw [finishVisit, if_neg (by simp [hquiet])]
  rfl

/-- The call of `walkBlock` that leaves its justification branch with
`nextContext`. -/
def Walk.arrive (chain : Chain) (walk : Walk) (nextContext : Context) :
    Visit where
  currentWindow := walk.currentWindow
  currParentBlock := chain.parent walk.parentNumber
  currParaBlock := chain.para walk.paraNumber
  paraNumberMatched :=
    decide ((chain.para walk.paraNumber).number =
      (chain.parent walk.parentNumber).paraNumber)
  context := walk.context.push (chain.parent walk.parentNumber)
    (chain.para walk.paraNumber)
  nextContext
  lastParentBlock := walk.lastParentBlock

/-- What the justification branch of `walkBlock` leaves in the database. -/
def Chain.visitedDb (chain : Chain) (db : WindowDb) (first number : Nat)
    (walk : Walk) : WindowDb :=
  if chain.Justified number ∧
      db.rangeWritten
        (chain.rangeKey walk.currentWindow.origin first number) = false then
    chain.writeRange walk.currentWindow.origin db first number
      (setIdChanged (chain.parent number) walk.lastParentBlock)
  else
    db

theorem visitedDb_window :
    (chain.visitedDb db first number walk).window = db.window := by
  unfold Chain.visitedDb
  split
  · rfl
  · rfl

theorem arriving_start {lastParentBlock : Option ParentBlock}
    (hlast : lastParentBlock = none ∨
      count = 0 ∧
        lastParentBlock =
          some (chain.parent (window.parentStartBlock - 1))) :
    Arriving chain count window.parentStartBlock window.parentStartBlock
      { currentWindow := window
        parentNumber := window.parentStartBlock
        paraNumber := window.paraStartBlock
        context := Context.start window.parentStartBlock window.paraStartBlock
        lastParentBlock } where
  parentNumber := rfl
  paraNumber := (@Chain.cursor_of_le chain window.origin _
    (Nat.le_refl _)).symm
  context := (@Chain.contextAt_start chain window.origin).symm
  range := Chain.OpenRange.start
  sameSet := fun _ hlt hgt => absurd hlt (Nat.lt_asymm hgt)
  last := Or.inr ⟨rfl, hlast⟩

namespace Arriving

theorem push (h : Arriving chain count first number walk) :
    walk.context.push (chain.parent walk.parentNumber)
        (chain.para walk.paraNumber) =
      chain.contextAt walk.currentWindow.origin first (number + 1) := by
  rw [h.context, h.paraNumber, h.parentNumber, Chain.push_contextAt h.range]

theorem arrive (h : Arriving chain count first number walk)
    {nextContext : Context} {nextFirst : Nat}
    (hnext : chain.OpenRange walk.currentWindow.origin nextFirst (number + 1))
    (hcontext : nextContext =
      chain.contextAt walk.currentWindow.origin nextFirst (number + 1)) :
    Arrived chain count number (walk.arrive chain nextContext) where
  currParentBlock := congrArg chain.parent h.parentNumber
  currParaBlock := congrArg chain.para h.paraNumber
  matched := rfl
  range := ⟨first, h.range, h.push⟩
  next := ⟨nextFirst, hnext, hcontext⟩
  sameSet := h.sameSet
  last := h.last

/-- The visit of a block writes the range it closes, unless that range is
marked already. -/
theorem visitBlock (h : Arriving chain count first number walk)
    (db : WindowDb) :
    ∃ visit, DataProvider.visitBlock chain db walk =
        some (chain.visitedDb db first number walk, visit) ∧
      Arrived chain count number visit ∧
      visit.currentWindow = walk.currentWindow ∧
      visit.lastParentBlock = walk.lastParentBlock := by
  have hpush := h.push
  by_cases hjustified : chain.Justified number
  · have hstart : walk.currentWindow.origin.parentStart ≤ number :=
      Nat.le_trans h.range.start_le h.range.ordered
    have hflag : (chain.parent number).hasJustification = true := hjustified
    have hrange : chain.IsRange walk.currentWindow.origin first number :=
      { h.range with closes := hjustified }
    refine ⟨walk.arrive chain
      (chain.contextAt walk.currentWindow.origin (number + 1) (number + 1)),
      ?_, h.arrive hrange.next_open rfl, rfl, rfl⟩
    rw [h.parentNumber, h.paraNumber] at hpush
    simp only [DataProvider.visitBlock, Walk.arrive, h.parentNumber,
      h.paraNumber, hpush, hflag, if_true, Option.bind_eq_bind,
      Option.pure_def, chain.parent_number,
      Chain.setDryRange_contextAt h.range.ordered, Option.bind_some,
      Chain.visitedDb, hjustified, true_and]
    rw [Chain.next_paraNumber hstart, Chain.reset_contextAt]
    cases db.rangeWritten
      (chain.rangeKey walk.currentWindow.origin first number) <;> rfl
  · have hunjustified : (chain.parent number).hasJustification = false := by
      simpa [Chain.Justified] using hjustified
    refine ⟨walk.arrive chain (walk.context.push
      (chain.parent walk.parentNumber) (chain.para walk.paraNumber)), ?_,
      h.arrive (h.range.extend hjustified) hpush, rfl, rfl⟩
    simp [DataProvider.visitBlock, Walk.arrive, h.parentNumber, hunjustified,
      Chain.visitedDb, hjustified]

end Arriving

namespace Arrived

theorem start_le (h : Arrived chain count number visit) :
    visit.currentWindow.parentStartBlock ≤ number := by
  obtain ⟨first, hrange, -⟩ := h.range
  exact Nat.le_trans hrange.start_le hrange.ordered

theorem changed (h : Arrived chain count number visit)
    (hlt : visit.currentWindow.parentStartBlock < number) :
    setIdChanged visit.currParentBlock visit.lastParentBlock =
      decide (chain.SetIdGrows number) := by
  rcases h.last with ⟨-, hlast⟩ | ⟨hnumber, -⟩
  · rw [h.currParentBlock, hlast, setIdChanged_some]
    rfl
  · omega

theorem grows (h : Arrived chain count number visit)
    (hchanged : setIdChanged visit.currParentBlock visit.lastParentBlock = true) :
    chain.SetIdGrows number ∧
      (visit.currentWindow.parentStartBlock < number ∨
        number = visit.currentWindow.parentStartBlock ∧ count = 0) := by
  rcases h.last with ⟨hlt, hlast⟩ | ⟨hnumber, hnone | ⟨hcount, hlast⟩⟩
  · rw [h.changed hlt, decide_eq_true_eq] at hchanged
    exact ⟨hchanged, Or.inl hlt⟩
  · rw [hnone] at hchanged
    contradiction
  · rw [h.currParentBlock, hlast, setIdChanged_some,
      decide_eq_true_eq] at hchanged
    exact ⟨hchanged, Or.inr ⟨hnumber, hcount⟩⟩

theorem recur (h : Arrived chain count number visit)
    (hquiet : setIdChanged visit.currParentBlock visit.lastParentBlock = false)
    (horigin : window.origin = visit.currentWindow.origin) :
    ∃ first, Arriving chain count first (number + 1) (visit.recur window) := by
  obtain ⟨first, hrange, hcontext⟩ := h.next
  have hstart : window.parentStartBlock =
      visit.currentWindow.parentStartBlock :=
    congrArg Origin.parentStart horigin
  have hle := h.start_le
  refine ⟨first, ?_⟩
  refine
    { parentNumber := ?_
      paraNumber := ?_
      context := hcontext.trans (by rw [← horigin]; rfl)
      range := by simpa only [Visit.recur, horigin] using hrange
      sameSet := ?_
      last := Or.inl ⟨?_, ?_⟩ }
  · simp only [Visit.recur, h.currParentBlock, chain.parent_number]
  · simp only [Visit.recur, h.matched, h.currParaBlock, h.currParentBlock,
      horigin]
    exact Chain.next_paraNumber hle
  · intro other hgt hlt
    simp only [Visit.recur, hstart] at hgt
    rcases Nat.lt_succ_iff_lt_or_eq.mp hlt with hlt | rfl
    · exact h.sameSet other hgt hlt
    · rw [h.changed hgt, decide_eq_false_iff_not] at hquiet
      exact hquiet
  · simp only [Visit.recur, hstart]
    omega
  · simp only [Visit.recur, h.currParentBlock, Nat.add_sub_cancel]

theorem closeWindow (h : Arrived chain count number visit) :
    ∃ window, DataProvider.closeWindow visit = some window ∧
      window.windowId = visit.currentWindow.windowId ∧
      window.origin = visit.currentWindow.origin ∧
      window.isFinished = true ∧ window.parentStopBlock = number ∧
      window.paraStopBlock =
        chain.closingPara visit.currentWindow.origin number := by
  obtain ⟨first, hrange, hcontext⟩ := h.range
  have hlast : visit.context.parentBlocks.getLast? =
      some (chain.parent number) := by
    rw [hcontext]
    exact Chain.parents_getLast? hrange.ordered
  simp only [DataProvider.closeWindow, hlast, Option.bind_eq_bind,
    Option.bind_some, Option.pure_def]
  refine ⟨_, rfl, rfl, rfl, rfl, by simp only [chain.parent_number], ?_⟩
  have hmatched := h.matched
  rw [h.currParaBlock, h.currParentBlock, chain.para_number] at hmatched
  have hcursor := @Chain.cursor_succ chain visit.currentWindow.origin number
    h.start_le
  simp only [Chain.closingPara, h.currParaBlock, chain.para_number, hmatched,
    hcursor, Chain.advance]
  by_cases hempty : visit.currentWindow.paraStartBlock =
      chain.cursor visit.currentWindow.origin number
  · have hsame : chain.cursor visit.currentWindow.origin number =
        visit.currentWindow.origin.paraStart := hempty.symm
    rw [if_pos hempty, if_pos hsame]
    rfl
  · have hne : chain.cursor visit.currentWindow.origin number ≠
        visit.currentWindow.origin.paraStart := Ne.symm hempty
    rw [if_neg hempty, if_neg hne]
    by_cases hmatch : chain.cursor visit.currentWindow.origin number =
        (chain.parent number).paraNumber
    · simp [hmatch]
    · simp [hmatch, Ne.symm hmatch]

/-- The window that `closeWindow` returns at a set change is in order. -/
theorem closedWindow (h : Arrived chain count number visit)
    (hid : visit.currentWindow.windowId = count)
    (hchanged :
      setIdChanged visit.currParentBlock visit.lastParentBlock = true) :
    ∃ window, DataProvider.closeWindow visit = some window ∧
      window.windowId = count ∧
      window.origin = visit.currentWindow.origin ∧
      window.isFinished = true ∧ window.stop = number ∧
      ClosedAt chain window := by
  obtain ⟨hgrows, hplace⟩ := h.grows hchanged
  have hle := h.start_le
  obtain ⟨window, hclose, hwindowId, horigin, hfinished, hparent, hpara⟩ :=
    h.closeWindow
  rw [← horigin] at hpara
  rw [hid] at hwindowId
  have hstart : window.parentStartBlock =
      visit.currentWindow.parentStartBlock :=
    congrArg Origin.parentStart horigin
  have hstop : window.stop = number := by
    rw [Window.stop, hparent, Int.toNat_natCast]
  refine ⟨window, hclose, hwindowId, horigin, hfinished, hstop, ?_⟩
  exact
    { parentStop := by rw [hstop, hparent]
      paraStop := by rw [hstop, hpara]
      ordered := by rw [hstop, hstart]; exact hle
      grows := by rwa [hstop]
      sameSet := by rw [hstop, hstart]; exact h.sameSet
      first_block := fun heq => by
        rcases hplace with hlt | ⟨-, hcount⟩
        · omega
        · rw [hwindowId, hcount] }

/-- The end of `walkBlock` at a set change: the blob is written, unless it is
marked committed. -/
theorem finishVisit_changed (h : Arrived chain count number visit)
    (hchanged :
      setIdChanged visit.currParentBlock visit.lastParentBlock = true)
    (hclose : DataProvider.closeWindow visit = some window) (db : WindowDb) :
    finishVisit db visit =
      some (if db.blobRangeCommitted (chain.blobKey window.origin number) then
        (db, .close window)
      else
        (chain.writeBlob window.origin db number,
          .mark window (chain.blobKey window.origin number))) := by
  obtain ⟨closed, hclosed, -, horigin, -, hparent, hpara⟩ := h.closeWindow
  cases Option.some.inj (hclosed.symm.trans hclose)
  obtain ⟨first, -, hcontext⟩ := h.range
  rw [← horigin] at hcontext hpara
  have hstart : window.parentStartBlock ≤ number := by
    have := h.start_le
    have : window.parentStartBlock =
        visit.currentWindow.parentStartBlock :=
      congrArg Origin.parentStart horigin
    omega
  have hkey := @Chain.blobRangeKey_closed chain number window hparent hpara
  have hcommit := @Chain.commitBlobRange_closed chain number db window hparent
    hpara hstart
  have hparas : visit.context.accParaBlocks =
      chain.blobParas window.origin number := by
    rw [hcontext]
    rfl
  have hparents : visit.context.accParentBlocks =
      chain.parents window.parentStartBlock (number + 1) := by
    rw [hcontext]
    rfl
  rw [finishVisit, if_pos hchanged]
  simp only [hclose, hparas, hparents, hkey, hcommit, Option.bind_eq_bind,
    Option.bind_some, Option.pure_def]
  split
  · rfl
  · rfl

end Arrived

/-- The origin of a window that is not stored yet is past the windows that
are. -/
theorem firstBlocks_placed (hwindows : WindowsOk chain db.window count)
    {lastWindow : Option Window}
    (hproc : count = 0 ∧ lastWindow = none ∨
      ∃ previous window, count = previous + 1 ∧ lastWindow = some window ∧
        db.window previous = some window) :
    ∃ (origin : Origin) (last : Option ParentBlock),
      firstBlocks chain count lastWindow =
        some (origin.parentStart, origin.paraStart, last) ∧
      WindowsOk.Placed chain db.window count
        (WindowDb.emptyWindow count origin.parentStart origin.paraStart) ∧
      (∀ id other, db.window id = some other → id < count →
        other.stop < origin.parentStart) ∧
      (last = none ∨
        count = 0 ∧ last = some (chain.parent (origin.parentStart - 1))) := by
  obtain ⟨hzero, -⟩ | ⟨previous, window, hid, rfl, hprevious⟩ := hproc
  · subst hzero
    refine ⟨chain.firstOrigin, some (chain.parent chain.genesis.parentNumber),
      rfl, ?_, ?_, Or.inr ⟨rfl, rfl⟩⟩
    · exact
        { windowId := rfl
          first := fun _ => rfl
          follows := fun id _ heq => by omega }
    · intro id other _ hlt
      omega
  · subst hid
    have hclosed := hwindows.closed (Nat.lt_succ_self _) hprevious
    refine ⟨window.followingOrigin, none, rfl, ?_, ?_, Or.inl rfl⟩
    · exact
        { windowId := rfl
          first := fun heq => by omega
          follows := fun id other heq hother => by
            cases Nat.succ.inj heq
            cases Option.some.inj (hprevious.symm.trans hother)
            rfl }
    · intro id other hother hlt
      rw [hclosed.following_start]
      rcases Nat.lt_succ_iff_lt_or_eq.mp hlt with hlt | rfl
      · have := hwindows.stop_lt_start hlt hother hprevious
        have := hclosed.ordered
        omega
      · cases Option.some.inj (hother.symm.trans hprevious)
        omega

end RuntimeBridge.DataProvider
