import RuntimeBridge.DataProvider.WalkPosition

/-! A walk that is begun again over its own writes.  Until it is back where it
was interrupted, every step finds its work done and writes nothing. -/

namespace RuntimeBridge.DataProvider

open Library

variable {chain : Chain} {db : WindowDb} {count number first other : Nat}
  {window : Window} {walk again : Walk} {visit seen : Visit} {origin : Origin}

theorem Chain.OpenRange.start_unique
    (h : chain.OpenRange origin first number)
    (hother : chain.OpenRange origin other number) : first = other := by
  have hle := h.ordered
  have hotherLe := hother.ordered
  rcases Nat.lt_trichotomy first other with hlt | heq | hlt
  · rcases hother.begins with hstart | hjustified
    · have := h.start_le
      omega
    · exact absurd hjustified (h.quiet (other - 1) (by omega) (by omega))
  · exact heq
  · rcases h.begins with hstart | hjustified
    · have := hother.start_le
      omega
    · exact absurd hjustified (hother.quiet (first - 1) (by omega) (by omega))

attribute [ext] Walk Visit

theorem lastParentBlock_eq {start : Nat} {last : Option ParentBlock}
    (hpos : 0 < count)
    (h : start < number ∧ last = some (chain.parent (number - 1)) ∨
      number = start ∧ (last = none ∨
        count = 0 ∧ last = some (chain.parent (number - 1)))) :
    last =
      if start < number then some (chain.parent (number - 1)) else none := by
  rcases h with ⟨hlt, hlast⟩ | ⟨rfl, hnone | ⟨hzero, -⟩⟩
  · rw [if_pos hlt, hlast]
  · rw [if_neg (Nat.lt_irrefl _), hnone]
  · omega

/-- After the first window, where a walk is says what it has collected. -/
theorem Arriving.unique (h : Arriving chain count first number walk)
    (hagain : Arriving chain count other number again) (hpos : 0 < count)
    (hsame : walk.currentWindow = again.currentWindow) : walk = again := by
  have hfirst : first = other :=
    h.range.start_unique (hsame ▸ hagain.range)
  ext1
  case currentWindow => exact hsame
  case parentNumber => rw [h.parentNumber, hagain.parentNumber]
  case paraNumber => rw [h.paraNumber, hagain.paraNumber, hsame]
  case context => rw [h.context, hagain.context, hsame, hfirst]
  case lastParentBlock =>
    rw [lastParentBlock_eq hpos h.last, lastParentBlock_eq hpos hagain.last,
      hsame]

theorem Arrived.unique (h : Arrived chain count number visit)
    (hagain : Arrived chain count number seen) (hpos : 0 < count)
    (hsame : visit.currentWindow = seen.currentWindow) : visit = seen := by
  obtain ⟨first, hrange, hcontext⟩ := h.range
  obtain ⟨other, hotherRange, hotherContext⟩ := hagain.range
  obtain ⟨next, hnext, hnextContext⟩ := h.next
  obtain ⟨otherNext, hotherNext, hotherNextContext⟩ := hagain.next
  have hfirst : first = other := hrange.start_unique (hsame ▸ hotherRange)
  have hnextFirst : next = otherNext := hnext.start_unique (hsame ▸ hotherNext)
  have hparent : visit.currParentBlock = seen.currParentBlock :=
    h.currParentBlock.trans hagain.currParentBlock.symm
  have hpara : visit.currParaBlock = seen.currParaBlock := by
    rw [h.currParaBlock, hagain.currParaBlock, hsame]
  ext1
  case currentWindow => exact hsame
  case currParentBlock => exact hparent
  case currParaBlock => exact hpara
  case paraNumberMatched => rw [h.matched, hagain.matched, hparent, hpara]
  case context => rw [hcontext, hotherContext, hsame, hfirst]
  case nextContext => rw [hnextContext, hotherNextContext, hsame, hnextFirst]
  case lastParentBlock =>
    rw [lastParentBlock_eq hpos h.last, lastParentBlock_eq hpos hagain.last,
      hsame]

/-- A step that writes nothing, before window `windowId` is complete. -/
def QuietStep (chain : Chain) (db : WindowDb) (windowId : Nat)
    (proc next : Proc) : Prop :=
  (∀ last, proc ≠ .next (windowId + 1) last) ∧
    ∀ heights, ∃ reported,
      walkStep chain ⟨db, proc, heights⟩ = ⟨db, next, reported⟩

def Rewalk (chain : Chain) (db : WindowDb) (windowId : Nat) :
    Proc → Proc → Prop :=
  Relation.ReflTransGen (QuietStep chain db windowId)

variable {windowId : Nat}

theorem quiet_found {id : Nat} {last : Option Window}
    (hwindows : WindowsOk chain db.window count)
    (hstored : db.window id = some window) (hlt : id < count)
    (hle : id ≤ windowId) :
    QuietStep chain db windowId (.next id last)
      (.next (id + 1) (some window)) := by
  have hfinished := (hwindows.isFinished_iff hstored).mpr hlt
  constructor
  · intro other heq
    cases heq
    omega
  · intro heights
    simp only [walkStep, walkWindow, WindowDb.getWindow, hstored,
      if_pos hfinished, Option.getD_some]
    exact ⟨_, rfl⟩

theorem exists_procAt (hwindows : WindowsOk chain db.window count) {id : Nat}
    (hle : id ≤ count) : ∃ last, ProcAt chain db count (.next id last) := by
  cases id with
  | zero => exact ⟨none, hle, Or.inl ⟨rfl, rfl⟩⟩
  | succ previous =>
      obtain ⟨window, hstored, -⟩ := hwindows.finished previous hle
      exact ⟨some window, hle, Or.inr ⟨previous, window, rfl, rfl, hstored⟩⟩

/-- A restart finds the finished windows again. -/
theorem rewalk_next (hwindows : WindowsOk chain db.window count) {id : Nat}
    {last : Option Window} (hproc : ProcAt chain db count (.next id last))
    (hle : id ≤ windowId + 1) :
    Rewalk chain db windowId (.next 0 none) (.next id last) := by
  induction id generalizing last with
  | zero =>
      rcases hproc.2 with ⟨-, rfl⟩ | ⟨previous, window, heq, -⟩
      · exact Relation.ReflTransGen.refl
      · omega
  | succ id ih =>
      rcases hproc.2 with ⟨heq, -⟩ | ⟨previous, window, heq, rfl, hstored⟩
      · omega
      · cases Nat.succ.inj heq
        have hlt : id < count := hproc.1
        obtain ⟨earlier, hearlier⟩ :=
          exists_procAt hwindows (Nat.le_of_lt hlt)
        exact (ih hearlier (by omega)).tail
          (quiet_found hwindows hstored hlt (by omega))

theorem quiet_resumed {last : Option Window}
    (hwindows : WindowsOk chain db.window count)
    (hstored : db.window count = some window) (hle : count ≤ windowId) :
    QuietStep chain db windowId (.next count last) (startWalk window none) := by
  have hopen := hwindows.current window hstored
  constructor
  · intro other heq
    cases heq
    omega
  · intro heights
    simp only [walkStep, walkWindow, WindowDb.getWindow, hstored,
      if_neg (show ¬ window.isFinished = true by simp [hopen]),
      Option.getD_some]
    exact ⟨_, rfl⟩

/-- What a walk of the window up to `number` has left behind. -/
structure WalkedTo (chain : Chain) (db : WindowDb) (count number : Nat)
    (window : Window) : Prop where
  stored : db.window count = some window
  written : WrittenTo chain db window.origin number
  setId : window.parentStartBlock < number → window.setId ≠ -1
  sameSet : chain.SameSet window.parentStartBlock number

theorem WalkAt.walkedTo (h : WalkAt chain db count first number walk) :
    WalkedTo chain db count number walk.currentWindow where
  stored := h.window
  written := h.written
  setId := h.setId
  sameSet := h.sameSet

theorem VisitAt.walkedTo (h : VisitAt chain db count number visit) :
    WalkedTo chain db count number visit.currentWindow where
  stored := h.window
  written := fun first stop hrange hlt => h.written first stop hrange (by omega)
  setId := h.setId
  sameSet := h.sameSet

theorem quiet_block (h : WalkAt chain db count first number walk)
    (hwritten : WrittenTo chain db walk.currentWindow.origin (number + 1)) :
    ∃ visit, QuietStep chain db windowId (.block walk) (.visited visit) ∧
      VisitAt chain db count number visit ∧
      visit.currentWindow = walk.currentWindow := by
  obtain ⟨visit, hvisit, hvisited, hcurrent⟩ := h.visitBlock
  rw [visitedDb_same h.range hwritten] at hvisit hvisited
  refine ⟨visit, ⟨fun _ => nofun, fun heights => ?_⟩, hvisited,
    hcurrent⟩
  simp only [walkStep, hvisit]
  exact ⟨heights, rfl⟩

theorem quiet_visited (h : VisitAt chain db count number visit)
    (hquiet : setIdChanged visit.currParentBlock visit.lastParentBlock = false)
    (hknown : visit.currentWindow.setId ≠ -1) :
    ∃ first walk, QuietStep chain db windowId (.visited visit) (.block walk) ∧
      WalkAt chain db count first (number + 1) walk ∧
      walk.currentWindow = visit.currentWindow := by
  obtain ⟨first, harriving⟩ :=
    h.toArrived.recur hquiet (rfl : visit.currentWindow.origin = _)
  refine ⟨first, visit.recur visit.currentWindow,
    ⟨fun _ => nofun, fun heights => ?_⟩, ?_, rfl⟩
  · have hfinish := finishVisit_quiet hquiet db
    rw [if_neg hknown] at hfinish
    simp only [walkStep, hfinish]
    exact ⟨heights, rfl⟩
  · exact
      { harriving with
        window := h.window
        written := h.written
        setId := fun _ => hknown }

/-- Up to `number` the walk that is begun again writes nothing. -/
theorem rewalk_block (h : WalkedTo chain db count number window)
    (hpos : 0 < count) (hle : window.parentStartBlock ≤ number) :
    ∃ first walk, WalkAt chain db count first number walk ∧
      walk.currentWindow = window ∧
      Rewalk chain db windowId (startWalk window none) (.block walk) := by
  induction number, hle using Nat.le_induction with
  | base =>
      have hstart := @arriving_start chain count window none (Or.inl rfl)
      exact ⟨_, _,
        { hstart with
          window := h.stored
          written := h.written
          setId := fun hlt => absurd hlt (Nat.lt_irrefl _) },
        rfl, Relation.ReflTransGen.refl⟩
  | succ number hle ih =>
      have hknown : window.setId ≠ -1 := h.setId (by omega)
      obtain ⟨first, walk, hwalk, hcurrent, hrewalk⟩ := ih
        { stored := h.stored
          written := fun first stop hrange hlt =>
            h.written first stop hrange (by omega)
          setId := fun _ => hknown
          sameSet := fun other hgt hlt => h.sameSet other hgt (by omega) }
      obtain ⟨visit, hblock, hvisited, hsame⟩ :=
        @quiet_block chain db count number first walk windowId hwalk
          (hcurrent ▸ h.written)
      have hwindow : visit.currentWindow = window := hsame.trans hcurrent
      have hquiet :
          setIdChanged visit.currParentBlock visit.lastParentBlock = false := by
        rcases Nat.lt_or_eq_of_le hle with hlt | heq
        · rw [hvisited.toArrived.changed (by rwa [hwindow]),
            decide_eq_false_iff_not]
          exact h.sameSet number hlt (Nat.lt_succ_self _)
        · rw [lastParentBlock_eq hpos hvisited.last, hwindow,
            if_neg (by omega)]
          rfl
      obtain ⟨next, again, hstep, hagain, hkept⟩ :=
        @quiet_visited chain db count number visit windowId hvisited hquiet
          (hwindow ▸ hknown)
      exact ⟨next, again, hagain, hkept.trans hwindow,
        (hrewalk.tail hblock).tail hstep⟩

/-- Where a restart comes back to: past a window that is already finished. -/
def Proc.resumed : Proc → Proc
  | .commit window => .next (window.windowId + 1) (some window)
  | proc => proc

/-- Back to any block of the window that is being walked. -/
theorem rewalk_walk (hwindows : WindowsOk chain db.window count)
    (h : WalkedTo chain db count number window) (hpos : 0 < count)
    (hstart : window.parentStartBlock ≤ number) (hle : count ≤ windowId) :
    ∃ first walk, WalkAt chain db count first number walk ∧
      walk.currentWindow = window ∧
      Rewalk chain db windowId (.next 0 none) (.block walk) := by
  obtain ⟨last, hnext⟩ := exists_procAt hwindows (Nat.le_refl count)
  obtain ⟨first, walk, hwalk, hcurrent, hrewalk⟩ :=
    @rewalk_block chain db count number window windowId h hpos hstart
  refine ⟨first, walk, hwalk, hcurrent, ?_⟩
  exact ((rewalk_next hwindows hnext (by omega)).tail
    (quiet_resumed hwindows h.stored hle)).trans hrewalk

theorem rewalk_visited (hwindows : WindowsOk chain db.window count)
    (h : VisitAt chain db count number visit) (hpos : 0 < count)
    (hle : count ≤ windowId) :
    Rewalk chain db windowId (.next 0 none) (.visited visit) := by
  obtain ⟨first, walk, hwalk, hcurrent, hrewalk⟩ :=
    rewalk_walk hwindows h.walkedTo hpos h.toArrived.start_le hle
  obtain ⟨seen, hblock, hseen, hsame⟩ :=
    @quiet_block chain db count number first walk windowId hwalk
      (hcurrent ▸ h.written)
  have heq : seen = visit :=
    hseen.toArrived.unique h.toArrived hpos (hsame.trans hcurrent)
  rw [heq] at hblock
  exact hrewalk.tail hblock

theorem rewalk_finished {proc : Proc}
    (hwindows : WindowsOk chain db.window count)
    (h : VisitAt chain db count number visit) (hpos : 0 < count)
    (hle : count ≤ windowId) (hfinish : finishVisit db visit = some (db, proc)) :
    Rewalk chain db windowId (.next 0 none) proc := by
  refine (rewalk_visited hwindows h hpos hle).tail ⟨fun _ => nofun, ?_⟩
  intro heights
  simp only [walkStep, hfinish]
  exact ⟨heights, rfl⟩

theorem rewalk_resumed {proc : Proc} (h : PlaceOk chain count db proc)
    (hpos : 0 < count) (hle : proc.currentId count ≤ windowId ∨
      ∃ last, proc = .next (windowId + 1) last) :
    Rewalk chain db windowId (.next 0 none) proc.resumed := by
  obtain ⟨hwindows, hproc⟩ := h
  cases proc with
  | next id last =>
      refine rewalk_next hwindows hproc ?_
      rcases hle with hle | ⟨other, heq⟩
      · exact Nat.le_succ_of_le hle
      · cases heq
        exact Nat.le_refl _
  | block walk =>
      obtain ⟨first, number, hwalk⟩ := hproc
      have hat : count ≤ windowId := hle.resolve_right nofun
      have hstart : walk.currentWindow.parentStartBlock ≤ number :=
        Nat.le_trans hwalk.range.start_le hwalk.range.ordered
      obtain ⟨other, again, hagain, hcurrent, hrewalk⟩ :=
        rewalk_walk hwindows hwalk.walkedTo hpos hstart hat
      rwa [hagain.toArriving.unique hwalk.toArriving hpos hcurrent] at hrewalk
  | visited visit =>
      obtain ⟨number, hvisited⟩ := hproc
      exact rewalk_visited hwindows hvisited hpos (hle.resolve_right nofun)
  | mark window key =>
      obtain ⟨number, visit, hcloses, hfinish⟩ := hproc
      exact rewalk_finished hwindows hcloses.visited hpos
        (hle.resolve_right nofun) hfinish
  | close window =>
      obtain ⟨number, visit, hcloses, hfinish⟩ := hproc
      exact rewalk_finished hwindows hcloses.visited hpos
        (hle.resolve_right nofun) hfinish
  | commit window =>
      obtain ⟨id, rfl, hstored⟩ := hproc
      have hat : id ≤ windowId := hle.resolve_right nofun
      have hid := hwindows.windowId id window hstored
      refine rewalk_next hwindows ?_ (by omega)
      rw [hid]
      exact ⟨Nat.le_refl _, Or.inr ⟨id, window, rfl, rfl, hstored⟩⟩
  | exited => exact hproc.elim

end RuntimeBridge.DataProvider
