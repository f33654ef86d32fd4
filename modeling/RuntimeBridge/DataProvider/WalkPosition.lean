import RuntimeBridge.DataProvider.WalkShape

/-! The program points of the window loop on any chain.  A walk never comes back
to a range without finding its mark, nor past its first block to a window
without a set id. -/

namespace RuntimeBridge.DataProvider

open Library

/-- Every range of the window up to `last` is marked. -/
def WrittenTo (chain : Chain) (db : WindowDb) (origin : Origin) (last : Nat) :
    Prop :=
  ∀ first stop, chain.IsRange origin first stop → stop < last →
    db.rangeWritten (chain.rangeKey origin first stop) = true

structure WalkAt (chain : Chain) (db : WindowDb) (count first number : Nat)
    (walk : Walk) : Prop extends Arriving chain count first number walk where
  window : db.window count = some walk.currentWindow
  written : WrittenTo chain db walk.currentWindow.origin number
  setId : walk.currentWindow.parentStartBlock < number →
    walk.currentWindow.setId ≠ -1

structure VisitAt (chain : Chain) (db : WindowDb) (count number : Nat)
    (visit : Visit) : Prop extends Arrived chain count number visit where
  window : db.window count = some visit.currentWindow
  written : WrittenTo chain db visit.currentWindow.origin (number + 1)
  setId : visit.currentWindow.parentStartBlock < number →
    visit.currentWindow.setId ≠ -1

/-- The visited block closes the window. -/
structure ClosesAt (chain : Chain) (db : WindowDb) (count number : Nat)
    (visit : Visit) (window : Window) : Prop where
  visited : VisitAt chain db count number visit
  changed : setIdChanged visit.currParentBlock visit.lastParentBlock = true
  closes : closeWindow visit = some window

def ProcAt (chain : Chain) (db : WindowDb) (count : Nat) : Proc → Prop
  | .next id last =>
      id ≤ count ∧
        (id = 0 ∧ last = none ∨
          ∃ previous window, id = previous + 1 ∧ last = some window ∧
            db.window previous = some window)
  | .block walk => ∃ first number, WalkAt chain db count first number walk
  | .visited visit => ∃ number, VisitAt chain db count number visit
  | .mark window key => ∃ number visit,
      ClosesAt chain db count number visit window ∧
        finishVisit db visit = some (db, .mark window key)
  | .close window => ∃ number visit,
      ClosesAt chain db count number visit window ∧
        finishVisit db visit = some (db, .close window)
  | .commit window => ∃ id, count = id + 1 ∧ db.window id = some window
  | .exited => False

structure PlaceOk (chain : Chain) (count : Nat) (db : WindowDb) (proc : Proc) :
    Prop where
  windows : WindowsOk chain db.window count
  proc : ProcAt chain db count proc

variable {chain : Chain} {db written : WindowDb} {count number first : Nat}
  {window : Window} {walk : Walk} {visit : Visit} {origin : Origin}

theorem WrittenTo.mono {last : Nat} (h : WrittenTo chain db origin last)
    (hmarks : ∀ key, db.rangeWritten key = true →
      written.rangeWritten key = true) : WrittenTo chain written origin last :=
  fun first stop hrange hlt => hmarks _ (h first stop hrange hlt)

theorem visitedDb_marks (key : RangeKey) (h : db.rangeWritten key = true) :
    (chain.visitedDb db first number walk).rangeWritten key = true := by
  unfold Chain.visitedDb
  split
  · by_cases heq : key = chain.rangeKey walk.currentWindow.origin first number
    · simp [Chain.writeRange, heq]
    · simpa [Chain.writeRange, heq] using h
  · exact h

theorem visitedDb_written
    (hrange : chain.OpenRange walk.currentWindow.origin first number)
    (h : WrittenTo chain db walk.currentWindow.origin number) :
    WrittenTo chain (chain.visitedDb db first number walk)
      walk.currentWindow.origin (number + 1) := by
  intro otherFirst stop hother hlt
  rcases Nat.lt_succ_iff_lt_or_eq.mp hlt with hlt | rfl
  · exact visitedDb_marks _ (h otherFirst stop hother hlt)
  · have hclosed : chain.IsRange walk.currentWindow.origin first stop :=
      { hrange with closes := hother.closes }
    rw [hother.start_unique hclosed]
    cases hmark : db.rangeWritten
        (chain.rangeKey walk.currentWindow.origin first stop) with
    | true => exact visitedDb_marks _ hmark
    | false =>
        rw [Chain.visitedDb, if_pos ⟨hother.closes, hmark⟩]
        simp [Chain.writeRange]

/-- A range that is marked is not written again. -/
theorem visitedDb_same
    (hrange : chain.OpenRange walk.currentWindow.origin first number)
    (h : WrittenTo chain db walk.currentWindow.origin (number + 1)) :
    chain.visitedDb db first number walk = db := by
  rw [Chain.visitedDb, if_neg]
  rintro ⟨hjustified, hmark⟩
  have hclosed : chain.IsRange walk.currentWindow.origin first number :=
    { hrange with closes := hjustified }
  rw [h first number hclosed (Nat.lt_succ_self _)] at hmark
  contradiction

theorem WalkAt.visitBlock (h : WalkAt chain db count first number walk) :
    ∃ visit, DataProvider.visitBlock chain db walk =
        some (chain.visitedDb db first number walk, visit) ∧
      VisitAt chain (chain.visitedDb db first number walk) count number visit ∧
      visit.currentWindow = walk.currentWindow := by
  obtain ⟨visit, hvisit, harrived, hcurrent, -⟩ := h.toArriving.visitBlock db
  refine ⟨visit, hvisit, ?_, hcurrent⟩
  exact
    { harrived with
      window := by
        rw [visitedDb_window, hcurrent]
        exact h.window
      written := by
        rw [hcurrent]
        exact visitedDb_written h.range h.written
      setId := by
        rw [hcurrent]
        exact h.setId }

theorem setId_ne (block : ParentBlock) : (block.setId : Int) ≠ -1 := by
  omega

theorem VisitAt.finish_quiet (h : VisitAt chain db count number visit)
    (hid : visit.currentWindow.windowId = count)
    (hquiet :
      setIdChanged visit.currParentBlock visit.lastParentBlock = false) :
    ∃ written first walk,
      finishVisit db visit = some (written, .block walk) ∧
        WalkAt chain written count first (number + 1) walk ∧
        walk.currentWindow.windowId = count ∧
        walk.currentWindow.origin = visit.currentWindow.origin ∧
        walk.currentWindow.isFinished = visit.currentWindow.isFinished ∧
        (written = db ∨ written = db.putWindow walk.currentWindow) := by
  rw [finishVisit_quiet hquiet]
  split
  · obtain ⟨first, harriving⟩ := @Arrived.recur chain count number
      { visit.currentWindow with setId := visit.currParentBlock.setId } visit
      h.toArrived hquiet rfl
    refine ⟨_, first, _, rfl, ?_, hid, rfl, rfl, Or.inr rfl⟩
    exact
      { harriving with
        window := by
          rw [← hid]
          exact putWindow_self _
        written := h.written
        setId := fun _ => setId_ne _ }
  · next hknown =>
      obtain ⟨first, harriving⟩ :=
        h.toArrived.recur hquiet (rfl : visit.currentWindow.origin = _)
      refine ⟨db, first, _, rfl, ?_, hid, rfl, rfl, Or.inl rfl⟩
      exact
        { harriving with
          window := h.window
          written := h.written
          setId := fun _ => hknown }

theorem writeBlob_twice (stop : Nat) :
    chain.writeBlob origin (chain.writeBlob origin db stop) stop =
      chain.writeBlob origin db stop := by
  have hranges : (chain.writeBlob origin (chain.writeBlob origin db stop)
      stop).rangeByParentBlock =
      (chain.writeBlob origin db stop).rangeByParentBlock := by
    funext other
    rw [Chain.writeBlob_range, Chain.writeBlob_range]
    split
    · rw [Option.map_map]
      rfl
    · rfl
  rw [Chain.writeBlob] at hranges ⊢
  simp only at hranges
  rw [hranges]
  simp [Chain.writeBlob]

theorem VisitAt.congr (h : VisitAt chain db count number visit)
    (hwindow : written.window = db.window)
    (hmarks : written.rangeWritten = db.rangeWritten) :
    VisitAt chain written count number visit where
  toArrived := h.toArrived
  window := by
    rw [hwindow]
    exact h.window
  written := h.written.mono fun key hkey => by rwa [hmarks]
  setId := h.setId

/-- A step that closes the window finds its own work done when it is taken
again. -/
theorem VisitAt.finish_changed (h : VisitAt chain db count number visit)
    (hchanged :
      setIdChanged visit.currParentBlock visit.lastParentBlock = true) :
    ∃ window written,
      ClosesAt chain written count number visit window ∧
        ((finishVisit db visit = some (db, .close window) ∧ written = db) ∨
          ∃ key, finishVisit db visit = some (written, .mark window key) ∧
            finishVisit written visit = some (written, .mark window key) ∧
            written = chain.writeBlob visit.currentWindow.origin db number) := by
  obtain ⟨window, hclose, -, horigin, -⟩ := h.toArrived.closeWindow
  have hfinish := h.toArrived.finishVisit_changed hchanged hclose
  cases hcommitted : db.blobRangeCommitted
      (chain.blobKey window.origin number) with
  | true =>
      refine ⟨window, db, ⟨h, hchanged, hclose⟩, Or.inl ⟨?_, rfl⟩⟩
      rw [hfinish, if_pos hcommitted]
  | false =>
      refine ⟨window, chain.writeBlob window.origin db number,
        ⟨h.congr rfl rfl, hchanged, hclose⟩,
        Or.inr ⟨chain.blobKey window.origin number, ?_, ?_, ?_⟩⟩
      · rw [hfinish, if_neg (by simp [hcommitted])]
      · rw [hfinish, if_neg (by simp [Chain.writeBlob, hcommitted]),
          writeBlob_twice]
      · rw [horigin]

theorem ClosesAt.mark {key : RangeKey}
    (h : ClosesAt chain db count number visit window)
    (hmark : finishVisit db visit = some (db, .mark window key)) :
    ClosesAt chain (db.markBlobRange key) count number visit window ∧
      finishVisit (db.markBlobRange key) visit =
        some (db.markBlobRange key, .close window) := by
  have hfinish :=
    h.visited.toArrived.finishVisit_changed h.changed h.closes
  refine ⟨⟨h.visited.congr rfl rfl, h.changed, h.closes⟩, ?_⟩
  have hkey : key = chain.blobKey window.origin number := by
    rw [hfinish] at hmark
    split at hmark
    · cases hmark
    · simp only [Option.some.injEq, Prod.mk.injEq, Proc.mark.injEq] at hmark
      exact hmark.2.2.symm
  rw [hfinish, hkey, if_pos (by simp [WindowDb.markBlobRange])]

/-- What a step leaves alone: the finished windows, and the range records
before the window that is being walked. -/
structure Frame (chain : Chain) (count : Nat) (db after : WindowDb) :
    Prop where
  windows : ∀ id, id < count → after.window id = db.window id
  ranges : ∀ first, first < chain.past db count →
    after.rangeByParentBlock first = db.rangeByParentBlock first

theorem Frame.refl (chain : Chain) (count : Nat) (db : WindowDb) :
    Frame chain count db db where
  windows := fun _ _ => rfl
  ranges := fun _ _ => rfl

theorem Frame.past (h : Frame chain count db written) :
    chain.past written count = chain.past db count := by
  cases count with
  | zero => rfl
  | succ count => simp only [Chain.past, h.windows count (Nat.lt_succ_self _)]

theorem frame_putWindow (hid : window.windowId = count) :
    Frame chain count db (db.putWindow window) where
  windows := fun id hlt => putWindow_of_ne (by omega)
  ranges := fun _ _ => rfl

theorem frame_agrees {bound : Nat} (hagrees : AgreesBelow bound db written)
    (hwindow : written.window = db.window)
    (hbound : chain.past db count ≤ bound) : Frame chain count db written where
  windows := fun id _ => by rw [hwindow]
  ranges := fun first hlt => hagrees.ranges first (by omega)

theorem frame_visitedDb (hwindows : WindowsOk chain db.window count)
    (h : WalkAt chain db count first number walk) :
    Frame chain count db (chain.visitedDb db first number walk) := by
  unfold Chain.visitedDb
  split
  · next hwrites =>
      have hrange : chain.IsRange walk.currentWindow.origin first number :=
        { h.range with closes := hwrites.1 }
      exact frame_agrees (agreesBelow_writeRange hrange) rfl
        (Nat.le_of_eq (hwindows.start_eq_past h.window).symm)
  · exact Frame.refl chain count db

/-- The heights that the loop reports are those of blocks before the window
that is being walked. -/
def reportsBehind (past : Nat) (before after : List Int) : Prop :=
  after = before ∨ ∃ height : Int, after = before ++ [height] ∧ height < past

/-- The window that the loop is at. -/
def Proc.currentId (count : Nat) : Proc → Nat
  | .next id _ => id
  | .commit _ => count - 1
  | _ => count

/-- One step from a program point: where it leads, and what it leaves alone. -/
structure Steps (chain : Chain) (count next : Nat) (before after : WalkState) :
    Prop where
  frame : Frame chain count before.db after.db
  next_eq : next = count ∨ next = count + 1
  place : PlaceOk chain next after.db after.proc
  turn : after.proc.currentId next = before.proc.currentId count ∨
    ∃ last, after.proc = .next (before.proc.currentId count + 1) (some last)
  reports : reportsBehind (chain.past after.db next) before.committedHeights
    after.committedHeights

variable {state : WalkState} {heights : List Int}

theorem steps_block (h : PlaceOk chain count db (.block walk)) :
    Steps chain count count ⟨db, .block walk, heights⟩
      (walkStep chain ⟨db, .block walk, heights⟩) := by
  obtain ⟨hwindows, first, number, hwalk⟩ := h
  obtain ⟨visit, hvisit, hvisited, -⟩ := hwalk.visitBlock
  simp only [walkStep, hvisit]
  exact
    { frame := frame_visitedDb hwindows hwalk
      next_eq := Or.inl rfl
      place :=
        { windows := by rwa [visitedDb_window], proc := ⟨number, hvisited⟩ }
      turn := Or.inl rfl
      reports := Or.inl rfl }

theorem steps_visited (h : PlaceOk chain count db (.visited visit)) :
    Steps chain count count ⟨db, .visited visit, heights⟩
      (walkStep chain ⟨db, .visited visit, heights⟩) := by
  obtain ⟨hwindows, number, hvisited⟩ := h
  have hid := hwindows.windowId count _ hvisited.window
  have hopen := hwindows.current _ hvisited.window
  have hpast : chain.past db count ≤
      visit.currentWindow.origin.parentStart :=
    Nat.le_of_eq (hwindows.start_eq_past hvisited.window).symm
  cases hchanged : setIdChanged visit.currParentBlock visit.lastParentBlock with
  | true =>
      obtain ⟨window, written, hcloses, ⟨hfinish, rfl⟩ |
        ⟨key, hfinish, hagain, hwritten⟩⟩ := hvisited.finish_changed hchanged
      · simp only [walkStep, hfinish]
        exact
          { frame := Frame.refl chain count written
            next_eq := Or.inl rfl
            place :=
              { windows := hwindows
                proc := ⟨number, visit, hcloses, hfinish⟩ }
            turn := Or.inl rfl
            reports := Or.inl rfl }
      · simp only [walkStep, hfinish]
        have hsame : written.window = db.window := by rw [hwritten]; rfl
        exact
          { frame := frame_agrees (hwritten ▸ agreesBelow_writeBlob) hsame hpast
            next_eq := Or.inl rfl
            place :=
              { windows := by rwa [hsame]
                proc := ⟨number, visit, hcloses, hagain⟩ }
            turn := Or.inl rfl
            reports := Or.inl rfl }
  | false =>
      obtain ⟨written, first, walk, hfinish, hwalk, hwalkId, horigin, hwalkOpen,
        hwritten⟩ := hvisited.finish_quiet hid hchanged
      simp only [walkStep, hfinish]
      have hframe : Frame chain count db written := by
        rcases hwritten with rfl | rfl
        · exact Frame.refl chain count written
        · exact frame_putWindow hwalkId
      have hnext : WindowsOk chain written.window count := by
        rcases hwritten with rfl | rfl
        · exact hwindows
        · have hplaced := hwindows.put
            (hwindows.placed hvisited.window hwalkId horigin)
            (Or.inl ⟨rfl, hwalkOpen.trans hopen⟩)
          rwa [← hwalkId] at hplaced ⊢
      exact
        { frame := hframe
          next_eq := Or.inl rfl
          place := { windows := hnext, proc := ⟨first, number + 1, hwalk⟩ }
          turn := Or.inl rfl
          reports := Or.inl rfl }

theorem steps_mark {key : RangeKey}
    (h : PlaceOk chain count db (.mark window key)) :
    Steps chain count count ⟨db, .mark window key, heights⟩
      (walkStep chain ⟨db, .mark window key, heights⟩) := by
  obtain ⟨hwindows, number, visit, hcloses, hmark⟩ := h
  exact
    { frame := { windows := fun _ _ => rfl, ranges := fun _ _ => rfl }
      next_eq := Or.inl rfl
      place :=
        { windows := hwindows
          proc := ⟨number, visit, hcloses.mark hmark⟩ }
      turn := Or.inl rfl
      reports := Or.inl rfl }

theorem steps_close (h : PlaceOk chain count db (.close window)) :
    Steps chain count (count + 1) ⟨db, .close window, heights⟩
      (walkStep chain ⟨db, .close window, heights⟩) := by
  obtain ⟨hwindows, number, visit, hcloses, -⟩ := h
  have hvisited := hcloses.visited
  obtain ⟨closed, hclose, hid, horigin, hfinished, -, hclosed⟩ :=
    hvisited.toArrived.closedWindow
      (hwindows.windowId count _ hvisited.window) hcloses.changed
  cases Option.some.inj (hclose.symm.trans hcloses.closes)
  refine
    { frame := frame_putWindow hid
      next_eq := Or.inr rfl
      place := { windows := ?_, proc := ⟨count, rfl, ?_⟩ }
      turn := Or.inl rfl
      reports := Or.inl rfl }
  · have hplaced := hwindows.put (hwindows.placed hvisited.window hid horigin)
      (Or.inr ⟨rfl, hfinished, hclosed⟩)
    rwa [← hid] at hplaced ⊢
  · rw [← hid]
    exact putWindow_self _

theorem steps_commit (h : PlaceOk chain count db (.commit window)) :
    Steps chain count count ⟨db, .commit window, heights⟩
      (walkStep chain ⟨db, .commit window, heights⟩) := by
  obtain ⟨hwindows, id, rfl, hstored⟩ := h
  have hid := hwindows.windowId id window hstored
  have hordered := (hwindows.closed (Nat.lt_succ_self id) hstored).ordered
  have hpast := @past_succ chain _ _ _ hstored
  have hnext : (walkStep chain ⟨db, .commit window, heights⟩).proc =
      .next (id + 1) (some window) := by
    rw [← hid]
    rfl
  refine
    { frame := { windows := fun _ _ => rfl, ranges := fun _ _ => rfl }
      next_eq := Or.inl rfl
      place := { windows := hwindows, proc := ?_ }
      turn := Or.inr ⟨window, hnext⟩
      reports := Or.inr ⟨_, rfl, ?_⟩ }
  · rw [hnext]
    exact ⟨Nat.le_refl _, Or.inr ⟨id, window, rfl, rfl, hstored⟩⟩
  · change (window.parentStartBlock : Int) - 1 < chain.past db (id + 1)
    omega

/-- A walk begins at the origin of its window. -/
theorem placeOk_start {last : Option ParentBlock}
    (hwindows : WindowsOk chain db.window count)
    (hstored : db.window count = some window)
    (hlast : last = none ∨
      count = 0 ∧ last = some (chain.parent (window.parentStartBlock - 1))) :
    PlaceOk chain count db (startWalk window last) where
  windows := hwindows
  proc := by
    refine ⟨window.parentStartBlock, window.parentStartBlock, ?_⟩
    exact
      { arriving_start hlast with
        window := hstored
        written := fun first stop hrange hlt => by
          have hstart : window.parentStartBlock ≤ first := hrange.start_le
          have := hrange.ordered
          omega
        setId := fun hlt => absurd hlt (Nat.lt_irrefl _) }

theorem steps_found {id : Nat} {last : Option Window}
    (h : PlaceOk chain count db (.next id last))
    (hstored : db.window id = some window) (hlt : id < count) :
    Steps chain count count ⟨db, .next id last, heights⟩
      (walkStep chain ⟨db, .next id last, heights⟩) := by
  obtain ⟨closed, hclosed, hfinished, hordered⟩ := h.windows.finished id hlt
  cases Option.some.inj (hstored.symm.trans hclosed)
  have hpast := @past_succ chain _ _ _ hstored
  have hmono : chain.past db (id + 1) ≤ chain.past db count :=
    h.windows.past_mono hlt (Nat.le_refl _)
  have hstart := hordered.ordered
  simp only [walkStep, walkWindow, WindowDb.getWindow, hstored,
    if_pos hfinished, Option.getD_some]
  refine
    { frame := Frame.refl chain count db
      next_eq := Or.inl rfl
      place :=
        { windows := h.windows
          proc := ⟨hlt, Or.inr ⟨id, window, rfl, rfl, hstored⟩⟩ }
      turn := Or.inr ⟨window, rfl⟩
      reports := ?_ }
  split
  · refine Or.inr ⟨_, rfl, ?_⟩
    change (window.parentStartBlock : Int) < chain.past db count
    omega
  · exact Or.inl rfl

theorem steps_resumed {last : Option Window}
    (h : PlaceOk chain count db (.next count last))
    (hstored : db.window count = some window) :
    Steps chain count count ⟨db, .next count last, heights⟩
      (walkStep chain ⟨db, .next count last, heights⟩) := by
  have hopen := h.windows.current window hstored
  have hstart := h.windows.start_eq_past hstored
  simp only [walkStep, walkWindow, WindowDb.getWindow, hstored,
    if_neg (show ¬ window.isFinished = true by simp [hopen]),
    Option.getD_some]
  refine
    { frame := Frame.refl chain count db
      next_eq := Or.inl rfl
      place := placeOk_start h.windows hstored (Or.inl rfl)
      turn := Or.inl rfl
      reports := Or.inr ⟨_, rfl, ?_⟩ }
  change (window.parentStartBlock : Int) - 1 < chain.past db count
  omega

theorem steps_created {last : Option Window}
    (h : PlaceOk chain count db (.next count last))
    (habsent : db.window count = none) :
    Steps chain count count ⟨db, .next count last, heights⟩
      (walkStep chain ⟨db, .next count last, heights⟩) := by
  obtain ⟨origin, parent, hfirst, hplaced, -, hparent⟩ :=
    firstBlocks_placed h.windows h.proc.2
  simp only [walkStep, walkWindow, WindowDb.getWindow, habsent, hfirst,
    Option.bind_eq_bind, Option.bind_some, Option.pure_def, Option.getD_some]
  have hput := h.windows.put hplaced (Or.inl ⟨rfl, rfl⟩)
  exact
    { frame := frame_putWindow rfl
      next_eq := Or.inl rfl
      place := placeOk_start hput (Function.update_self ..) hparent
      turn := Or.inl rfl
      reports := Or.inl rfl }

theorem PlaceOk.id_eq {id : Nat} {last : Option Window}
    (h : PlaceOk chain count db (.next id last))
    (habsent : db.window id = none) : id = count :=
  h.windows.eq_count_of_absent h.proc.1 habsent

theorem steps_next {id : Nat} {last : Option Window}
    (h : PlaceOk chain count db (.next id last)) :
    Steps chain count count ⟨db, .next id last, heights⟩
      (walkStep chain ⟨db, .next id last, heights⟩) := by
  cases hstored : db.window id with
  | some window =>
      rcases Nat.lt_or_eq_of_le h.proc.1 with hlt | rfl
      · exact steps_found h hstored hlt
      · exact steps_resumed h hstored
  | none =>
      cases h.id_eq hstored
      exact steps_created h hstored

theorem walkStep_steps (h : PlaceOk chain count state.db state.proc) :
    ∃ next, Steps chain count next state (walkStep chain state) := by
  obtain ⟨db, proc, heights⟩ := state
  cases proc with
  | next id last => exact ⟨count, steps_next h⟩
  | block walk => exact ⟨count, steps_block h⟩
  | visited visit => exact ⟨count, steps_visited h⟩
  | mark window key => exact ⟨count, steps_mark h⟩
  | close window => exact ⟨count + 1, steps_close h⟩
  | commit window => exact ⟨count, steps_commit h⟩
  | exited => exact h.proc.elim

theorem placeOk_restart {proc : Proc} (h : PlaceOk chain count db proc) :
    PlaceOk chain count db (.next 0 none) where
  windows := h.windows
  proc := ⟨Nat.zero_le _, Or.inl ⟨rfl, rfl⟩⟩

theorem placeOk_empty (chain : Chain) :
    PlaceOk chain 0 .empty (.next 0 none) where
  windows := windowsOk_empty chain
  proc := ⟨Nat.le_refl _, Or.inl ⟨rfl, rfl⟩⟩

theorem placed_preserved (chain : Chain) :
    (walkMachine chain).Preserves Machine.anyEvent fun state =>
      ∃ count, PlaceOk chain count state.db state.proc := by
  rintro before event after - ⟨count, hplace⟩ htaken
  cases event with
  | proceed =>
      cases Option.some.inj htaken
      obtain ⟨next, hsteps⟩ := walkStep_steps hplace
      exact ⟨next, hsteps.place⟩
  | crash =>
      cases Option.some.inj htaken
      exact ⟨count, placeOk_restart hplace⟩

/-- On any chain every run stays at one of these program points. -/
theorem placeOk_reachable (h : (walkMachine chain).Reachable state) :
    ∃ count, PlaceOk chain count state.db state.proc :=
  (placed_preserved chain).reaches ⟨0, placeOk_empty chain⟩ h

end RuntimeBridge.DataProvider
