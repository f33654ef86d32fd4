import RuntimeBridge.DataProvider.Walk

/-! The window loop against the relay blocks that are stored, whatever the
blocks hold.  The loop waits for a block before it walks over it, so neither a
window nor the cursor runs ahead. -/

namespace RuntimeBridge.DataProvider

/-- The relay block that the next step of the loop waits for. -/
def WalkState.parentRead (genesis : Genesis) (state : WalkState) : Option Nat :=
  match state.proc with
  | .next 0 _ =>
      if (state.db.getWindow 0).isNone then some genesis.parentNumber else none
  | .block walk => some walk.parentNumber
  | _ => none

def WalkState.paraRead (state : WalkState) : Option Nat :=
  match state.proc with
  | .block walk => some walk.paraNumber
  | _ => none

/-- The block before the window is one of those from `first` up to `stop`. -/
structure Window.OpensWithin (first stop : Nat) (window : Window) : Prop where
  first_lt : first < window.parentStartBlock
  start_le : window.parentStartBlock ≤ stop

structure Window.ClosesWithin (first stop : Nat) (window : Window) : Prop
    extends window.OpensWithin first stop where
  first_lt_stop : (first : Int) < window.parentStopBlock
  stop_lt : window.parentStopBlock < stop

structure DbWithin (first stop : Nat) (db : WindowDb) : Prop where
  opens : ∀ id window, db.window id = some window →
    window.OpensWithin first stop
  closes : ∀ id window, db.window id = some window →
    window.isFinished = true → window.ClosesWithin first stop
  cursor : ∀ cursor, db.lastCommittedParentBlock = some cursor →
    (first : Int) ≤ cursor ∧ cursor < stop

def ProcWithin (first stop : Nat) : Proc → Prop
  | .next _ last => ∀ window, last = some window →
      window.ClosesWithin first stop
  | .block walk =>
      walk.currentWindow.OpensWithin first stop ∧
        walk.currentWindow.isFinished = false ∧
        first < walk.parentNumber ∧ walk.parentNumber ≤ stop
  | .visited visit =>
      visit.currentWindow.OpensWithin first stop ∧
        visit.currentWindow.isFinished = false ∧
        first < visit.currParentBlock.number ∧
        visit.currParentBlock.number < stop ∧
        visit.context.parentBlocks.getLast? = some visit.currParentBlock
  | .mark window _ => window.ClosesWithin first stop
  | .close window => window.ClosesWithin first stop
  | .commit window => window.ClosesWithin first stop
  | .exited => True

structure WalkWithin (first stop : Nat) (state : WalkState) : Prop where
  db : DbWithin first stop state.db
  proc : ProcWithin first stop state.proc

variable {first stop stored : Nat} {chain : Chain} {db written : WindowDb}
  {window : Window} {walk : Walk} {visit : Visit} {state : WalkState}

theorem Window.OpensWithin.mono (h : window.OpensWithin first stop)
    (hle : stop ≤ stored) : window.OpensWithin first stored where
  first_lt := h.first_lt
  start_le := Nat.le_trans h.start_le hle

theorem Window.ClosesWithin.mono (h : window.ClosesWithin first stop)
    (hle : stop ≤ stored) : window.ClosesWithin first stored where
  toOpensWithin := h.toOpensWithin.mono hle
  first_lt_stop := h.first_lt_stop
  stop_lt := by
    have := h.stop_lt
    omega

theorem DbWithin.mono (h : DbWithin first stop db) (hle : stop ≤ stored) :
    DbWithin first stored db where
  opens := fun id window hwindow => (h.opens id window hwindow).mono hle
  closes := fun id window hwindow hfinished =>
    (h.closes id window hwindow hfinished).mono hle
  cursor := fun cursor hcursor => by
    have := h.cursor cursor hcursor
    omega

theorem WalkWithin.mono (h : WalkWithin first stop state)
    (hle : stop ≤ stored) : WalkWithin first stored state where
  db := h.db.mono hle
  proc := by
    obtain ⟨db, proc, heights⟩ := state
    obtain ⟨-, hproc⟩ := h
    cases proc with
    | next id last => exact fun window hlast => (hproc window hlast).mono hle
    | block walk =>
        obtain ⟨hopens, hopen, hfirst, hlast⟩ := hproc
        exact ⟨hopens.mono hle, hopen, hfirst, Nat.le_trans hlast hle⟩
    | visited visit =>
        obtain ⟨hopens, hopen, hfirst, hlast, hblock⟩ := hproc
        exact ⟨hopens.mono hle, hopen, hfirst, Nat.lt_of_lt_of_le hlast hle,
          hblock⟩
    | mark window key => exact Window.ClosesWithin.mono hproc hle
    | close window => exact Window.ClosesWithin.mono hproc hle
    | commit window => exact Window.ClosesWithin.mono hproc hle
    | exited => exact True.intro

theorem DbWithin.putWindow (h : DbWithin first stop db)
    (hopens : window.OpensWithin first stop)
    (hcloses : window.isFinished = true → window.ClosesWithin first stop) :
    DbWithin first stop (db.putWindow window) where
  opens := fun id other hother => by
    rcases putWindow_cases hother with ⟨-, rfl⟩ | hkept
    · exact hopens
    · exact h.opens id other hkept
  closes := fun id other hother hfinished => by
    rcases putWindow_cases hother with ⟨-, rfl⟩ | hkept
    · exact hcloses hfinished
    · exact h.closes id other hkept hfinished
  cursor := h.cursor

theorem DbWithin.congr (h : DbWithin first stop db)
    (hframe : written.window = db.window ∧
      written.lastCommittedParentBlock = db.lastCommittedParentBlock) :
    DbWithin first stop written where
  opens := by rw [hframe.1]; exact h.opens
  closes := by rw [hframe.1]; exact h.closes
  cursor := by rw [hframe.2]; exact h.cursor

theorem Context.push_last (context : Context) (currParentBlock : ParentBlock)
    (currParaBlock : ParaBlock) :
    (context.push currParentBlock currParaBlock).parentBlocks.getLast? =
      some currParentBlock := by
  unfold Context.push
  split
  · exact List.getLast?_concat ..
  · exact List.getLast?_concat ..

/-- The window that closes stops at the block that has been visited. -/
theorem closeWindow_within
    (hproc : ProcWithin first stop (.visited visit))
    (hclose : closeWindow visit = some window) :
    window.ClosesWithin first stop := by
  obtain ⟨hopens, -, hfirst, hlast, hblock⟩ := hproc
  simp only [closeWindow, hblock, Option.bind_eq_bind, Option.bind_some,
    Option.pure_def, Option.some.injEq] at hclose
  subst hclose
  exact
    { first_lt := hopens.first_lt
      start_le := hopens.start_le
      first_lt_stop := by change (first : Int) < visit.currParentBlock.number; omega
      stop_lt := by change (visit.currParentBlock.number : Int) < stop; omega }

theorem walkWithin_start {last : Option ParentBlock} {heights : List Int}
    (hdb : DbWithin first stop db) (hopens : window.OpensWithin first stop)
    (hopen : window.isFinished = false) :
    WalkWithin first stop ⟨db, startWalk window last, heights⟩ where
  db := hdb
  proc := ⟨hopens, hopen, hopens.first_lt, hopens.start_le⟩

theorem firstBlocks_within {id parentStart paraStart : Nat}
    {last : Option Window} {lastBlock : Option ParentBlock}
    (hproc : ProcWithin first stop (.next id last))
    (hfirst : chain.genesis.parentNumber = first)
    (hread : id = 0 → first < stop)
    (h : firstBlocks chain id last = some (parentStart, paraStart, lastBlock)) :
    first < parentStart ∧ parentStart ≤ stop := by
  cases id with
  | zero =>
      simp only [firstBlocks, Option.some.injEq, Prod.mk.injEq] at h
      obtain ⟨rfl, -, -⟩ := h
      have := hread rfl
      omega
  | succ id =>
      cases last with
      | none => cases h
      | some window =>
          have hcloses := hproc window rfl
          have := hcloses.first_lt_stop
          have := hcloses.stop_lt
          simp only [firstBlocks, Option.some.injEq, Prod.mk.injEq] at h
          obtain ⟨rfl, -, -⟩ := h
          omega

theorem walkWithin_next {id : Nat} {last : Option Window} {heights : List Int}
    (h : WalkWithin first stop ⟨db, .next id last, heights⟩)
    (hfirst : chain.genesis.parentNumber = first)
    (hread : id = 0 → db.window 0 = none → first < stop) :
    WalkWithin first stop (walkStep chain ⟨db, .next id last, heights⟩) := by
  obtain ⟨hdb, hproc⟩ := h
  cases hstored : db.window id with
  | some window =>
      simp only [walkStep, walkWindow, WindowDb.getWindow, hstored]
      split
      · next hfinished =>
          refine { db := hdb, proc := fun other hother => ?_ }
          cases hother
          exact hdb.closes id window hstored hfinished
      · next hopen =>
          exact walkWithin_start hdb (hdb.opens id window hstored)
            (by simpa using hopen)
  | none =>
      simp only [walkStep, walkWindow, WindowDb.getWindow, hstored]
      cases hblocks : firstBlocks chain id last with
      | none => exact { db := hdb, proc := True.intro }
      | some blocks =>
          obtain ⟨parentStart, paraStart, lastBlock⟩ := blocks
          obtain ⟨hlt, hle⟩ := firstBlocks_within hproc hfirst
            (fun hzero => hread hzero (hzero ▸ hstored)) hblocks
          have hopens : (WindowDb.emptyWindow id parentStart
              paraStart).OpensWithin first stop :=
            { first_lt := hlt, start_le := hle }
          exact walkWithin_start (hdb.putWindow hopens nofun) hopens rfl

theorem walkWithin_block {heights : List Int}
    (h : WalkWithin first stop ⟨db, .block walk, heights⟩)
    (hread : walk.parentNumber < stop) :
    WalkWithin first stop (walkStep chain ⟨db, .block walk, heights⟩) := by
  obtain ⟨hdb, hopens, hopen, hfirst, -⟩ := h
  cases hvisit : visitBlock chain db walk with
  | none =>
      simp only [walkStep, hvisit]
      exact { db := hdb, proc := True.intro }
  | some visited =>
      obtain ⟨written, visit⟩ := visited
      obtain ⟨hcurrent, hcurr, -, hcontext⟩ := visitBlock_visit hvisit
      simp only [walkStep, hvisit]
      refine { db := hdb.congr (visitBlock_frame hvisit), proc := ?_ }
      simp only [ProcWithin, hcurrent, hcurr, hcontext, chain.parent_number]
      exact ⟨hopens, hopen, hfirst, hread, Context.push_last ..⟩

theorem recur_within (hproc : ProcWithin first stop (.visited visit))
    (hstart : window.parentStartBlock = visit.currentWindow.parentStartBlock)
    (hopen : window.isFinished = visit.currentWindow.isFinished) :
    ProcWithin first stop (.block (visit.recur window)) := by
  obtain ⟨hopens, hvisit, hfirst, hlast, -⟩ := hproc
  refine ⟨⟨?_, ?_⟩, hopen.trans hvisit, Nat.lt_succ_of_lt hfirst, hlast⟩
  · rw [Visit.recur, hstart]
    exact hopens.first_lt
  · rw [Visit.recur, hstart]
    exact hopens.start_le

theorem walkWithin_visited {heights : List Int}
    (h : WalkWithin first stop ⟨db, .visited visit, heights⟩) :
    WalkWithin first stop (walkStep chain ⟨db, .visited visit, heights⟩) := by
  obtain ⟨hdb, hproc⟩ := h
  cases hfinish : finishVisit db visit with
  | none =>
      simp only [walkStep, hfinish]
      exact { db := hdb, proc := True.intro }
  | some finished =>
      obtain ⟨written, proc⟩ := finished
      simp only [walkStep, hfinish]
      rw [finishVisit] at hfinish
      split at hfinish
      · simp only [Option.bind_eq_bind, Option.bind_eq_some_iff] at hfinish
        obtain ⟨window, hclose, after, hafter, hfinish⟩ := hfinish
        have hcloses := closeWindow_within hproc hclose
        have hkept := hdb.congr (WindowDb.commitBlobRange_frame hafter)
        split at hfinish
        · cases hfinish
          exact { db := hkept, proc := hcloses }
        · cases hfinish
          exact { db := hkept, proc := hcloses }
      · split at hfinish
        · cases hfinish
          have hrecur := recur_within hproc
            (rfl : ({ visit.currentWindow with
              setId := visit.currParentBlock.setId } : Window).parentStartBlock
              = _) rfl
          refine { db := hdb.putWindow hrecur.1 fun hfinished => ?_
                   proc := hrecur }
          exact absurd (hrecur.2.1.symm.trans hfinished) nofun
        · cases hfinish
          exact { db := hdb, proc := recur_within hproc rfl rfl }

/-- One step of the loop, once the block that it waits for is stored. -/
theorem walkWithin_step (h : WalkWithin first stop state)
    (hfirst : chain.genesis.parentNumber = first)
    (hread : ∀ number, state.parentRead chain.genesis = some number →
      number < stop) :
    WalkWithin first stop (walkStep chain state) := by
  obtain ⟨db, proc, heights⟩ := state
  cases proc with
  | next id last =>
      refine walkWithin_next h hfirst fun hzero habsent => ?_
      subst hzero
      rw [← hfirst]
      exact hread chain.genesis.parentNumber
        (by simp [WalkState.parentRead, WindowDb.getWindow, habsent])
  | block walk => exact walkWithin_block h (hread walk.parentNumber rfl)
  | visited visit => exact walkWithin_visited h
  | mark window key => exact { db := h.db.congr ⟨rfl, rfl⟩, proc := h.proc }
  | close window =>
      have hcloses : window.ClosesWithin first stop := h.proc
      exact
        { db := h.db.putWindow hcloses.toOpensWithin fun _ => hcloses
          proc := hcloses }
  | commit window =>
      have hcloses : window.ClosesWithin first stop := h.proc
      refine { db := ⟨h.db.opens, h.db.closes, fun cursor hcursor => ?_⟩
               proc := fun other hother => ?_ }
      · cases Option.some.inj hcursor
        have := hcloses.first_lt
        have := hcloses.start_le
        omega
      · cases hother
        exact hcloses
  | exited => exact h

end RuntimeBridge.DataProvider
