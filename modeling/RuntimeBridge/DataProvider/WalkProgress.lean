import RuntimeBridge.DataProvider.WalkPosition

/-! The window loop gets on: a walk that is left alone reaches the next change
of the authority set, and closes its window there. -/

namespace RuntimeBridge.DataProvider

open Library

variable {chain : Chain} {db : WindowDb} {count number first stop : Nat}
  {window : Window} {walk : Walk} {visit : Visit} {heights : List Int}
  {state : WalkState}

theorem leads_step (state : WalkState) :
    (walkMachine chain).Leads uninterrupted state (walkStep chain state) :=
  Machine.Next.leads ⟨.proceed, rfl, rfl⟩

/-- The loop has finished the window that it was walking, and reported the
block before it. -/
structure Walked (chain : Chain) (before : WalkState) (count : Nat)
    (after : WalkState) : Prop where
  leads : (walkMachine chain).Leads uninterrupted before after
  place : PlaceOk chain (count + 1) after.db after.proc
  next : ∃ window, after.proc = .next (count + 1) (some window)
  reported : (chain.past before.db count : Int) - 1 ∈ after.committedHeights

theorem Walked.prepend {before : WalkState}
    (hleads : (walkMachine chain).Leads uninterrupted before state)
    (hpast : chain.past state.db count = chain.past before.db count)
    {after : WalkState} (h : Walked chain state count after) :
    Walked chain before count after where
  leads := hleads.trans h.leads
  place := h.place
  next := h.next
  reported := by
    rw [← hpast]
    exact h.reported

theorem walked_close (h : PlaceOk chain count db (.close window)) :
    ∃ after, Walked chain ⟨db, .close window, heights⟩ count after := by
  obtain ⟨number, visit, hcloses, -⟩ := h.proc
  have hvisited := hcloses.visited
  obtain ⟨closed, hclose, hid, horigin, -⟩ :=
    hvisited.toArrived.closedWindow
      (h.windows.windowId count _ hvisited.window) hcloses.changed
  cases Option.some.inj (hclose.symm.trans hcloses.closes)
  have hput : PlaceOk chain (count + 1) (db.putWindow window)
      (.commit window) := (@steps_close chain db count window heights h).place
  have hcommit := (@steps_commit chain _ _ window heights hput).place
  have hnext : (walkStep chain ⟨db.putWindow window, .commit window, heights⟩).proc =
      .next (count + 1) (some window) := by
    rw [← hid]
    rfl
  have hstart : window.parentStartBlock = chain.past db count := by
    rw [← h.windows.start_eq_past hvisited.window]
    exact congrArg Origin.parentStart horigin
  refine ⟨_, ?_, hcommit, ⟨window, hnext⟩, ?_⟩
  · exact (leads_step _).trans (leads_step _)
  · rw [← hstart]
    exact List.mem_append_right _ (List.mem_singleton.mpr rfl)

theorem walked_mark {key : RangeKey}
    (h : PlaceOk chain count db (.mark window key)) :
    ∃ after, Walked chain ⟨db, .mark window key, heights⟩ count after := by
  have hsteps := @steps_mark chain db count window heights key h
  obtain ⟨after, hafter⟩ := @walked_close chain _ count window heights
    hsteps.place
  exact ⟨after, hafter.prepend (leads_step _) hsteps.frame.past⟩

theorem walked_changed (h : PlaceOk chain count db (.visited visit))
    (hchanged :
      setIdChanged visit.currParentBlock visit.lastParentBlock = true) :
    ∃ after, Walked chain ⟨db, .visited visit, heights⟩ count after := by
  obtain ⟨number, hvisited⟩ := h.proc
  have hsteps := @steps_visited chain db count visit heights h
  obtain ⟨window, written, -, ⟨hfinish, rfl⟩ | ⟨key, hfinish, -⟩⟩ :=
    hvisited.finish_changed hchanged
  · have hstep : walkStep chain ⟨written, .visited visit, heights⟩ =
        ⟨written, .close window, heights⟩ := by
      simp only [walkStep, hfinish]
    rw [hstep] at hsteps
    obtain ⟨after, hafter⟩ := @walked_close chain _ count window heights
      hsteps.place
    exact ⟨after, hafter.prepend (hstep ▸ leads_step _) hsteps.frame.past⟩
  · have hstep : walkStep chain ⟨db, .visited visit, heights⟩ =
        ⟨written, .mark window key, heights⟩ := by
      simp only [walkStep, hfinish]
    rw [hstep] at hsteps
    obtain ⟨after, hafter⟩ := @walked_mark chain _ count window heights key
      hsteps.place
    exact ⟨after, hafter.prepend (hstep ▸ leads_step _) hsteps.frame.past⟩

/-- One block further, if the set does not change at it. -/
theorem visited_quiet (hwindows : WindowsOk chain db.window count)
    (hvisited : VisitAt chain db count number visit)
    (hquiet :
      setIdChanged visit.currParentBlock visit.lastParentBlock = false) :
    ∃ written first walk,
      walkStep chain ⟨db, .visited visit, heights⟩ =
        ⟨written, .block walk, heights⟩ ∧
      WalkAt chain written count first (number + 1) walk := by
  have hid := hwindows.windowId count _ hvisited.window
  obtain ⟨written, first, walk, hfinish, hwalk, -⟩ :=
    hvisited.finish_quiet hid hquiet
  refine ⟨written, first, walk, ?_, hwalk⟩
  simp only [walkStep, hfinish]

theorem block_visited (hwalk : WalkAt chain db count first number walk) :
    ∃ visit,
      walkStep chain ⟨db, .block walk, heights⟩ =
        ⟨chain.visitedDb db first number walk, .visited visit, heights⟩ ∧
      VisitAt chain (chain.visitedDb db first number walk) count number visit ∧
      visit.currentWindow = walk.currentWindow := by
  obtain ⟨visit, hvisit, hvisited, hcurrent⟩ := hwalk.visitBlock
  refine ⟨visit, ?_, hvisited, hcurrent⟩
  simp only [walkStep, hvisit]

/-- From any block of a window up to the next change of the set. -/
theorem walked_block {remaining : Nat}
    (hwindows : WindowsOk chain db.window count)
    (hwalk : WalkAt chain db count first number walk)
    (hstop : number + remaining = stop) (hlt : chain.past db count < stop)
    (hgrows : chain.SetIdGrows stop) :
    ∃ after, Walked chain ⟨db, .block walk, heights⟩ count after := by
  induction remaining generalizing db first number walk with
  | zero =>
      subst hstop
      obtain ⟨visit, hstep, hvisited, hcurrent⟩ :=
        @block_visited chain db count number first walk heights hwalk
      have hsteps := @steps_block chain db count walk heights
        ⟨hwindows, first, number, hwalk⟩
      rw [hstep] at hsteps
      have hstart := hwindows.start_eq_past hwalk.window
      have hchanged :
          setIdChanged visit.currParentBlock visit.lastParentBlock = true := by
        rw [hvisited.toArrived.changed (by rw [hcurrent]; omega)]
        exact decide_eq_true hgrows
      obtain ⟨after, hafter⟩ := @walked_changed chain _ count visit heights
        hsteps.place hchanged
      exact ⟨after, hafter.prepend (hstep ▸ leads_step _) hsteps.frame.past⟩
  | succ remaining ih =>
      obtain ⟨visit, hstep, hvisited, -⟩ :=
        @block_visited chain db count number first walk heights hwalk
      have hsteps := @steps_block chain db count walk heights
        ⟨hwindows, first, number, hwalk⟩
      rw [hstep] at hsteps
      have hlead := hstep ▸ @leads_step chain ⟨db, .block walk, heights⟩
      cases hchanged :
          setIdChanged visit.currParentBlock visit.lastParentBlock with
      | true =>
          obtain ⟨after, hafter⟩ := @walked_changed chain _ count visit heights
            hsteps.place hchanged
          exact ⟨after, hafter.prepend hlead hsteps.frame.past⟩
      | false =>
          obtain ⟨written, nextFirst, nextWalk, hquiet, hnext⟩ :=
            @visited_quiet chain _ count number visit heights
              hsteps.place.windows hvisited hchanged
          have hquietSteps := @steps_visited chain _ count visit heights
            hsteps.place
          rw [hquiet] at hquietSteps
          have hpast := hquietSteps.frame.past.trans hsteps.frame.past
          obtain ⟨after, hafter⟩ := ih hquietSteps.place.windows hnext
            (by omega) (by rwa [hpast])
          exact ⟨after, hafter.prepend
            (hlead.trans (hquiet ▸ leads_step _)) hpast⟩

theorem next_starts {last : Option Window}
    (h : PlaceOk chain count db (.next count last)) :
    ∃ written window parent reported,
      walkStep chain ⟨db, .next count last, heights⟩ =
        ⟨written, startWalk window parent, reported⟩ := by
  cases hstored : db.window count with
  | some window =>
      have hopen := h.windows.current window hstored
      simp only [walkStep, walkWindow, WindowDb.getWindow, hstored,
        if_neg (show ¬ window.isFinished = true by simp [hopen]),
        Option.getD_some]
      exact ⟨_, _, _, _, rfl⟩
  | none =>
      obtain ⟨origin, parent, hfirst, -⟩ :=
        firstBlocks_placed h.windows h.proc.2
      simp only [walkStep, walkWindow, WindowDb.getWindow, hstored, hfirst,
        Option.bind_eq_bind, Option.bind_some, Option.pure_def,
        Option.getD_some]
      exact ⟨_, _, _, _, rfl⟩

/-- Every window is finished, if the set changes past its first block. -/
theorem walked_window {last : Option Window}
    (h : PlaceOk chain count db (.next count last))
    (hlt : chain.past db count < stop) (hgrows : chain.SetIdGrows stop) :
    ∃ after, Walked chain ⟨db, .next count last, heights⟩ count after := by
  have hsteps := @steps_next chain db count heights count last h
  obtain ⟨written, window, parent, reported, hstep⟩ :=
    @next_starts chain db count heights last h
  rw [hstep] at hsteps
  obtain ⟨first, number, hwalk⟩ := hsteps.place.proc
  have hpast : chain.past written count = chain.past db count :=
    hsteps.frame.past
  have hnumber : number = chain.past written count := by
    rw [← hsteps.place.windows.start_eq_past hwalk.window]
    exact hwalk.parentNumber.symm
  obtain ⟨after, hafter⟩ := @walked_block chain written count number first stop
    _ reported (stop - number) hsteps.place.windows hwalk (by omega)
    (by omega) hgrows
  exact ⟨after, hafter.prepend (hstep ▸ leads_step _) hpast⟩

end RuntimeBridge.DataProvider
