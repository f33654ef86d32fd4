import RuntimeBridge.DataProvider.Rewalk

/-! Interrupted walks converge: whatever crashes interrupt `walkWindow`, running
it again until it completes leaves what an uninterrupted call leaves. -/

namespace RuntimeBridge.DataProvider

open Library

/-- The call of `walkWindow` for window `windowId` has returned. -/
def Completed (windowId : Nat) (state : WalkState) : Prop :=
  ∃ window, state.proc = .next (windowId + 1) (some window)

/-- Until the window is complete, with crashes between any two writes. -/
def restartedCall (windowId : Nat) : WalkState → WalkEvent → Prop :=
  fun state _ => ¬ Completed windowId state

def wholeCall (windowId : Nat) : WalkState → WalkEvent → Prop :=
  fun state event => ¬ Completed windowId state ∧ event = .proceed

/-- Every key family of the window loop but `LAST_COMMITTED_PARENT_BLOCK`. -/
structure SameKeys (db other : WindowDb) : Prop where
  window : other.window = db.window
  rangeByParentBlock : other.rangeByParentBlock = db.rangeByParentBlock
  rangeByParaBlock : other.rangeByParaBlock = db.rangeByParaBlock
  drySyncHeader : other.drySyncHeader = db.drySyncHeader
  rangeWritten : other.rangeWritten = db.rangeWritten
  blobRange : other.blobRange = db.blobRange
  blobRangeCommitted : other.blobRangeCommitted = db.blobRangeCommitted

structure SamePoint (state other : WalkState) : Prop where
  db : state.db = other.db
  proc : state.proc = other.proc

variable {chain : Chain} {windowId count next : Nat}
  {start state whole other after : WalkState}

theorem SameKeys.refl (db : WindowDb) : SameKeys db db where
  window := rfl
  rangeByParentBlock := rfl
  rangeByParaBlock := rfl
  drySyncHeader := rfl
  rangeWritten := rfl
  blobRange := rfl
  blobRangeCommitted := rfl

theorem SamePoint.completed (h : SamePoint state other)
    (hcompleted : Completed windowId state) : Completed windowId other := by
  obtain ⟨window, hproc⟩ := hcompleted
  exact ⟨window, h.proc.symm.trans hproc⟩

/-- The heights that were reported do not matter. -/
theorem SamePoint.walkStep (h : SamePoint state other) :
    SamePoint (walkStep chain state) (walkStep chain other) := by
  obtain ⟨db, proc, heights⟩ := state
  obtain ⟨otherDb, otherProc, otherHeights⟩ := other
  obtain ⟨hdb, hproc⟩ := h
  simp only at hdb hproc
  subst hdb hproc
  cases proc with
  | next id last =>
      simp only [DataProvider.walkStep, walkWindow, WindowDb.getWindow]
      cases db.window id with
      | some window =>
          cases hfinished : window.isFinished with
          | true =>
              simp only [hfinished, if_true, Option.getD_some]
              exact ⟨rfl, rfl⟩
          | false =>
              simp only [hfinished, Bool.false_eq_true, if_false,
                Option.getD_some]
              exact ⟨rfl, rfl⟩
      | none =>
          cases firstBlocks chain id last with
          | some blocks => exact ⟨rfl, rfl⟩
          | none => exact ⟨rfl, rfl⟩
  | block walk =>
      simp only [DataProvider.walkStep]
      cases visitBlock chain db walk with
      | some visited => exact ⟨rfl, rfl⟩
      | none => exact ⟨rfl, rfl⟩
  | visited visit =>
      simp only [DataProvider.walkStep]
      cases finishVisit db visit with
      | some finished => exact ⟨rfl, rfl⟩
      | none => exact ⟨rfl, rfl⟩
  | mark window key => exact ⟨rfl, rfl⟩
  | close window => exact ⟨rfl, rfl⟩
  | commit window => exact ⟨rfl, rfl⟩
  | exited => exact ⟨rfl, rfl⟩

theorem wholeCall_step (h : ¬ Completed windowId state) :
    (walkMachine chain).Next (wholeCall windowId) state
      (walkStep chain state) :=
  ⟨.proceed, ⟨h, rfl⟩, rfl⟩

theorem wholeCall_next
    (h : (walkMachine chain).Next (wholeCall windowId) state after) :
    ¬ Completed windowId state ∧ after = walkStep chain state := by
  obtain ⟨event, ⟨hopen, rfl⟩, htaken⟩ := h
  exact ⟨hopen, (Option.some.inj htaken).symm⟩

/-- Two uninterrupted runs from one state are one run. -/
theorem wholeCall_total
    (h : (walkMachine chain).Leads (wholeCall windowId) start whole)
    (hother : (walkMachine chain).Leads (wholeCall windowId) start other)
    (hcompleted : Completed windowId whole) :
    (walkMachine chain).Leads (wholeCall windowId) other whole := by
  have hunique : Relator.RightUnique
      ((walkMachine chain).Next (wholeCall windowId)) := by
    intro before left right hleft hright
    rw [(wholeCall_next hleft).2, (wholeCall_next hright).2]
  rcases Relation.ReflTransGen.total_of_right_unique hunique h hother with
    hleads | hleads
  · rcases hleads.cases_head with rfl | ⟨after, hnext, -⟩
    · exact Relation.ReflTransGen.refl
    · exact absurd hcompleted (wholeCall_next hnext).1
  · exact hleads

theorem SamePoint.leads (h : SamePoint state other)
    (hleads : (walkMachine chain).Leads (wholeCall windowId) state after) :
    ∃ final, (walkMachine chain).Leads (wholeCall windowId) other final ∧
      SamePoint after final := by
  induction hleads with
  | refl => exact ⟨other, Relation.ReflTransGen.refl, h⟩
  | tail _ hnext ih =>
      obtain ⟨reached, hreached, hsame⟩ := ih
      obtain ⟨hopen, rfl⟩ := wholeCall_next hnext
      refine ⟨_, hreached.tail (wholeCall_step fun hdone => hopen ?_),
        hsame.walkStep⟩
      exact SamePoint.completed ⟨hsame.db.symm, hsame.proc.symm⟩ hdone

/-- Rewalking is running, with nothing written. -/
theorem Rewalk.leads {proc : Proc}
    (h : Rewalk chain state.db windowId state.proc proc) :
    ∃ final, (walkMachine chain).Leads (wholeCall windowId) state final ∧
      final.db = state.db ∧ final.proc = proc := by
  induction h with
  | refl => exact ⟨state, Relation.ReflTransGen.refl, rfl, rfl⟩
  | tail _ hquiet ih =>
      obtain ⟨⟨db, proc, heights⟩, hreached, rfl, rfl⟩ := ih
      obtain ⟨hopen, hstep⟩ := hquiet
      obtain ⟨reported, hreported⟩ := hstep heights
      refine ⟨_, hreached.tail (wholeCall_step ?_), ?_⟩
      · rintro ⟨window, hproc⟩
        exact hopen (some window) hproc
      · rw [hreported]
        exact ⟨rfl, rfl⟩

/-- Where an uninterrupted call for window `windowId` can be. -/
structure OnPath (chain : Chain) (windowId count : Nat) (state : WalkState) :
    Prop where
  place : PlaceOk chain count state.db state.proc
  pos : 0 < count
  at_window : state.proc.currentId count = windowId ∨ Completed windowId state

theorem onPath_step (h : OnPath chain windowId count state)
    (hopen : ¬ Completed windowId state) :
    ∃ next, OnPath chain windowId next (walkStep chain state) := by
  obtain ⟨next, hsteps⟩ := walkStep_steps h.place
  have hat := h.at_window.resolve_right hopen
  refine ⟨next, hsteps.place, ?_, ?_⟩
  · have := h.pos
    have := hsteps.next_eq
    omega
  · rcases hsteps.turn with hsame | ⟨last, hnext⟩
    · exact Or.inl (hsame.trans hat)
    · exact Or.inr ⟨last, by rw [hnext, hat]⟩

theorem onPath_leads (h : ∃ count, OnPath chain windowId count start)
    (hleads : (walkMachine chain).Leads (wholeCall windowId) start whole) :
    ∃ count, OnPath chain windowId count whole := by
  induction hleads with
  | refl => exact h
  | tail _ hnext ih =>
      obtain ⟨count, hpath⟩ := ih
      obtain ⟨hopen, rfl⟩ := wholeCall_next hnext
      exact onPath_step hpath hopen

theorem OnPath.rewalk (h : OnPath chain windowId count whole) :
    Rewalk chain whole.db windowId (.next 0 none) whole.proc.resumed := by
  refine rewalk_resumed h.place h.pos ?_
  rcases h.at_window with hat | ⟨window, hproc⟩
  · exact Or.inl (Nat.le_of_eq hat)
  · exact Or.inr ⟨some window, hproc⟩

/-- The interrupted run has written what the uninterrupted run has written when
it is at `whole`, and gets there without writing. -/
structure Follows (chain : Chain) (windowId : Nat)
    (start state whole : WalkState) : Prop where
  leads : (walkMachine chain).Leads (wholeCall windowId) start whole
  db : state.db = whole.db
  rewalk : ∃ target, (target = whole.proc ∨ target = whole.proc.resumed) ∧
    Rewalk chain whole.db windowId state.proc target

theorem Proc.resumed_of_ne (proc : Proc) :
    proc.resumed = proc ∨ ∃ window, proc = .commit window := by
  cases proc with
  | commit window => exact Or.inr ⟨window, rfl⟩
  | _ => exact Or.inl rfl

/-- A call that stands before its last write completes with the next step. -/
theorem OnPath.commit {window : Window}
    (h : OnPath chain windowId count whole)
    (hproc : whole.proc = .commit window) :
    window.windowId = windowId := by
  have hplace := h.place
  have hat := h.at_window
  rw [hproc] at hplace
  obtain ⟨id, rfl, hstored⟩ := hplace.proc
  have hid := hplace.windows.windowId id window hstored
  rcases hat with hat | ⟨last, hlast⟩
  · rw [hproc] at hat
    exact hid.trans hat
  · rw [hproc] at hlast
    cases hlast

theorem follows_step {event : WalkEvent}
    (hstart : ∃ count, OnPath chain windowId count start)
    (h : Follows chain windowId start state whole)
    (hopen : ¬ Completed windowId state)
    (htaken : (walkMachine chain).step state event = some after) :
    ∃ reached, Follows chain windowId start after reached := by
  obtain ⟨count, hpath⟩ := onPath_leads hstart h.leads
  cases event with
  | crash =>
      cases Option.some.inj htaken
      exact ⟨whole, h.leads, h.db, _, Or.inr rfl, hpath.rewalk⟩
  | proceed =>
      cases Option.some.inj htaken
      obtain ⟨target, htarget, hrewalk⟩ := h.rewalk
      rcases hrewalk.cases_head with heq | ⟨next, ⟨-, hstep⟩, hrest⟩
      · have hsame : state.proc = whole.proc := by
          rcases htarget with rfl | rfl
          · exact heq
          · rcases whole.proc.resumed_of_ne with hproc | ⟨window, hproc⟩
            · exact heq.trans hproc
            · rw [hproc] at heq
              exact absurd ⟨window, by rw [heq, Proc.resumed, hpath.commit hproc]⟩
                hopen
        have hpoint : SamePoint state whole := ⟨h.db, hsame⟩
        have hgoes := @SamePoint.walkStep chain _ _ hpoint
        refine ⟨walkStep chain whole, h.leads.tail (wholeCall_step ?_),
          hgoes.db, _, Or.inl rfl, ?_⟩
        · exact fun hdone =>
            hopen (SamePoint.completed ⟨h.db.symm, hsame.symm⟩ hdone)
        · rw [← hgoes.proc]
          exact Relation.ReflTransGen.refl
      · obtain ⟨db, proc, heights⟩ := state
        obtain ⟨reported, hreported⟩ := hstep heights
        cases h.db
        refine ⟨whole, h.leads, ?_, target, htarget, ?_⟩
        · rw [hreported]
        · rw [hreported]
          exact hrest

theorem follows_leads (hstart : ∃ count, OnPath chain windowId count start)
    (hleads : (walkMachine chain).Leads (restartedCall windowId) start after) :
    ∃ whole, Follows chain windowId start after whole := by
  induction hleads with
  | refl =>
      exact ⟨start, Relation.ReflTransGen.refl, rfl, _, Or.inl rfl,
        Relation.ReflTransGen.refl⟩
  | tail _ hnext ih =>
      obtain ⟨whole, hfollows⟩ := ih
      obtain ⟨event, hopen, htaken⟩ := hnext
      exact follows_step hstart hfollows hopen htaken

theorem onPath_start {last : Window}
    (reached : (walkMachine chain).Reachable start)
    (hpos : 0 < windowId) (hproc : start.proc = .next windowId (some last)) :
    ∃ count, OnPath chain windowId count start := by
  obtain ⟨count, hplace⟩ := placeOk_reachable reached
  refine ⟨count, hplace, ?_, Or.inl ?_⟩
  · rw [hproc] at hplace
    exact Nat.lt_of_lt_of_le hpos hplace.proc.1
  · rw [hproc]
    rfl

theorem completed_stays (hcompleted : Completed windowId state)
    (hleads : (walkMachine chain).Leads (wholeCall windowId) state after) :
    after = state := by
  rcases hleads.cases_head with rfl | ⟨next, hnext, -⟩
  · rfl
  · exact absurd hcompleted (wholeCall_next hnext).1

theorem commit_step {window : Window}
    (hpath : OnPath chain windowId count whole)
    (hproc : whole.proc = .commit window) :
    ¬ Completed windowId whole ∧
      Completed windowId (walkStep chain whole) ∧
      SameKeys (walkStep chain whole).db whole.db := by
  have hid := hpath.commit hproc
  obtain ⟨db, proc, heights⟩ := whole
  cases hproc
  refine ⟨?_, ⟨window, ?_⟩, ?_⟩
  · rintro ⟨last, hnext⟩
    cases hnext
  · rw [← hid]
    rfl
  · exact { SameKeys.refl db with }

/-- The uninterrupted call completes from where the interrupted one has. -/
theorem whole_completes (hpath : OnPath chain windowId count whole)
    (hproc : state.proc = whole.proc ∨ state.proc = whole.proc.resumed)
    (hcompleted : Completed windowId state) :
    ∃ final, (walkMachine chain).Leads (wholeCall windowId) whole final ∧
      Completed windowId final := by
  rcases whole.proc.resumed_of_ne with hsame | ⟨window, hcommit⟩
  · rw [hsame, or_self] at hproc
    obtain ⟨last, hlast⟩ := hcompleted
    exact ⟨whole, Relation.ReflTransGen.refl, last, hproc.symm.trans hlast⟩
  · obtain ⟨hopen, hdone, -⟩ := commit_step hpath hcommit
    exact ⟨_, Relation.ReflTransGen.single (wholeCall_step hopen), hdone⟩

/-- Back where it was interrupted, the call goes on as the uninterrupted one;
only the last write may be missing. -/
theorem resumed_completes (hpath : OnPath chain windowId count whole)
    (hdb : state.db = whole.db)
    (hproc : state.proc = whole.proc ∨ state.proc = whole.proc.resumed)
    (hleads : (walkMachine chain).Leads (wholeCall windowId) whole after)
    (hcompleted : Completed windowId after) :
    ∃ finished,
      (walkMachine chain).Leads (wholeCall windowId) state finished ∧
      Completed windowId finished ∧ SameKeys after.db finished.db := by
  by_cases hsame : state.proc = whole.proc
  · have hpoint : SamePoint whole state := ⟨hdb.symm, hsame.symm⟩
    obtain ⟨finished, hfinished, hend⟩ := hpoint.leads hleads
    refine ⟨finished, hfinished, hend.completed hcompleted, ?_⟩
    rw [hend.db]
    exact SameKeys.refl _
  · have hresumed := hproc.resolve_left hsame
    rcases whole.proc.resumed_of_ne with heq | ⟨window, hcommit⟩
    · exact absurd (hresumed.trans heq) hsame
    · obtain ⟨hopen, hdone, hkeys⟩ := commit_step hpath hcommit
      refine ⟨state, Relation.ReflTransGen.refl, ⟨window, ?_⟩, ?_⟩
      · rw [hresumed, hcommit, Proc.resumed, hpath.commit hcommit]
      · rcases hleads.cases_head with rfl | ⟨next, hnext, hrest⟩
        · exact absurd hcompleted hopen
        · obtain ⟨-, rfl⟩ := wholeCall_next hnext
          rw [completed_stays hdone hrest, hdb]
          exact hkeys

/-- `walkWindow` for a window after the first: what any run with crashes leaves
when it completes is what the uninterrupted run leaves, and it can always be
run to its end when the uninterrupted run has one. -/
theorem interrupted_walk_converges (chain : Chain) (windowId : Nat)
    (start : WalkState) (last : Window)
    (reached : (walkMachine chain).Reachable start) (later : 0 < windowId)
    (calls : start.proc = .next windowId (some last)) :
    (∀ after,
      (walkMachine chain).Leads (restartedCall windowId) start after →
      Completed windowId after →
      ∃ whole,
        (walkMachine chain).Leads (wholeCall windowId) start whole ∧
        Completed windowId whole ∧ SameKeys whole.db after.db) ∧
    (∀ whole after,
      (walkMachine chain).Leads (wholeCall windowId) start whole →
      Completed windowId whole →
      (walkMachine chain).Leads (restartedCall windowId) start after →
      ∃ finished,
        (walkMachine chain).Leads (wholeCall windowId) after finished ∧
        Completed windowId finished ∧ SameKeys whole.db finished.db) := by
  have hstart := onPath_start reached later calls
  constructor
  · intro after hleads hcompleted
    obtain ⟨whole, hfollows⟩ := follows_leads hstart hleads
    obtain ⟨target, htarget, hrewalk⟩ := hfollows.rewalk
    obtain ⟨count, hpath⟩ := onPath_leads hstart hfollows.leads
    have hproc : after.proc = whole.proc ∨
        after.proc = whole.proc.resumed := by
      rcases hrewalk.cases_head with heq | ⟨next, ⟨hopen, -⟩, -⟩
      · rwa [heq]
      · obtain ⟨window, hwindow⟩ := hcompleted
        exact absurd hwindow (hopen (some window))
    obtain ⟨final, hfinal, hdone⟩ := whole_completes hpath hproc hcompleted
    obtain ⟨finished, hfinished, -, hkeys⟩ :=
      resumed_completes hpath hfollows.db hproc hfinal hdone
    rw [completed_stays hcompleted hfinished] at hkeys
    exact ⟨final, hfollows.leads.trans hfinal, hdone, hkeys⟩
  · intro whole after hwhole hcompleted hleads
    obtain ⟨reachedPoint, hfollows⟩ := follows_leads hstart hleads
    obtain ⟨target, htarget, hrewalk⟩ := hfollows.rewalk
    obtain ⟨count, hpath⟩ := onPath_leads hstart hfollows.leads
    rw [← hfollows.db] at hrewalk
    obtain ⟨back, hback, hdb, hproc⟩ := hrewalk.leads
    have hrest := wholeCall_total hwhole hfollows.leads hcompleted
    obtain ⟨finished, hfinished, hdone, hkeys⟩ :=
      resumed_completes hpath (hdb.trans hfollows.db) (by rwa [hproc]) hrest
        hcompleted
    exact ⟨finished, hback.trans hfinished, hdone, hkeys⟩

def stillOpen (windowId : Nat) (state : WalkState) (_ : WalkEvent) : Bool :=
  match state.proc with
  | .next id (some _) => id != windowId + 1
  | _ => true

theorem restarted_of_open {event : WalkEvent}
    (h : stillOpen windowId state event = true) :
    restartedCall windowId state event := by
  rintro ⟨window, hproc⟩
  simp [stillOpen, hproc] at h

/-- Blocks 1 and 2 make the first window, and the second one is next. -/
def secondWindow : WalkState :=
  (walkMachine (Chain.setsEvery 2)).ended (List.replicate 8 .proceed)

/-- A crash after the range of block 3 is written. -/
def crashAfterRange : List WalkEvent :=
  List.replicate 3 .proceed ++ .crash :: List.replicate 9 .proceed

theorem interrupted_walk_converges_crash :
    ∃ after whole,
      (walkMachine (Chain.setsEvery 2)).Leads (restartedCall 1) secondWindow
        after ∧
      (walkMachine (Chain.setsEvery 2)).Leads (wholeCall 1) secondWindow
        whole ∧
      Completed 1 whole ∧ SameKeys whole.db after.db := by
  obtain ⟨after, hrun, window, hproc⟩ : ∃ after,
      (walkMachine (Chain.setsEvery 2)).runIf (stillOpen 1) secondWindow
          crashAfterRange = some after ∧ Completed 1 after :=
    ⟨_, rfl, _, rfl⟩
  have hleads := Machine.leads_of_runIf (fun _ _ => restarted_of_open) hrun
  obtain ⟨whole, hwhole, hcompleted, hkeys⟩ :=
    (interrupted_walk_converges (Chain.setsEvery 2) 1 secondWindow _
      (Machine.reachable_ended rfl) (Nat.succ_pos 0) rfl).1 after hleads
      ⟨window, hproc⟩
  exact ⟨after, whole, hleads, hwhole, hcompleted, hkeys⟩

end RuntimeBridge.DataProvider
