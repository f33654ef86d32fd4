import RuntimeBridge.DataProvider.ParentTiling

/-! Which relay blocks each window covers in a run that nothing interrupts.
The answer depends on the chain alone. -/

namespace RuntimeBridge.DataProvider

open Library

/-- Window `id` covers the relay blocks from `start` to `stop`.  Only the first
window may close at its first block, since the others do not look behind it. -/
inductive Chain.Spans (chain : Chain) : Nat → Nat → Nat → Prop
  | first {stop : Nat} (hle : chain.genesis.parentNumber < stop)
      (grows : chain.SetIdGrows stop)
      (quiet : chain.SameSet chain.genesis.parentNumber stop) :
      Spans chain 0 (chain.genesis.parentNumber + 1) stop
  | next {id start stop last : Nat}
      (previous : Spans chain id start stop) (hlt : stop + 1 < last)
      (grows : chain.SetIdGrows last) (quiet : chain.SameSet (stop + 1) last) :
      Spans chain (id + 1) (stop + 1) last

/-- The first window closes at the first block that changes the authority
set. -/
def FirstClosed (chain : Chain) (window : Window) (stop : Nat) : Prop :=
  window.windowId = 0 →
    stop = window.parentStartBlock ∨ ¬ chain.SetIdGrows window.parentStartBlock

def FirstProc (chain : Chain) (db : WindowDb) : Proc → Prop
  | .next id _ => id = 0 → db.window 0 = none
  | .block walk =>
      FirstClosed chain walk.currentWindow walk.parentNumber ∧
        (walk.currentWindow.windowId = 0 → walk.lastParentBlock =
          some (chain.parent (walk.parentNumber - 1)))
  | .visited visit =>
      FirstClosed chain visit.currentWindow visit.currParentBlock.number ∧
        (visit.currentWindow.windowId = 0 → visit.lastParentBlock =
          some (chain.parent (visit.currParentBlock.number - 1)))
  | .mark window _ => FirstClosed chain window window.stop
  | .close window => FirstClosed chain window window.stop
  | .commit _ => True
  | .exited => True

structure FirstOk (chain : Chain) (state : WalkState) : Prop where
  stored : ∀ window, state.db.window 0 = some window →
    window.isFinished = true → FirstClosed chain window window.stop
  proc : FirstProc chain state.db state.proc

variable {chain : Chain} {db written : WindowDb} {state : WalkState}
  {walk : Walk} {visit : Visit} {window : Window} {count id : Nat}

theorem firstOk_visited (hvisited : VisitOk chain db count number visit)
    (hopen : visit.currentWindow.isFinished = false)
    (hproc : FirstProc chain db (.visited visit))
    (hstored : ∀ window, db.window 0 = some window →
      window.isFinished = true → FirstClosed chain window window.stop)
    {proc : Proc} (hfinish : finishVisit db visit = some (written, proc)) :
    FirstProc chain written proc ∧
      ∀ window, written.window 0 = some window →
        window.isFinished = true → FirstClosed chain window window.stop := by
  have hnumber : visit.currParentBlock.number = number := by
    rw [hvisited.currParentBlock, chain.parent_number]
  obtain ⟨hclosed, hlast⟩ := hproc
  rw [hnumber] at hclosed hlast
  rw [finishVisit] at hfinish
  cases hchanged :
      setIdChanged visit.currParentBlock visit.lastParentBlock with
  | true =>
      obtain ⟨window, hclose, hid, horigin, -, hparent, -⟩ :=
        hvisited.arrived.closeWindow
      have hstart : window.parentStartBlock =
          visit.currentWindow.parentStartBlock :=
        congrArg Origin.parentStart horigin
      have hwindow : FirstClosed chain window window.stop := by
        rw [FirstClosed, hid, hstart, Window.stop, hparent, Int.toNat_natCast]
        exact hclosed
      rw [if_pos hchanged] at hfinish
      simp only [hclose, Option.bind_eq_bind, Option.bind_some,
        Option.bind_eq_some_iff] at hfinish
      obtain ⟨after, hafter, hfinish⟩ := hfinish
      have hsame := (WindowDb.commitBlobRange_frame hafter).1
      split at hfinish
      · cases hfinish
        exact ⟨hwindow, by rwa [hsame]⟩
      · cases hfinish
        exact ⟨hwindow, by rwa [hsame]⟩
  | false =>
      have hnext : ∀ window : Window,
          window.windowId = visit.currentWindow.windowId →
          window.parentStartBlock = visit.currentWindow.parentStartBlock →
          FirstProc chain written (.block (visit.recur window)) := by
        intro window hid hstart
        refine ⟨?_, fun _ => ?_⟩
        · rw [FirstClosed]
          intro hzero
          simp only [Visit.recur] at hzero ⊢
          apply Or.inr
          rw [hid] at hzero
          rw [hstart]
          rcases hclosed hzero with hfirst | hquiet
          · rw [hvisited.currParentBlock, hlast hzero, setIdChanged_some,
              decide_eq_false_iff_not] at hchanged
            rw [← hfirst]
            exact hchanged
          · exact hquiet
        · simp only [Visit.recur, hvisited.currParentBlock,
            chain.parent_number, Nat.add_sub_cancel]
      rw [if_neg (by simp [hchanged])] at hfinish
      split at hfinish
      · cases hfinish
        refine ⟨hnext _ rfl rfl, fun window hwindow hfinished => ?_⟩
        rcases putWindow_cases hwindow with ⟨-, rfl⟩ | hold
        · rw [hopen] at hfinished
          contradiction
        · exact hstored window hold hfinished
      · cases hfinish
        exact ⟨hnext _ rfl rfl, hstored⟩

theorem firstOk_walkWindow {lastWindow : Option Window} {after : WalkState}
    (hstored : ∀ window, state.db.window 0 = some window →
      window.isFinished = true → FirstClosed chain window window.stop)
    (hids : ∀ window, state.db.window id = some window → window.windowId = id)
    (hproc : FirstProc chain state.db (.next id lastWindow))
    (h : walkWindow chain state id lastWindow = some after) :
    FirstOk chain after := by
  cases hwindow : state.db.window id with
  | some window =>
      have hid := hids window hwindow
      have hne : id ≠ 0 := by
        rintro rfl
        rw [hproc rfl] at hwindow
        contradiction
      simp only [walkWindow, WindowDb.getWindow, hwindow] at h
      split at h
      · cases h
        exact
          { stored := hstored
            proc := fun hzero => absurd hzero (Nat.succ_ne_zero id) }
      · cases h
        exact
          { stored := hstored
            proc := ⟨fun hzero => absurd (hid.symm.trans hzero) hne,
              fun hzero => absurd (hid.symm.trans hzero) hne⟩ }
  | none =>
      simp only [walkWindow, WindowDb.getWindow, hwindow, Option.bind_eq_bind,
        Option.bind_eq_some_iff, Option.pure_def, Prod.exists,
        Option.some.injEq] at h
      obtain ⟨parentStart, paraStart, last, hfirst, rfl⟩ := h
      refine { stored := ?_, proc := ⟨fun _ => Or.inl rfl, ?_⟩ }
      · intro window hnew hfinished
        rcases putWindow_cases hnew with ⟨-, rfl⟩ | hold
        · contradiction
        · exact hstored window hold hfinished
      · intro hzero
        have hid : id = 0 := hzero
        subst hid
        simp only [firstBlocks, Option.some.injEq, Prod.mk.injEq] at hfirst
        obtain ⟨rfl, -, rfl⟩ := hfirst
        rfl

theorem firstOk_step (hgrandpa : chain.Grandpa) (hstate : StateOk chain state)
    (h : FirstOk chain state) : FirstOk chain (walkStep chain state) := by
  have hnext := stateOk_step hgrandpa hstate
  obtain ⟨db, proc, heights⟩ := state
  obtain ⟨count, hok, hproc⟩ := hstate
  obtain ⟨hstored, hfirst⟩ := h
  cases proc with
  | next id lastWindow =>
      obtain ⟨after, hafter, -⟩ :=
        @walkWindow_ok chain count ⟨db, .next id lastWindow, heights⟩ id
          lastWindow hok hproc
      simp only [walkStep, hafter, Option.getD_some]
      exact firstOk_walkWindow hstored (hok.windows.windowId id) hfirst hafter
  | block walk =>
      cases hvisit : visitBlock chain db walk with
      | none =>
          simp only [walkStep, hvisit]
          exact { stored := hstored, proc := True.intro }
      | some visited =>
          obtain ⟨written, visit⟩ := visited
          obtain ⟨hwindow, -⟩ := visitBlock_frame hvisit
          obtain ⟨hcurrent, hcurr, hlast, -⟩ := visitBlock_visit hvisit
          simp only [walkStep, hvisit]
          refine { stored := by rwa [hwindow], proc := ?_ }
          simp only [FirstProc, hcurrent, hcurr, hlast, chain.parent_number]
          exact hfirst
  | visited visit =>
      obtain ⟨number, hvisited⟩ := hproc
      cases hfinish : finishVisit db visit with
      | none =>
          simp only [walkStep, hfinish]
          exact { stored := hstored, proc := True.intro }
      | some finished =>
          obtain ⟨written, proc⟩ := finished
          obtain ⟨hafter, hkept⟩ := firstOk_visited hvisited
            (hok.windows.current _ hvisited.window) hfirst hstored hfinish
          simp only [walkStep, hfinish]
          exact { stored := hkept, proc := hafter }
  | mark window key =>
      exact { stored := hstored, proc := hfirst }
  | close window =>
      refine { stored := fun other hother hfinished => ?_, proc := True.intro }
      rcases putWindow_cases hother with ⟨-, rfl⟩ | hold
      · exact hfirst
      · exact hstored other hold hfinished
  | commit window =>
      exact
        { stored := hstored
          proc := fun hzero => absurd hzero (Nat.succ_ne_zero _) }
  | exited => exact hproc.elim

theorem firstOk_reaches (hgrandpa : chain.Grandpa)
    (h : (walkMachine chain).Reaches uninterrupted state) :
    StateOk chain state ∧ FirstOk chain state := by
  refine ⟨stateOk_reachable hgrandpa h.reachable, ?_⟩
  have hboth := @Machine.Preserves.reaches _ _ (walkMachine chain)
    uninterrupted (fun state => StateOk chain state ∧ FirstOk chain state)
    state ?_ ?_ h
  · exact hboth.2
  · intro before event after hproceed hbefore htaken
    cases hproceed
    cases Option.some.inj htaken
    exact ⟨stateOk_step hgrandpa hbefore.1,
      firstOk_step hgrandpa hbefore.1 hbefore.2⟩
  · refine ⟨stateOk_reachable hgrandpa Relation.ReflTransGen.refl, ?_⟩
    exact
      { stored := fun _ hnone => by cases hnone
        proc := fun _ => rfl }

/-- The finished windows cover the spans that the chain determines. -/
theorem DbOk.spans (hok : DbOk chain state.db count)
    (hfirst : FirstOk chain state) (hid : id < count)
    (stored : state.db.window id = some window) :
    chain.Spans id window.parentStartBlock window.stop := by
  induction id generalizing window with
  | zero =>
      have hclosed := hok.windows.closed hid stored
      obtain ⟨finished, hfinished, hflag, -⟩ := hok.windows.finished 0 hid
      cases Option.some.inj (stored.symm.trans hfinished)
      have hstart : window.parentStartBlock =
          chain.genesis.parentNumber + 1 := hok.windows.start_eq_past stored
      have hordered := hclosed.ordered
      rw [hstart]
      refine .first (by omega) hclosed.grows fun number hgt hlt => ?_
      rcases Nat.eq_or_lt_of_le (Nat.succ_le_of_lt hgt) with heq | hlater
      · rcases hfirst.stored window stored hflag
          (hok.windows.windowId 0 window stored) with hsame | hquiet
        · omega
        · rw [hstart] at hquiet
          rw [← heq]
          exact hquiet
      · exact hclosed.sameSet number (by omega) hlt
  | succ id ih =>
      have hclosed := hok.windows.closed hid stored
      obtain ⟨previous, hprevious, -⟩ := hok.windows.finished id (by omega)
      have hstart := hok.windows.start_of_succ (by omega) stored hprevious
      have hordered := hclosed.ordered
      have hsame := hclosed.sameSet
      have hne : window.stop ≠ window.parentStartBlock := fun heq => by
        have := hclosed.first_block heq
        rw [hok.windows.windowId (id + 1) window stored] at this
        contradiction
      rw [hstart] at hordered hsame hne ⊢
      exact .next (ih (by omega) hprevious)
        (Nat.lt_of_le_of_ne hordered hne.symm) hclosed.grows hsame

theorem Chain.SameSet.stop_unique {first left right : Nat}
    (hleft : chain.SameSet first left) (hright : chain.SameSet first right)
    (hltLeft : first < left) (hltRight : first < right)
    (growsLeft : chain.SetIdGrows left) (growsRight : chain.SetIdGrows right) :
    left = right := by
  rcases Nat.lt_trichotomy left right with hlt | heq | hlt
  · exact absurd growsLeft (hright left hltLeft hlt)
  · exact heq
  · exact absurd growsRight (hleft right hltRight hlt)

theorem Chain.Spans.unique {start stop otherStart otherStop : Nat}
    (h : chain.Spans id start stop)
    (hother : chain.Spans id otherStart otherStop) :
    start = otherStart ∧ stop = otherStop := by
  induction h generalizing otherStart otherStop with
  | first hle grows quiet =>
      cases hother with
      | first hle' grows' quiet' =>
          exact ⟨rfl, quiet.stop_unique quiet' hle hle' grows grows'⟩
  | next previous hlt grows quiet ih =>
      cases hother with
      | next previous' hlt' grows' quiet' =>
          obtain ⟨-, rfl⟩ := ih previous'
          exact ⟨rfl, quiet.stop_unique quiet' hlt hlt' grows grows'⟩

end RuntimeBridge.DataProvider
