import RuntimeBridge.Lifecycle.Iterate

/-! `iterate` as a program: the frames of `process` share `attempt` and
`shouldIgnoreError`, and every call leaves an entry in a log. -/

namespace RuntimeBridge.Lifecycle

/-- What comes of a function that the iterator yields: of its executions, of
`processError` and of `throwFatal`.  The first two are told by the attempt; a
call of `processError` may call `setShouldIgnoreError`. -/
structure Calls (E : Type) where
  fn : Nat → Except E Unit
  processError : Nat → Bool × Except E Unit
  throwFatal : Except E Unit

inductive Entry (E : Type) where
  | ran (result : Except E Unit)
  | processError (e : E) (attempt : Nat) (ignores : Bool)
      (result : Except E Unit)
  | throwFatal (e : E) (result : Except E Unit)

structure Variables (E : Type) where
  attempt : Nat
  shouldIgnoreError : Bool
  log : List (Entry E)

/-- Assignments outlive the errors that are thrown behind them. -/
abbrev Async (E : Type) := ExceptT E (StateM (Variables E))

namespace Calls

variable {E : Type}

def setShouldIgnoreError : Async E Unit :=
  modify fun state => { state with shouldIgnoreError := true }

def enter (entry : Entry E) : Async E Unit :=
  modify fun state => { state with log := state.log ++ [entry] }

def settle (result : Except E Unit) : Async E Unit :=
  ExceptT.mk (pure result)

def callFn (calls : Calls E) : Async E Unit := do
  let result := calls.fn (← get).attempt
  enter (.ran result)
  settle result

def callProcessError (calls : Calls E) (e : E) : Async E Unit := do
  let attempt := (← get).attempt
  let (ignores, result) := calls.processError attempt
  enter (.processError e attempt ignores result)
  if ignores then setShouldIgnoreError
  settle result

def callThrowFatal (calls : Calls E) (e : E) : Async E Unit := do
  enter (.throwFatal e calls.throwFatal)
  settle calls.throwFatal

/-- The inner `try`: whether the error is to be ignored. -/
def recover (calls : Calls E) (e : E) : Async E Bool :=
  tryCatch
    (do
      calls.callProcessError e
      return (← get).shouldIgnoreError)
    fun _ => pure false

/-- `process` of a function, with a bound on its frames. -/
def process (calls : Calls E) : Nat → Async E Unit
  | 0 => pure ()
  | frames + 1 =>
      tryCatch calls.callFn fun e => do
        if (← get).attempt ≤ 5 then
          if ← calls.recover e then
            pure ()
          else
            modify fun state =>
              { state with attempt := state.attempt + 1 }
            calls.process frames
        else
          calls.callThrowFatal e

end Calls

variable {E : Type} {calls : Calls E} {state : Variables E}

theorem tryCatch_run {α : Type} (body : Async E α) (rescue : E → Async E α) :
    (tryCatch body rescue).run.run state =
      match body.run.run state with
      | (.ok value, after) => (.ok value, after)
      | (.error e, after) => (rescue e).run.run after := by
  change (match body.run.run state with
    | (result, after) => (match result with
      | .ok value => (pure (Except.ok value) : StateM (Variables E) _)
      | .error e => (rescue e).run).run after) = _
  rcases body.run.run state with ⟨_ | _, _⟩ <;> rfl

theorem bind_run {α β : Type} (body : Async E α) (next : α → Async E β) :
    (body >>= next).run.run state =
      match body.run.run state with
      | (.ok value, after) => (next value).run.run after
      | (.error e, after) => (.error e, after) := by
  change (match body.run.run state with
    | (result, after) => (match result with
      | .ok value => (next value).run
      | .error e => (pure (Except.error e) : StateM (Variables E) _)).run
        after) = _
  rcases body.run.run state with ⟨_ | _, _⟩ <;> rfl

theorem get_run :
    (get : Async E (Variables E)).run.run state =
      (.ok state, state) := rfl

theorem callFn_run :
    calls.callFn.run.run state =
      (calls.fn state.attempt,
        { state with
          log := state.log ++ [.ran (calls.fn state.attempt)] }) := rfl

def Variables.handled (state : Variables E) (e : E) (ignores : Bool)
    (result : Except E Unit) : Variables E where
  attempt := state.attempt
  shouldIgnoreError := state.shouldIgnoreError || ignores
  log := state.log ++ [.processError e state.attempt ignores result]

theorem callProcessError_run (e : E) :
    (calls.callProcessError e).run.run state =
      ((calls.processError state.attempt).2,
        state.handled e (calls.processError state.attempt).1
          (calls.processError state.attempt).2) := by
  change (match calls.processError state.attempt with
    | (ignores, result) => (do
        Calls.enter (.processError e state.attempt ignores result)
        if ignores then Calls.setShouldIgnoreError
        Calls.settle result : Async E Unit)).run.run state = _
  rcases calls.processError state.attempt with ⟨_ | _, result⟩
  · rw [Variables.handled, Bool.or_false]
    rfl
  · rw [Variables.handled, Bool.or_true]
    rfl

theorem recover_run (e : E) :
    (calls.recover e).run.run state =
      (.ok ((calls.processError state.attempt).2.isOk &&
          (state.shouldIgnoreError ||
            (calls.processError state.attempt).1)),
        state.handled e (calls.processError state.attempt).1
          (calls.processError state.attempt).2) := by
  rw [Calls.recover, tryCatch_run, bind_run, callProcessError_run]
  cases (calls.processError state.attempt).2 <;> rfl

theorem process_succ (frames : Nat) :
    (calls.process (frames + 1)).run.run state =
      match calls.fn state.attempt with
      | .ok () =>
          (.ok (), { state with log := state.log ++ [.ran (.ok ())] })
      | .error e =>
          let failed : Variables E :=
            { state with log := state.log ++ [.ran (.error e)] }
          let recovery := calls.processError state.attempt
          if state.attempt ≤ 5 then
            if recovery.2.isOk && (state.shouldIgnoreError || recovery.1) then
              (.ok (), failed.handled e recovery.1 recovery.2)
            else
              (calls.process frames).run.run
                { failed.handled e recovery.1 recovery.2 with
                  attempt := state.attempt + 1 }
          else
            (calls.throwFatal,
              { failed with
                log := failed.log ++ [.throwFatal e calls.throwFatal] }) := by
  rw [Calls.process, tryCatch_run, callFn_run]
  cases hfn : calls.fn state.attempt with
  | ok value => rfl
  | error e =>
      simp only
      rw [bind_run, get_run]
      simp only
      split
      · rw [bind_run, recover_run]
        simp only
        split <;> rfl
      · rfl

/-- What the frames of one function log from the given attempt on, and what
comes of them. -/
inductive Attempts : Nat → Bool → List (Entry E) → Except E Unit → Prop
  | succeeds (attempt : Nat) (ignoring : Bool) :
      Attempts attempt ignoring [.ran (.ok ())] (.ok ())
  | ignored {attempt : Nat} {ignoring ignores : Bool} (e : E)
      (left : attempt ≤ 5) (ignore : (ignoring || ignores) = true) :
      Attempts attempt ignoring
        [.ran (.error e), .processError e attempt ignores (.ok ())] (.ok ())
  | retried {attempt : Nat} {ignoring ignores : Bool} (e : E)
      {recovery result : Except E Unit} {entries : List (Entry E)}
      (left : attempt ≤ 5)
      (retry : (recovery.isOk && (ignoring || ignores)) = false)
      (rest : Attempts (attempt + 1) (ignoring || ignores) entries result) :
      Attempts attempt ignoring
        (.ran (.error e) :: .processError e attempt ignores recovery :: entries)
        result
  | fatal {attempt : Nat} {ignoring : Bool} (e : E) (result : Except E Unit)
      (last : ¬ attempt ≤ 5) :
      Attempts attempt ignoring
        [.ran (.error e), .throwFatal e result] result

/-- Seven frames are enough, and each adds its calls to the log. -/
theorem process_attempts {frames : Nat}
    (h : 7 ≤ state.attempt + frames) (hattempt : state.attempt ≤ 6) :
    ∃ entries,
      ((calls.process frames).run.run state).2.log =
        state.log ++ entries ∧
      Attempts state.attempt state.shouldIgnoreError entries
        ((calls.process frames).run.run state).1 := by
  induction frames generalizing state with
  | zero => omega
  | succ frames ih =>
      rw [process_succ]
      cases hfn : calls.fn state.attempt with
      | ok value => exact ⟨_, rfl, .succeeds _ _⟩
      | error e =>
          simp only
          split
          · next hleft =>
              split
              · next hignored =>
                  rw [Bool.and_eq_true] at hignored
                  refine ⟨_, List.append_assoc .., ?_⟩
                  cases hresult : (calls.processError state.attempt).2 with
                  | error other =>
                      rw [hresult] at hignored
                      cases hignored.1
                  | ok value => exact .ignored e hleft hignored.2
              · next hretried =>
                  obtain ⟨entries, hlog, hrest⟩ := @ih
                    { (Variables.handled
                        { state with
                          log := state.log ++ [.ran (.error e)] } e
                        (calls.processError state.attempt).1
                        (calls.processError state.attempt).2) with
                      attempt := state.attempt + 1 }
                    (by simp only; omega) (by simp only; omega)
                  refine ⟨_, hlog.trans ?_, .retried e hleft
                    (Bool.eq_false_iff.mpr hretried) hrest⟩
                  simp [Variables.handled]
          · next hlast =>
              exact ⟨_, List.append_assoc .., .fatal e _ hlast⟩

namespace Entry

def isRan : Entry E → Bool
  | .ran _ => true
  | _ => false

def fails : Entry E → Bool
  | .ran (.error _) => true
  | _ => false

def isThrowFatal : Entry E → Bool
  | .throwFatal _ _ => true
  | _ => false

def attempt : Entry E → Option Nat
  | .processError _ attempt _ _ => some attempt
  | _ => none

def ignores : Entry E → Bool
  | .processError _ _ ignores _ => ignores
  | _ => false

end Entry

/-- The calls for one function say that the iteration goes on. -/
inductive MovesOn : List (Entry E) → Prop
  | succeeded (before : List (Entry E)) : MovesOn (before ++ [.ran (.ok ())])
  | ignored (before : List (Entry E)) (e : E) (attempt : Nat) (ignores : Bool)
      (h : (before ++ [Entry.processError e attempt ignores (.ok ())]).any
        Entry.ignores = true) :
      MovesOn (before ++ [.processError e attempt ignores (.ok ())])
  | fatal (before : List (Entry E)) (e : E) :
      MovesOn (before ++ [.throwFatal e (.ok ())])

theorem Attempts.executions {attempt : Nat} {ignoring : Bool}
    {entries : List (Entry E)} {result : Except E Unit}
    (h : Attempts attempt ignoring entries result) (hattempt : attempt ≤ 6) :
    entries.countP Entry.isRan + attempt ≤ 7 := by
  induction h with
  | succeeds attempt _ =>
      change 1 + attempt ≤ 7
      omega
  | ignored e left _ =>
      change 1 + _ ≤ 7
      omega
  | retried e left _ _ ih =>
      have hrest := ih (by omega)
      rw [List.countP_cons_of_pos rfl,
        List.countP_cons_of_neg Bool.false_ne_true]
      omega
  | fatal e result last =>
      change 1 + _ ≤ 7
      omega

theorem Attempts.recoveries {attempt : Nat} {ignoring : Bool}
    {entries : List (Entry E)} {result : Except E Unit}
    (h : Attempts attempt ignoring entries result) (hattempt : attempt ≤ 6) :
    ∃ count, entries.filterMap Entry.attempt = List.range' attempt count ∧
      attempt + count ≤ 6 := by
  induction h with
  | succeeds attempt _ => exact ⟨0, rfl, hattempt⟩
  | ignored e left _ => exact ⟨1, rfl, by omega⟩
  | retried e left _ _ ih =>
      obtain ⟨count, hrange, hbound⟩ := ih (by omega)
      refine ⟨count + 1, ?_, by omega⟩
      rw [List.range'_succ, ← hrange]
      rfl
  | fatal e result last => exact ⟨0, rfl, hattempt⟩

/-- What goes before an entry and what follows it, if the first of the entries
belong to the given attempt. -/
def Entry.Placed (attempt : Nat) (ignoring : Bool) (result : Except E Unit)
    (before after : List (Entry E)) : Entry E → Prop
  | .ran (.ok ()) => after = [] ∧ result = .ok ()
  | .ran (.error e) =>
      (before.countP fails + attempt ≤ 5 ∧
        ∃ ignores recovery rest, after =
          .processError e (before.countP fails + attempt) ignores recovery ::
            rest) ∨
      before.countP fails + attempt = 6 ∧ after = [.throwFatal e result]
  | .processError _ _ ignores recovery =>
      if recovery.isOk && (ignoring || (before.any Entry.ignores || ignores)) then
        after = [] ∧ result = .ok ()
      else ∃ execution rest, after = .ran execution :: rest
  | .throwFatal e outcome =>
      after = [] ∧ outcome = result ∧
        ∃ earlier, before = earlier ++ [.ran (.error e)] ∧
          earlier.countP fails + attempt = 6

theorem Attempts.head {attempt : Nat} {ignoring : Bool}
    {entries : List (Entry E)} {result : Except E Unit}
    (h : Attempts attempt ignoring entries result) :
    ∃ execution rest, entries = .ran execution :: rest := by
  cases h <;> exact ⟨_, _, rfl⟩

theorem Entry.Placed.behind {attempt number : Nat} {ignoring ignores : Bool}
    {result recovery : Except E Unit} {before after : List (Entry E)}
    {entry : Entry E} {e : E}
    (h : entry.Placed (attempt + 1) (ignoring || ignores) result before after) :
    entry.Placed attempt ignoring result
      (.ran (.error e) :: .processError e number ignores recovery :: before)
      after := by
  have hcount : List.countP Entry.fails
        (.ran (.error e) :: .processError e number ignores recovery :: before) +
          attempt = before.countP Entry.fails + (attempt + 1) := by
    rw [List.countP_cons_of_pos rfl,
      List.countP_cons_of_neg Bool.false_ne_true]
    omega
  match entry with
  | .ran (.ok ()) => exact h
  | .ran (.error _) =>
      simp only [Entry.Placed] at h ⊢
      rw [hcount]
      exact h
  | .processError _ _ others _ =>
      have hany : (ignoring || (List.any
          (.ran (.error e) :: .processError e number ignores recovery :: before)
          Entry.ignores || others)) =
          ((ignoring || ignores) || (before.any Entry.ignores || others)) := by
        simp [Entry.ignores, Bool.or_assoc]
      simp only [Entry.Placed] at h ⊢
      rw [hany]
      exact h
  | .throwFatal reason _ =>
      obtain ⟨hafter, houtcome, earlier, rfl, hearlier⟩ := h
      refine ⟨hafter, houtcome,
        .ran (.error e) :: .processError e number ignores recovery :: earlier,
        rfl, ?_⟩
      rw [List.countP_cons_of_pos rfl,
        List.countP_cons_of_neg Bool.false_ne_true]
      omega

theorem cons_cons_eq_append {first second entry : Entry E}
    {rest before after : List (Entry E)}
    (h : first :: second :: rest = before ++ entry :: after) :
    (before = [] ∧ first = entry ∧ after = second :: rest) ∨
      (before = [first] ∧ second = entry ∧ after = rest) ∨
      ∃ more, before = first :: second :: more ∧
        rest = more ++ entry :: after := by
  rcases List.cons_eq_append_iff.mp h with ⟨rfl, hrest⟩ | ⟨others, rfl, hrest⟩
  · cases hrest
    exact Or.inl ⟨rfl, rfl, rfl⟩
  · rcases List.cons_eq_append_iff.mp hrest with ⟨rfl, hbehind⟩ |
      ⟨more, rfl, hbehind⟩
    · cases hbehind
      exact Or.inr (Or.inl ⟨rfl, rfl, rfl⟩)
    · exact Or.inr (Or.inr ⟨more, rfl, hbehind⟩)

theorem Attempts.placed {attempt : Nat} {ignoring : Bool}
    {entries before after : List (Entry E)} {entry : Entry E}
    {result : Except E Unit} (h : Attempts attempt ignoring entries result)
    (hattempt : attempt ≤ 6) (hsplit : entries = before ++ entry :: after) :
    entry.Placed attempt ignoring result before after := by
  induction h generalizing before with
  | succeeds attempt _ =>
      rcases List.cons_eq_append_iff.mp hsplit with ⟨rfl, hrest⟩ |
        ⟨others, rfl, hrest⟩
      · cases hrest
        exact ⟨rfl, rfl⟩
      · cases (List.nil_eq_append_iff.mp hrest).2
  | ignored e left ignore =>
      rcases cons_cons_eq_append hsplit with ⟨rfl, rfl, rfl⟩ | ⟨rfl, rfl, rfl⟩ |
        ⟨more, rfl, hend⟩
      · refine Or.inl ⟨Nat.le_trans (Nat.le_of_eq (Nat.zero_add _)) left, ?_⟩
        rw [List.countP_nil, Nat.zero_add]
        exact ⟨_, _, [], rfl⟩
      · exact (if_pos ignore).mpr ⟨rfl, rfl⟩
      · cases (List.nil_eq_append_iff.mp hend).2
  | retried e left retry rest ih =>
      rcases cons_cons_eq_append hsplit with ⟨rfl, rfl, rfl⟩ | ⟨rfl, rfl, rfl⟩ |
        ⟨more, rfl, hbehind⟩
      · refine Or.inl ⟨Nat.le_trans (Nat.le_of_eq (Nat.zero_add _)) left, ?_⟩
        rw [List.countP_nil, Nat.zero_add]
        exact ⟨_, _, _, rfl⟩
      · exact (if_neg (Bool.eq_false_iff.mp retry)).mpr rest.head
      · exact (ih (by omega) hbehind).behind
  | @fatal attempt _ e result last =>
      have hlast : 0 + attempt = 6 := by omega
      rcases cons_cons_eq_append hsplit with ⟨rfl, rfl, rfl⟩ | ⟨rfl, rfl, rfl⟩ |
        ⟨more, rfl, hend⟩
      · exact Or.inr ⟨hlast, rfl⟩
      · exact ⟨rfl, rfl, [], rfl, hlast⟩
      · cases (List.nil_eq_append_iff.mp hend).2

theorem Attempts.fatal_le_one {attempt : Nat} {ignoring : Bool}
    {entries : List (Entry E)} {result : Except E Unit}
    (h : Attempts attempt ignoring entries result) :
    entries.countP Entry.isThrowFatal ≤ 1 := by
  induction h with
  | succeeds attempt _ => exact Nat.zero_le 1
  | ignored e left _ => exact Nat.zero_le 1
  | retried e left _ _ ih => exact ih
  | fatal e result last => exact Nat.le_refl 1

theorem MovesOn.concat_iff {before : List (Entry E)} {entry : Entry E} :
    MovesOn (before ++ [entry]) ↔
      match entry with
      | .ran result => result = .ok ()
      | .processError _ _ ignores result =>
          (before.any Entry.ignores || ignores) = true ∧ result = .ok ()
      | .throwFatal _ result => result = .ok () := by
  constructor
  · intro h
    generalize hentries : before ++ [entry] = entries at h
    cases h with
    | succeeded others =>
        obtain ⟨rfl, hentry⟩ := List.append_inj' hentries rfl
        cases hentry
        rfl
    | ignored others e attempt ignores hany =>
        obtain ⟨rfl, hentry⟩ := List.append_inj' hentries rfl
        cases hentry
        rw [List.any_append] at hany
        simpa [Entry.ignores] using hany
    | fatal others e =>
        obtain ⟨rfl, hentry⟩ := List.append_inj' hentries rfl
        cases hentry
        rfl
  · match entry with
    | .ran _ =>
        rintro rfl
        exact .succeeded before
    | .processError e attempt ignores _ =>
        rintro ⟨hany, rfl⟩
        refine .ignored before e attempt ignores ?_
        rw [List.any_append]
        simpa [Entry.ignores] using hany
    | .throwFatal e _ =>
        rintro rfl
        exact .fatal before e

/-- The entries say that the iteration goes on as soon as it does. -/
theorem Attempts.movesOn_iff {attempt : Nat}
    {entries before after : List (Entry E)} {entry : Entry E}
    {result : Except E Unit} (h : Attempts attempt false entries result)
    (hattempt : attempt ≤ 6) (hsplit : entries = before ++ entry :: after) :
    MovesOn (before ++ [entry]) ↔ after = [] ∧ result = .ok () := by
  have hplaced := h.placed hattempt hsplit
  rw [MovesOn.concat_iff]
  match entry with
  | .ran (.ok ()) => exact iff_of_true rfl hplaced
  | .ran (.error e) =>
      refine iff_of_false (fun hok => by cases hok) fun hend => ?_
      rcases hplaced with ⟨_, _, _, _, hafter⟩ | ⟨_, hafter⟩ <;>
        cases hend.1.symm.trans hafter
  | .processError e number ignores recovery =>
      simp only [Entry.Placed, Bool.false_or] at hplaced
      split at hplaced
      · next hignored =>
          rw [Bool.and_eq_true] at hignored
          refine iff_of_true ⟨hignored.2, ?_⟩ hplaced
          cases recovery with
          | error other => cases hignored.1
          | ok value => rfl
      · next hretried =>
          obtain ⟨execution, rest, hafter⟩ := hplaced
          refine iff_of_false (fun hok => hretried ?_) fun hend => ?_
          · rw [hok.2, Bool.and_eq_true]
            exact ⟨rfl, hok.1⟩
          · cases hend.1.symm.trans hafter
  | .throwFatal e outcome =>
      obtain ⟨hafter, houtcome, _⟩ := hplaced
      change outcome = .ok () ↔ _
      rw [houtcome]
      exact (and_iff_right hafter).symm

/-- What the iterator answers when it is asked for a function. -/
inductive Pull (E : Type) where
  /-- The body runs also for a value that is not a function. -/
  | yields (fn : Option (Calls E))
  | returns
  | throws (e : E)

structure Visit (E : Type) where
  fn : Option (Calls E)
  entries : List (Entry E)
  result : Except E Unit

inductive Ending (E : Type) where
  | pulling
  | returned
  | rejected (e : E)

structure Run (E : Type) where
  visits : List (Visit E)
  /-- How often the iterator has been asked. -/
  pulls : Nat
  ending : Ending E

/-- The body of the `for` statement, which starts with both variables anew. -/
def Pull.visit (fn : Option (Calls E)) : Visit E :=
  match fn with
  | none => { fn := none, entries := [], result := .ok () }
  | some calls =>
      let (result, state) := (calls.process 7).run.run
        { attempt := 0, shouldIgnoreError := false, log := [] }
      { fn := some calls, entries := state.log, result }

/-- `iterate`, up to a bound on the answers of the iterator. -/
def iterate (iterator : Nat → Pull E) : Nat → Nat → Run E
  | _, 0 => { visits := [], pulls := 1, ending := .pulling }
  | pulled, budget + 1 =>
      match iterator pulled with
      | .returns => { visits := [], pulls := 1, ending := .returned }
      | .throws e => { visits := [], pulls := 1, ending := .rejected e }
      | .yields fn =>
          let visit := Pull.visit fn
          match visit.result with
          | .error e => { visits := [visit], pulls := 1, ending := .rejected e }
          | .ok () =>
              let rest := iterate iterator (pulled + 1) budget
              { visits := visit :: rest.visits
                pulls := rest.pulls + 1
                ending := rest.ending }

theorem Pull.visit_attempts (calls : Calls E) :
    Attempts 0 false (Pull.visit (some calls)).entries
      (Pull.visit (some calls)).result := by
  obtain ⟨entries, hlog, h⟩ := @process_attempts E calls
    { attempt := 0, shouldIgnoreError := false, log := [] } 7 (Nat.le_refl 7)
    (Nat.zero_le 6)
  have hentries : (Pull.visit (some calls)).entries = entries := hlog
  rw [hentries]
  exact h

@[simp]
theorem Pull.visit_fn (fn : Option (Calls E)) : (Pull.visit fn).fn = fn := by
  cases fn <;> rfl

theorem iterate_yields {iterator : Nat → Pull E} {pulled : Nat}
    {fn : Option (Calls E)} (h : iterator pulled = .yields fn) (budget : Nat) :
    iterate iterator pulled (budget + 1) =
      match (Pull.visit fn).result with
      | .error e =>
          { visits := [Pull.visit fn], pulls := 1, ending := .rejected e }
      | .ok () =>
          let rest := iterate iterator (pulled + 1) budget
          { visits := Pull.visit fn :: rest.visits
            pulls := rest.pulls + 1
            ending := rest.ending } := by
  rw [iterate, h]

theorem iterate_pulls (iterator : Nat → Pull E) (pulled budget : Nat) :
    0 < (iterate iterator pulled budget).pulls := by
  induction budget generalizing pulled with
  | zero => exact Nat.zero_lt_one
  | succ budget ih =>
      cases hpull : iterator pulled with
      | returns => simp [iterate, hpull]
      | throws e => simp [iterate, hpull]
      | yields fn =>
          rw [iterate_yields hpull]
          cases (Pull.visit fn).result with
          | error e => exact Nat.zero_lt_one
          | ok value => exact Nat.succ_pos _

/-- A visit is the body's work for the answer that it stands for, and only one
that has not failed lets the iterator be asked again. -/
theorem iterate_visits (iterator : Nat → Pull E) {pulled budget place : Nat}
    {visit : Visit E}
    (h : (iterate iterator pulled budget).visits[place]? = some visit) :
    iterator (pulled + place) = .yields visit.fn ∧
      visit = Pull.visit visit.fn ∧
      match visit.result with
      | .ok () => place + 1 < (iterate iterator pulled budget).pulls
      | .error e => (iterate iterator pulled budget).visits.length = place + 1 ∧
          (iterate iterator pulled budget).pulls = place + 1 ∧
          (iterate iterator pulled budget).ending = .rejected e := by
  induction budget generalizing pulled place with
  | zero => cases h
  | succ budget ih =>
      cases hpull : iterator pulled with
      | returns =>
          simp only [iterate, hpull] at h
          cases h
      | throws e =>
          simp only [iterate, hpull] at h
          cases h
      | yields fn =>
          rw [iterate_yields hpull] at h ⊢
          cases hresult : (Pull.visit fn).result with
          | error e =>
              rw [hresult] at h
              cases place with
              | succ place => cases h
              | zero =>
                  cases h
                  rw [Pull.visit_fn, hresult]
                  exact ⟨hpull, rfl, rfl, rfl, rfl⟩
          | ok value =>
              rw [hresult] at h
              cases place with
              | zero =>
                  cases h
                  rw [Pull.visit_fn, hresult]
                  exact ⟨hpull, rfl,
                    Nat.succ_lt_succ (iterate_pulls iterator _ budget)⟩
              | succ place =>
                  obtain ⟨hyields, hvisit, hgoes⟩ := ih h
                  rw [Nat.add_right_comm] at hyields
                  refine ⟨hyields, hvisit, ?_⟩
                  cases hother : visit.result with
                  | ok value =>
                      rw [hother] at hgoes
                      exact Nat.succ_lt_succ hgoes
                  | error e =>
                      rw [hother] at hgoes
                      exact ⟨congrArg Nat.succ hgoes.1,
                        congrArg Nat.succ hgoes.2.1, hgoes.2.2⟩

/-- What holds of the calls that are made for one value of the iterator. -/
structure Visit.Retried (visit : Visit E) (goesOn : Prop) : Prop where
  starts : visit.fn.isSome → ∃ result after, visit.entries = .ran result :: after
  executions : visit.entries.countP Entry.isRan ≤ 7
  recoveries : ∃ count ≤ 6,
    visit.entries.filterMap Entry.attempt = List.range count
  movesOn_iff : ∀ before entry after,
    visit.entries = before ++ entry :: after →
      (MovesOn (before ++ [entry]) ↔ after = [] ∧ goesOn)
  fatal_once : visit.entries.countP Entry.isThrowFatal ≤ 1
  fatal_seventh : ∀ before e result after,
    visit.entries = before ++ .throwFatal e result :: after →
      after = [] ∧ ∃ earlier, before = earlier ++ [.ran (.error e)] ∧
        earlier.countP Entry.fails = 6
  seventh_fatal : ∀ before e after,
    visit.entries = before ++ .ran (.error e) :: after →
      before.countP Entry.fails = 6 →
        ∃ result, after = [.throwFatal e result]

theorem Attempts.retried_calls {calls : Calls E} {entries : List (Entry E)}
    {result : Except E Unit} (h : Attempts 0 false entries result) :
    ({ fn := some calls, entries, result } : Visit E).Retried
      (result = .ok ()) where
  starts _ := h.head
  executions := h.executions (Nat.zero_le 6)
  recoveries := by
    obtain ⟨count, hrange, hbound⟩ := h.recoveries (Nat.zero_le 6)
    rw [← List.range_eq_range'] at hrange
    exact ⟨count, by omega, hrange⟩
  movesOn_iff _ _ _ hsplit := h.movesOn_iff (Nat.zero_le 6) hsplit
  fatal_once := h.fatal_le_one
  fatal_seventh _ _ _ _ hsplit := by
    obtain ⟨hafter, _, hearlier⟩ := h.placed (Nat.zero_le 6) hsplit
    exact ⟨hafter, hearlier⟩
  seventh_fatal _ _ _ hsplit hsix := by
    rcases h.placed (Nat.zero_le 6) hsplit with ⟨hfew, _⟩ | ⟨_, hafter⟩
    · omega
    · exact ⟨result, hafter⟩

theorem Visit.retried_nothing (goesOn : Prop) :
    ({ fn := none, entries := [], result := .ok () } : Visit E).Retried
      goesOn where
  starts hfn := by cases hfn
  executions := Nat.zero_le 7
  recoveries := ⟨0, Nat.zero_le 6, rfl⟩
  movesOn_iff before _ _ hsplit := by
    cases (List.nil_eq_append_iff.mp hsplit).2
  fatal_once := Nat.zero_le 1
  fatal_seventh before _ _ _ hsplit := by
    cases (List.nil_eq_append_iff.mp hsplit).2
  seventh_fatal before _ _ hsplit := by
    cases (List.nil_eq_append_iff.mp hsplit).2

theorem Pull.visit_retried (fn : Option (Calls E)) :
    (Pull.visit fn).Retried ((Pull.visit fn).result = .ok ()) := by
  cases fn with
  | some calls => exact (Pull.visit_attempts calls).retried_calls
  | none => exact Visit.retried_nothing _

theorem Pull.visit_fatal {fn : Option (Calls E)} {before after : List (Entry E)}
    {e thrown : E}
    (h : (Pull.visit fn).entries =
      before ++ .throwFatal e (.error thrown) :: after) :
    after = [] ∧ (Pull.visit fn).result = .error thrown := by
  cases fn with
  | none => cases (List.nil_eq_append_iff.mp h).2
  | some calls =>
      obtain ⟨hafter, hresult, _⟩ :=
        (Pull.visit_attempts calls).placed (Nat.zero_le 6) h
      exact ⟨hafter, hresult.symm⟩

/-- In every run, a function is executed at most seven times, with six calls of
`processError` between; an error that `throwFatal` throws ends the run. -/
theorem iterate_retries (iterator : Nat → Pull E) (budget place : Nat)
    (visit : Visit E)
    (h : (iterate iterator 0 budget).visits[place]? = some visit) :
    iterator place = .yields visit.fn ∧
      visit.Retried (place + 1 < (iterate iterator 0 budget).pulls) ∧
      ∀ before e thrown after,
        visit.entries = before ++ .throwFatal e (.error thrown) :: after →
          after = [] ∧ (iterate iterator 0 budget).ending = .rejected thrown ∧
            (iterate iterator 0 budget).visits.length = place + 1 ∧
            (iterate iterator 0 budget).pulls = place + 1 := by
  obtain ⟨hyields, hvisit, hgoes⟩ := iterate_visits iterator h
  rw [Nat.zero_add] at hyields
  have hnext : visit.result = .ok () ↔
      place + 1 < (iterate iterator 0 budget).pulls := by
    cases hresult : visit.result with
    | ok value =>
        rw [hresult] at hgoes
        exact iff_of_true rfl hgoes
    | error e =>
        rw [hresult] at hgoes
        refine iff_of_false (fun hok => by cases hok) ?_
        rw [hgoes.2.1]
        exact Nat.lt_irrefl _
  have hretried := Pull.visit_retried visit.fn
  rw [← hvisit, propext hnext] at hretried
  refine ⟨hyields, hretried, ?_⟩
  intro before e thrown after hsplit
  rw [hvisit] at hsplit
  obtain ⟨hafter, hresult⟩ := Pull.visit_fatal hsplit
  rw [← hvisit] at hresult
  rw [hresult] at hgoes
  exact ⟨hafter, hgoes.2.2, hgoes.1, hgoes.2.1⟩

/-- Every call fails, `throwFatal` too. -/
def Calls.failing : Calls String where
  fn attempt := .error s!"failure {attempt}"
  processError _ := (false, .ok ())
  throwFatal := .error "Worker stopped"

theorem iterate_retries_failing :
    ∃ visit,
      (iterate (fun _ => .yields (some Calls.failing)) 0 2).visits[0]? =
        some visit ∧
      visit.entries.countP Entry.isRan = 7 ∧
      visit.Retried (0 + 1 <
        (iterate (fun _ => .yields (some Calls.failing)) 0 2).pulls) :=
  ⟨Pull.visit (some Calls.failing), rfl, by decide,
    (iterate_retries _ 2 0 _ rfl).2.1⟩

namespace Entry

/-- A call's end, as the loop sees it. -/
def event {Fn : Type} : Entry String → LoopEvent Fn
  | .ran (.ok ()) => .succeeds
  | .ran (.error _) => .fails
  | .processError _ _ ignores (.ok ()) => .recovers ignores
  | .processError _ _ ignores (.error _) => .recoveryFails ignores
  | .throwFatal _ (.ok ()) => .fatalReturns
  | .throwFatal _ (.error e) => .fatalThrows e

end Entry

/-- Where the loop is behind the body. -/
def Loop.behind {Fn : Type} : Except String Unit → Loop Fn
  | .ok () => .next
  | .error e => .rejected e

theorem Loop.step_failing {Fn : Type} {fn : Fn} {attempt : Nat}
    {ignoring : Bool} (e : String) (left : attempt ≤ 5) :
    (Loop.running fn attempt ignoring).step (Entry.ran (.error e)).event =
      some (.recovering fn attempt ignoring) :=
  congrArg some (if_pos left)

theorem Loop.step_recovering {Fn : Type} {fn : Fn} {attempt : Nat}
    {ignoring ignores : Bool} {recovery : Except String Unit} (e : String)
    (retry : (recovery.isOk && (ignoring || ignores)) = false) :
    (Loop.recovering fn attempt ignoring).step
        (Entry.processError e attempt ignores recovery).event =
      some (.running fn (attempt + 1) (ignoring || ignores)) := by
  cases recovery with
  | error other => rfl
  | ok value =>
      have hquiet : (ignoring || ignores) = false := retry
      simp only [Entry.event, Loop.step, hquiet]
      rfl

/-- The calls for one function take the loop from it to what comes of it. -/
theorem Attempts.steps {Fn : Type} {attempt : Nat} {ignoring : Bool}
    {entries : List (Entry String)} {result : Except String Unit}
    (h : Attempts attempt ignoring entries result) (fn : Fn) :
    entries.foldlM (fun loop entry => Loop.step loop entry.event)
        (.running fn attempt ignoring) =
      some (Loop.behind result) := by
  induction h with
  | succeeds attempt ignoring => rfl
  | @ignored attempt ignoring ignores e left ignore =>
      have hrecovers : (Loop.recovering fn attempt ignoring).step
          (Entry.processError e attempt ignores (.ok ())).event = some .next :=
        if_pos ignore
      rw [List.foldlM_cons, Loop.step_failing e left, Option.bind_eq_bind,
        Option.bind_some, List.foldlM_cons, hrecovers]
      rfl
  | retried e left retry rest ih =>
      rw [List.foldlM_cons, Loop.step_failing e left, Option.bind_eq_bind,
        Option.bind_some, List.foldlM_cons, Loop.step_recovering e retry,
        Option.bind_eq_bind, Option.bind_some]
      exact ih
  | fatal e result last =>
      cases result with
      | ok value => simp [Entry.event, Loop.step, last, Loop.behind]
      | error thrown => simp [Entry.event, Loop.step, last, Loop.behind]

end RuntimeBridge.Lifecycle
