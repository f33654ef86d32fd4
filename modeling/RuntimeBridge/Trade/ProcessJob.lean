import RuntimeBridge.Trade.Pipeline

/-! The handler of `inputQueue.process`: the attempts of one job, and the
`rescueJob` that catches whatever goes wrong in one of them. -/

namespace RuntimeBridge.Trade

open Library

def TX_RETRY_TIMES : Nat := 3

/-- What `preprocess` makes of a job. -/
structure CallMeta extends Job where
  shouldRetry : Bool
  deriving DecidableEq, Repr

/-- The promises of the batch that an attempt is enqueued in. -/
structure Attempt where
  startedPromise : Promise Unit
  finishedPromise : Promise BatchResult
  deriving DecidableEq, Repr

def Attempt.fresh : Attempt where
  startedPromise := .pending
  finishedPromise := .pending

inductive JobProc where
  | reportsInit
  | preprocesses
  | reportsPreprocessed
  /-- `enqueue` waits for `startedPromise`. -/
  | awaitsStarted
  | reportsWorking
  | awaitsFinished
  | reportsFinished
  | done
  | failed (error : String)
  deriving DecidableEq, Repr

structure JobState where
  proc : JobProc
  remainingRetries : Nat
  attempts : Nat → Attempt
  /-- How many times the calls have been enqueued. -/
  enqueued : Nat

/-- What the function returned by `enqueue` makes of the result of the batch. -/
def waitUntilFinished (callMeta : CallMeta) (result : BatchResult) :
    Except String Unit :=
  match result.indexes.idxOf? (some callMeta.id) with
  | none => .ok ()
  | some reasonId =>
      match result.reasons[reasonId]? with
      | some failed => .error ("Tx failed: " ++ failed.reason)
      | none => .error
          "Cannot read properties of undefined (reading 'reason')"

namespace JobState

def initial : JobState where
  proc := .reportsInit
  remainingRetries := 0
  attempts _ := .fresh
  enqueued := 0

/-- `processJob` up to its first `await`. -/
def processJob (state : JobState) : JobState :=
  { state with
    proc := .awaitsStarted
    attempts := Function.update state.attempts state.enqueued .fresh
    enqueued := state.enqueued + 1 }

/-- It waits for none of its own reports. -/
def rescueJob (state : JobState) (error : String) : JobState :=
  if state.remainingRetries = 0 then
    { state with proc := .failed error }
  else
    JobState.processJob { state with
      remainingRetries := state.remainingRetries - 1 }

def current (state : JobState) : Attempt :=
  state.attempts (state.enqueued - 1)

def reportResolves (callMeta : CallMeta) (state : JobState) :
    Option JobState :=
  match state.proc with
  | .reportsInit => some { state with proc := .preprocesses }
  | .reportsPreprocessed =>
      some (JobState.processJob { state with
        remainingRetries := if callMeta.shouldRetry then TX_RETRY_TIMES else 0 })
  | .reportsWorking => some { state with proc := .awaitsFinished }
  | .reportsFinished => some { state with proc := .done }
  | _ => none

/-- Before the first attempt nothing catches the error. -/
def reportRejects (state : JobState) (error : String) : Option JobState :=
  match state.proc with
  | .reportsInit | .reportsPreprocessed =>
      some { state with proc := .failed error }
  | .reportsWorking | .reportsFinished => some (state.rescueJob error)
  | _ => none

def preprocessed (state : JobState) : Except String Unit → Option JobState
  | .ok () =>
      match state.proc with
      | .preprocesses => some { state with proc := .reportsPreprocessed }
      | _ => none
  | .error error =>
      match state.proc with
      | .preprocesses => some { state with proc := .failed error }
      | _ => none

/-- The promise that the job waits for is settled, and the job goes on. -/
def continues (callMeta : CallMeta) (state : JobState) : Option JobState :=
  match state.proc with
  | .awaitsStarted =>
      match state.current.startedPromise with
      | .pending => none
      | .resolved _ => some { state with proc := .reportsWorking }
      | .rejected error => some (state.rescueJob error)
  | .awaitsFinished =>
      match state.current.finishedPromise with
      | .pending => none
      | .resolved result =>
          match waitUntilFinished callMeta result with
          | .ok () => some { state with proc := .reportsFinished }
          | .error error => some (state.rescueJob error)
      | .rejected error => some (state.rescueJob error)
  | _ => none

def settle (state : JobState) (number : Nat) (settled : Attempt → Attempt) :
    Option JobState :=
  if number < state.enqueued then
    some { state with
      attempts := Function.update state.attempts number
        (settled (state.attempts number)) }
  else
    none

end JobState

inductive JobEvent where
  | reportResolves
  | reportRejects (error : String)
  | preprocessed (outcome : Except String Unit)
  | continues
  | startedResolves (number : Nat)
  | startedRejects (number : Nat) (error : String)
  | finishedResolves (number : Nat) (result : BatchResult)
  | finishedRejects (number : Nat) (error : String)

def JobState.step (callMeta : CallMeta) (state : JobState) :
    JobEvent → Option JobState
  | .reportResolves => state.reportResolves callMeta
  | .reportRejects error => state.reportRejects error
  | .preprocessed outcome => state.preprocessed outcome
  | .continues => state.continues callMeta
  | .startedResolves number => state.settle number fun attempt =>
      { attempt with startedPromise := attempt.startedPromise.resolve () }
  | .startedRejects number error => state.settle number fun attempt =>
      { attempt with startedPromise := attempt.startedPromise.reject error }
  | .finishedResolves number result => state.settle number fun attempt =>
      { attempt with finishedPromise := attempt.finishedPromise.resolve result }
  | .finishedRejects number error => state.settle number fun attempt =>
      { attempt with finishedPromise := attempt.finishedPromise.reject error }

def jobMachine (callMeta : CallMeta) : Machine JobState JobEvent where
  start := .initial
  step := JobState.step callMeta

/-- The batch has been reported failed, or one of the job's calls in it. -/
def Attempt.reportedFailed (callMeta : CallMeta) (attempt : Attempt) : Bool :=
  (match attempt.startedPromise with
    | .rejected _ => true
    | _ => false) ||
  (match attempt.finishedPromise with
    | .pending => false
    | .resolved result => result.indexes.contains (some callMeta.id)
    | .rejected _ => true)

/-- Every attempt before the last one was given up. -/
def JobState.RetriesFailed (callMeta : CallMeta) (state : JobState) : Prop :=
  ∀ number, number + 1 < state.enqueued →
    (state.attempts number).reportedFailed callMeta = true

/-- A report of progress is only rejected behind an attempt that has been
reported failed, or when no retry is left. -/
def reportsLast (callMeta : CallMeta) (state : JobState) : JobEvent → Prop
  | .reportRejects _ =>
      state.proc = .reportsWorking ∨ state.proc = .reportsFinished →
        state.remainingRetries = 0 ∨
          state.current.reportedFailed callMeta = true
  | _ => True

instance (callMeta : CallMeta) (state : JobState) (event : JobEvent) :
    Decidable (reportsLast callMeta state event) := by
  unfold reportsLast
  split <;> infer_instance

variable {callMeta : CallMeta} {state before after : JobState}
  {event : JobEvent} {number : Nat} {settled : Attempt → Attempt}

def JobProc.Begun : JobProc → Prop
  | .awaitsStarted | .reportsWorking | .awaitsFinished | .reportsFinished =>
      True
  | _ => False

def JobProc.Prepares : JobProc → Prop
  | .reportsInit | .preprocesses | .reportsPreprocessed => True
  | _ => False

structure JobOk (state : JobState) : Prop where
  budget : state.enqueued + state.remainingRetries ≤ 1 + TX_RETRY_TIMES
  begun : state.proc.Begun → 0 < state.enqueued
  prepares : state.proc.Prepares → state.enqueued = 0

theorem JobOk.setProc (h : JobOk state) {proc : JobProc}
    (begun : proc.Begun → state.proc.Begun)
    (prepares : proc.Prepares → state.proc.Prepares) :
    JobOk { state with proc } where
  budget := h.budget
  begun := fun hproc => h.begun (begun hproc)
  prepares := fun hproc => h.prepares (prepares hproc)

theorem JobOk.processJob
    (budget : state.enqueued + 1 + state.remainingRetries ≤
      1 + TX_RETRY_TIMES) : JobOk state.processJob where
  budget := budget
  begun := fun _ => Nat.succ_pos _
  prepares := fun hproc => hproc.elim

theorem JobOk.rescueJob (h : JobOk state) (error : String) :
    JobOk (state.rescueJob error) := by
  unfold JobState.rescueJob
  split
  · exact h.setProc (fun hproc => hproc.elim) fun hproc => hproc.elim
  · next hleft =>
      have hbudget := h.budget
      refine JobOk.processJob ?_
      simp only
      omega

/-- An attempt is only rescued when it may be enqueued again. -/
theorem retriesFailed_rescueJob_iff (h : JobOk state)
    (hfailed : state.RetriesFailed callMeta) (hbegun : state.proc.Begun)
    (error : String) :
    (state.rescueJob error).RetriesFailed callMeta ↔
      state.remainingRetries = 0 ∨
        state.current.reportedFailed callMeta = true := by
  unfold JobState.rescueJob
  split
  · next hnone => exact iff_of_true hfailed (Or.inl hnone)
  · next hleft =>
      have hpos := h.begun hbegun
      rw [or_iff_right hleft]
      simp only [JobState.RetriesFailed, JobState.processJob]
      constructor
      · intro hall
        have hcurrent := hall (state.enqueued - 1) (by omega)
        rwa [Function.update_of_ne (by omega)] at hcurrent
      · intro hcurrent number hlt
        rw [Function.update_of_ne (by omega)]
        rcases Nat.lt_or_eq_of_le (Nat.le_of_lt_succ hlt) with hold | hlast
        · exact hfailed number hold
        · have heq : number = state.enqueued - 1 := by omega
          rw [heq]
          exact hcurrent

theorem reportedFailed_of_error {result : BatchResult} {error : String}
    {attempt : Attempt} (hresult : attempt.finishedPromise = .resolved result)
    (h : waitUntilFinished callMeta result = .error error) :
    attempt.reportedFailed callMeta = true := by
  have hmember : some callMeta.id ∈ result.indexes := by
    unfold waitUntilFinished at h
    split at h
    · cases h
    · next hfound =>
        by_contra habsent
        rw [List.idxOf?_eq_none_iff.mpr habsent] at hfound
        cases hfound
  simp only [Attempt.reportedFailed, hresult, Bool.or_eq_true,
    List.contains_iff_mem]
  exact Or.inr hmember

theorem retriesFailed_settle (hfailed : before.RetriesFailed callMeta)
    (hkeeps : ∀ attempt : Attempt, attempt.reportedFailed callMeta = true →
      (settled attempt).reportedFailed callMeta = true)
    (taken : before.settle number settled = some after) :
    after.RetriesFailed callMeta := by
  simp only [JobState.settle] at taken
  split at taken
  · cases Option.some.inj taken
    intro other hlt
    by_cases heq : other = number
    · subst heq
      simpa using hkeeps _ (hfailed other hlt)
    · simpa [heq] using hfailed other hlt
  · cases taken

theorem jobOk_settle (h : JobOk before)
    (taken : before.settle number settled = some after) : JobOk after := by
  simp only [JobState.settle] at taken
  split at taken
  · cases Option.some.inj taken
    exact { budget := h.budget, begun := h.begun, prepares := h.prepares }
  · cases taken

theorem reportedFailed_started {attempt : Attempt} (error : String)
    (h : attempt.startedPromise = .rejected error) :
    attempt.reportedFailed callMeta = true := by
  simp [Attempt.reportedFailed, h]

theorem reportedFailed_finished {attempt : Attempt} (error : String)
    (h : attempt.finishedPromise = .rejected error) :
    attempt.reportedFailed callMeta = true := by
  simp [Attempt.reportedFailed, h]

theorem reportResolves_jobOk (h : JobOk before)
    (taken : before.reportResolves callMeta = some after) : JobOk after := by
  simp only [JobState.reportResolves] at taken
  split at taken
  · next hproc =>
      cases Option.some.inj taken
      exact h.setProc (fun hbegun => hbegun.elim)
        fun _ => by rw [hproc]; exact True.intro
  · next hproc =>
      cases Option.some.inj taken
      have hnone := h.prepares (by rw [hproc]; exact True.intro)
      refine JobOk.processJob ?_
      simp only [hnone]
      split <;> omega
  · next hproc =>
      cases Option.some.inj taken
      exact h.setProc (fun _ => by rw [hproc]; exact True.intro)
        fun hprepares => hprepares.elim
  · cases Option.some.inj taken
    exact h.setProc (fun hbegun => hbegun.elim) fun hprepares => hprepares.elim
  · cases taken

theorem reportResolves_retriesFailed (h : JobOk before)
    (hfailed : before.RetriesFailed callMeta)
    (taken : before.reportResolves callMeta = some after) :
    after.RetriesFailed callMeta := by
  simp only [JobState.reportResolves] at taken
  split at taken
  · cases Option.some.inj taken
    exact hfailed
  · next hproc =>
      cases Option.some.inj taken
      have hnone := h.prepares (by rw [hproc]; exact True.intro)
      intro number hlt
      simp only [JobState.processJob, hnone] at hlt
      omega
  · cases Option.some.inj taken
    exact hfailed
  · cases Option.some.inj taken
    exact hfailed
  · cases taken

theorem preprocessed_keeps {outcome : Except String Unit} (h : JobOk before)
    (taken : before.preprocessed outcome = some after) :
    JobOk after ∧ after.enqueued = before.enqueued ∧
      after.attempts = before.attempts := by
  cases outcome with
  | ok _ =>
      simp only [JobState.preprocessed] at taken
      split at taken
      · next hproc =>
          cases Option.some.inj taken
          exact ⟨h.setProc (fun hbegun => hbegun.elim)
            fun _ => by rw [hproc]; exact True.intro, rfl, rfl⟩
      · cases taken
  | error error =>
      simp only [JobState.preprocessed] at taken
      split at taken
      · cases Option.some.inj taken
        exact ⟨h.setProc (fun hbegun => hbegun.elim)
          fun hprepares => hprepares.elim, rfl, rfl⟩
      · cases taken

/-- What the job waits for fails only with the batch. -/
theorem continues_cases (taken : before.continues callMeta = some after) :
    before.proc.Begun ∧
      ((after = { before with proc := .reportsWorking } ∨
          after = { before with proc := .reportsFinished }) ∨
        ∃ error, after = before.rescueJob error ∧
          before.current.reportedFailed callMeta = true) := by
  simp only [JobState.continues] at taken
  split at taken
  · next hproc =>
      refine ⟨by rw [hproc]; exact True.intro, ?_⟩
      split at taken
      · cases taken
      · exact Or.inl (Or.inl (Option.some.inj taken).symm)
      · next error hstarted =>
          exact Or.inr ⟨error, (Option.some.inj taken).symm,
            reportedFailed_started error hstarted⟩
  · next hproc =>
      refine ⟨by rw [hproc]; exact True.intro, ?_⟩
      split at taken
      · cases taken
      · next result hfinished =>
          split at taken
          · exact Or.inl (Or.inr (Option.some.inj taken).symm)
          · next error hwaited =>
              exact Or.inr ⟨error, (Option.some.inj taken).symm,
                reportedFailed_of_error hfinished hwaited⟩
      · next error hfinished =>
          exact Or.inr ⟨error, (Option.some.inj taken).symm,
            reportedFailed_finished error hfinished⟩
  · cases taken

theorem reportRejects_jobOk {error : String} (h : JobOk before)
    (taken : before.reportRejects error = some after) : JobOk after := by
  simp only [JobState.reportRejects] at taken
  split at taken
  · cases Option.some.inj taken
    exact h.setProc (fun hbegun => hbegun.elim) fun hprepares => hprepares.elim
  · cases Option.some.inj taken
    exact h.setProc (fun hbegun => hbegun.elim) fun hprepares => hprepares.elim
  · cases Option.some.inj taken
    exact h.rescueJob error
  · cases Option.some.inj taken
    exact h.rescueJob error
  · cases taken

/-- `rescueJob` does not look at what has failed. -/
theorem reportRejects_retriesFailed_iff {error : String} (h : JobOk before)
    (hfailed : before.RetriesFailed callMeta)
    (taken : before.reportRejects error = some after) :
    after.RetriesFailed callMeta ↔
      reportsLast callMeta before (.reportRejects error) := by
  simp only [JobState.reportRejects] at taken
  simp only [reportsLast]
  split at taken
  · next hproc =>
      cases Option.some.inj taken
      exact iff_of_true hfailed (by simp [hproc])
  · next hproc =>
      cases Option.some.inj taken
      exact iff_of_true hfailed (by simp [hproc])
  · next hproc =>
      cases Option.some.inj taken
      rw [retriesFailed_rescueJob_iff h hfailed
        (by rw [hproc]; exact True.intro)]
      simp [hproc]
  · next hproc =>
      cases Option.some.inj taken
      rw [retriesFailed_rescueJob_iff h hfailed
        (by rw [hproc]; exact True.intro)]
      simp [hproc]
  · cases taken

theorem jobOk_step (h : JobOk before)
    (taken : before.step callMeta event = some after) : JobOk after := by
  cases event with
  | reportResolves => exact reportResolves_jobOk h taken
  | reportRejects error => exact reportRejects_jobOk h taken
  | preprocessed outcome => exact (preprocessed_keeps h taken).1
  | continues =>
      obtain ⟨hbegun, (rfl | rfl) | ⟨error, rfl, -⟩⟩ := continues_cases taken
      · exact h.setProc (fun _ => hbegun) fun hprepares => hprepares.elim
      · exact h.setProc (fun _ => hbegun) fun hprepares => hprepares.elim
      · exact h.rescueJob error
  | startedResolves number =>
      simp only [JobState.step] at taken
      exact jobOk_settle h taken
  | startedRejects number error =>
      simp only [JobState.step] at taken
      exact jobOk_settle h taken
  | finishedResolves number result =>
      simp only [JobState.step] at taken
      exact jobOk_settle h taken
  | finishedRejects number error =>
      simp only [JobState.step] at taken
      exact jobOk_settle h taken

/-- A settled promise keeps its outcome, so a failure stays reported. -/
theorem reportedFailed_settle (attempt : Attempt)
    (h : attempt.reportedFailed callMeta = true) :
    (∀ value, Attempt.reportedFailed callMeta { attempt with
        startedPromise := attempt.startedPromise.resolve value } = true) ∧
      (∀ error, Attempt.reportedFailed callMeta { attempt with
        startedPromise := attempt.startedPromise.reject error } = true) ∧
      (∀ result, Attempt.reportedFailed callMeta { attempt with
        finishedPromise := attempt.finishedPromise.resolve result } = true) ∧
      ∀ error, Attempt.reportedFailed callMeta { attempt with
        finishedPromise := attempt.finishedPromise.reject error } = true := by
  obtain ⟨started, finished⟩ := attempt
  refine ⟨fun value => ?_, fun error => ?_, fun result => ?_, fun error => ?_⟩
  · cases started <;> exact h
  · cases started with
    | pending => rfl
    | resolved _ => exact h
    | rejected _ => rfl
  · cases finished with
    | pending =>
        rw [Attempt.reportedFailed, Bool.or_false] at h
        rw [Attempt.reportedFailed, h, Bool.true_or]
    | resolved _ => exact h
    | rejected _ => exact h
  · cases finished with
    | pending => exact Bool.or_true _
    | resolved _ => exact h
    | rejected _ => exact h

theorem retriesFailed_step_iff (h : JobOk before)
    (hfailed : before.RetriesFailed callMeta)
    (taken : before.step callMeta event = some after) :
    after.RetriesFailed callMeta ↔ reportsLast callMeta before event := by
  cases event with
  | reportResolves =>
      exact iff_of_true (reportResolves_retriesFailed h hfailed taken) trivial
  | reportRejects error =>
      exact reportRejects_retriesFailed_iff h hfailed taken
  | preprocessed outcome =>
      obtain ⟨-, henqueued, hattempts⟩ := preprocessed_keeps h taken
      refine iff_of_true ?_ trivial
      rwa [JobState.RetriesFailed, henqueued, hattempts]
  | continues =>
      refine iff_of_true ?_ trivial
      obtain ⟨hbegun, (rfl | rfl) | ⟨error, rfl, hreported⟩⟩ :=
        continues_cases taken
      · exact hfailed
      · exact hfailed
      · exact (retriesFailed_rescueJob_iff h hfailed hbegun error).mpr
          (Or.inr hreported)
  | startedResolves number =>
      exact iff_of_true (retriesFailed_settle hfailed (fun attempt hreported =>
        (reportedFailed_settle attempt hreported).1 _) taken) trivial
  | startedRejects number error =>
      exact iff_of_true (retriesFailed_settle hfailed (fun attempt hreported =>
        (reportedFailed_settle attempt hreported).2.1 _) taken) trivial
  | finishedResolves number result =>
      exact iff_of_true (retriesFailed_settle hfailed (fun attempt hreported =>
        (reportedFailed_settle attempt hreported).2.2.1 _) taken) trivial
  | finishedRejects number error =>
      exact iff_of_true (retriesFailed_settle hfailed (fun attempt hreported =>
        (reportedFailed_settle attempt hreported).2.2.2 _) taken) trivial

theorem jobOk_initial : JobOk .initial where
  budget := by decide
  begun := fun hbegun => hbegun.elim
  prepares := fun _ => rfl

/-- An attempt is followed by another only after it was reported failed, in
every run where no report of progress is rejected before that. -/
theorem retries_failed_iff (callMeta : CallMeta) :
    (∀ state, (jobMachine callMeta).Reaches (reportsLast callMeta) state →
      state.RetriesFailed callMeta) ∧
    (∀ before event after,
      (jobMachine callMeta).Reaches (reportsLast callMeta) before →
      before.step callMeta event = some after →
      (after.RetriesFailed callMeta ↔ reportsLast callMeta before event)) ∧
    ∀ state, (jobMachine callMeta).Reachable state →
      state.enqueued ≤ 1 + TX_RETRY_TIMES := by
  have hreaches : ∀ state,
      (jobMachine callMeta).Reaches (reportsLast callMeta) state →
        JobOk state ∧ state.RetriesFailed callMeta := by
    intro state hreached
    refine @Machine.Preserves.reaches _ _ (jobMachine callMeta)
      (reportsLast callMeta)
      (fun state => JobOk state ∧ state.RetriesFailed callMeta) state ?_ ?_
      hreached
    · intro before event after hguard ⟨hok, hfailed⟩ taken
      exact ⟨jobOk_step hok taken,
        (retriesFailed_step_iff hok hfailed taken).mpr hguard⟩
    · exact ⟨jobOk_initial, fun _ hlt => absurd hlt (Nat.not_lt_zero _)⟩
  refine ⟨fun state hreached => (hreaches state hreached).2, ?_, ?_⟩
  · intro before event after hreached taken
    obtain ⟨hok, hfailed⟩ := hreaches before hreached
    exact retriesFailed_step_iff hok hfailed taken
  · intro state hreached
    have hok : JobOk state := Machine.Preserves.reaches
      (fun _ _ _ _ hbefore taken => jobOk_step hbefore taken) jobOk_initial
      hreached
    have := hok.budget
    omega

def transfer : CallMeta where
  id := 4
  pid := 1
  calls := [[.property "phalaStakePoolv2", .property "addWorker"]]
  shouldRetry := true

/-- Up to the moment when the first batch has been started. -/
def firstStarted : List JobEvent :=
  [.reportResolves, .preprocessed (.ok ()), .reportResolves,
    .startedResolves 0, .continues]

/-- The batch fails while its start is being reported, and the report does. -/
theorem retries_failed_reported :
    let state := (jobMachine transfer).endedIf
      (fun state event => decide (reportsLast transfer state event))
      (firstStarted ++ [.finishedRejects 0 "dropped", .reportRejects "redis"])
    state.enqueued = 2 ∧ state.RetriesFailed transfer :=
  ⟨by decide, (retries_failed_iff transfer).1 _
    (Machine.reaches_endedIf (fun _ _ => of_decide_eq_true) (by decide))⟩

/-- The calls are enqueued again while their first batch is in flight. -/
theorem retries_inFlight_reportRejects :
    let state := (jobMachine transfer).ended
      (firstStarted ++ [.reportRejects "redis"])
    (jobMachine transfer).Reachable state ∧ state.enqueued = 2 ∧
      state.attempts 0 =
        { startedPromise := .resolved (), finishedPromise := .pending } ∧
      ¬ state.RetriesFailed transfer := by
  refine ⟨Machine.reachable_ended (by decide), by decide, by decide, ?_⟩
  intro h
  exact absurd (h 0 (by decide)) (by decide)

end RuntimeBridge.Trade
