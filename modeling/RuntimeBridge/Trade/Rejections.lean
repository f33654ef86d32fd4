import RuntimeBridge.Trade.ProcessJob

/-! The handlers that the jobs of one batch attach to its promises, turn by turn.
A turn is a row of callbacks, behind which the microtasks run; a promise that is
rejected then and has no handler ends the process. -/

namespace RuntimeBridge.Trade

open Library

/-- Where a job of the batch stands. -/
inductive Waiting where
  /-- `await batch.startedPromise` -/
  | started
  /-- `await job.reportProgress(RP_WORKING)` -/
  | reporting
  /-- The report is resolved, and the job goes on in this turn. -/
  | reported
  /-- `await batch.finishedPromise` -/
  | finished
  | gone
  deriving DecidableEq, Repr

structure BatchWatch where
  promises : Attempt
  committed : Bool
  jobs : List Waiting
  /-- Some job has attached a handler to `startedPromise`. -/
  startedHandled : Bool
  finishedHandled : Bool
  deriving DecidableEq

inductive Callback where
  /-- `addCalls`, and the `await` of `enqueue` right behind it. -/
  | addJob
  | commit
  | working
  | finished (result : BatchResult)
  | failed (error : String)
  | reportResolves (number : Nat)
  | reportRejects (number : Nat)
  deriving DecidableEq, Repr

namespace BatchWatch

/-- `#createBatch`, for the job that is added at once. -/
def created : BatchWatch where
  promises := .fresh
  committed := false
  jobs := [.started]
  startedHandled := true
  finishedHandled := false

/-- The trader only knows committed batches. -/
def told (watch : BatchWatch) (settled : Attempt → Attempt) :
    Option BatchWatch :=
  if watch.committed then
    some { watch with promises := settled watch.promises }
  else none

def reply (watch : BatchWatch) (number : Nat) (next : Waiting) :
    Option BatchWatch :=
  if watch.jobs[number]? = some .reporting then
    some { watch with jobs := watch.jobs.set number next }
  else none

def handle (watch : BatchWatch) : Callback → Option BatchWatch
  | .addJob =>
      if watch.committed then none
      else some { watch with
        jobs := watch.jobs ++ [.started]
        startedHandled := true }
  | .commit =>
      if watch.committed then none else some { watch with committed := true }
  | .working => watch.told fun promises =>
      { promises with
        startedPromise := promises.startedPromise.resolve () }
  | .finished result => watch.told fun promises =>
      { promises with
        finishedPromise := promises.finishedPromise.resolve result }
  | .failed error => watch.told fun promises =>
      { startedPromise := promises.startedPromise.reject error
        finishedPromise := promises.finishedPromise.reject error }
  | .reportResolves number => watch.reply number .reported
  -- `rescueJob` leaves this batch.
  | .reportRejects number => watch.reply number .gone

/-- What the microtasks of a turn make of a job. -/
def goOn (promises : Attempt) : Waiting → Waiting
  | .started =>
      match promises.startedPromise with
      | .pending => .started
      | .resolved _ => .reporting
      | .rejected _ => .gone
  | .reporting => .reporting
  | .reported | .finished =>
      if promises.finishedPromise.isSettled then .gone else .finished
  | .gone => .gone

/-- The microtasks of a turn.  A job whose report is resolved attaches its
handlers to `finishedPromise`, settled or not. -/
def drain (watch : BatchWatch) : BatchWatch :=
  { watch with
    jobs := watch.jobs.map (goOn watch.promises)
    finishedHandled := watch.finishedHandled || watch.jobs.contains .reported }

def turn (watch : BatchWatch) (callbacks : List Callback) : Option BatchWatch :=
  (callbacks.foldlM handle watch).map drain

/-- No rejection is left without a handler at the end of a turn. -/
structure Observed (watch : BatchWatch) : Prop where
  started : ∀ error, watch.promises.startedPromise = .rejected error →
    watch.startedHandled = true
  finished : ∀ error, watch.promises.finishedPromise = .rejected error →
    watch.finishedHandled = true

end BatchWatch

def watchMachine : Machine BatchWatch (List Callback) where
  start := .created
  step := BatchWatch.turn

def Callback.outcome : Callback → Option (Except String BatchResult)
  | .finished result => some (.ok result)
  | .failed error => some (.error error)
  | _ => none

def rejectsFinished (callbacks : List Callback) : Bool :=
  match callbacks.findSome? Callback.outcome with
  | some (.error _) => true
  | _ => false

def Callback.resolvesReport : Callback → Bool
  | .reportResolves _ => true
  | _ => false

/-- A turn that rejects `finishedPromise` finds a job that waits for it, or
resolves the report of one that then will. -/
def finishedAwaited (watch : BatchWatch) (callbacks : List Callback) : Prop :=
  watch.promises.finishedPromise = .pending →
    rejectsFinished callbacks = true →
      watch.finishedHandled = true ∨
        callbacks.any Callback.resolvesReport = true

instance (watch : BatchWatch) (callbacks : List Callback) :
    Decidable (finishedAwaited watch callbacks) :=
  inferInstanceAs (Decidable (_ → _ → _))

def settledBy (promise : Promise BatchResult)
    (outcome : Option (Except String BatchResult)) : Promise BatchResult :=
  match outcome with
  | none => promise
  | some (.ok result) => promise.resolve result
  | some (.error error) => promise.reject error

variable {watch after : BatchWatch} {callback : Callback}
  {callbacks : List Callback}

/-- What callbacks do to the handlers of `finishedPromise`, whether they are one
or many. -/
structure Handled (watch after : BatchWatch)
    (outcome : Option (Except String BatchResult)) (resolves : Bool) :
    Prop where
  startedHandled : watch.startedHandled = true → after.startedHandled = true
  finishedHandled : after.finishedHandled = watch.finishedHandled
  finished : after.promises.finishedPromise =
    settledBy watch.promises.finishedPromise outcome
  reported : .reported ∈ after.jobs ↔ .reported ∈ watch.jobs ∨ resolves = true

theorem Handled.refl (watch : BatchWatch) : Handled watch watch none false where
  startedHandled h := h
  finishedHandled := rfl
  finished := rfl
  reported := by simp

theorem mem_set_reply {jobs : List Waiting} {number : Nat} {next : Waiting}
    (h : jobs[number]? = some .reporting) :
    .reported ∈ jobs.set number next ↔ .reported ∈ jobs ∨ next = .reported := by
  simp only [List.mem_iff_getElem?, List.getElem?_set]
  have hlt := (List.getElem?_eq_some_iff.mp h).1
  constructor
  · rintro ⟨index, hindex⟩
    split at hindex
    · exact Or.inr (Option.some.inj hindex)
    · exact Or.inl ⟨index, hindex⟩
  · rintro (⟨index, hindex⟩ | rfl)
    · refine ⟨index, ?_⟩
      rw [if_neg, hindex]
      rintro rfl
      rw [h] at hindex
      cases hindex
    · exact ⟨number, by rw [if_pos rfl, if_pos hlt]⟩

theorem handled_reply {number : Nat} {next : Waiting}
    (h : watch.reply number next = some after) :
    Handled watch after none (decide (next = .reported)) := by
  unfold BatchWatch.reply at h
  split at h
  · next hreporting =>
      cases h
      exact
        { startedHandled := fun h => h
          finishedHandled := rfl
          finished := rfl
          reported := by
            rw [decide_eq_true_eq]
            exact mem_set_reply hreporting }
  · cases h

theorem handled_told {settled : Attempt → Attempt}
    {outcome : Option (Except String BatchResult)}
    (hfinished : (settled watch.promises).finishedPromise =
      settledBy watch.promises.finishedPromise outcome)
    (h : watch.told settled = some after) :
    Handled watch after outcome false := by
  unfold BatchWatch.told at h
  split at h
  · cases h
    exact { Handled.refl watch with finished := hfinished }
  · cases h

theorem handle_handled (h : watch.handle callback = some after) :
    Handled watch after callback.outcome callback.resolvesReport := by
  cases callback with
  | addJob =>
      simp only [BatchWatch.handle] at h
      split at h
      · cases h
      · cases h
        exact
          { startedHandled := fun _ => rfl
            finishedHandled := rfl
            finished := rfl
            reported := by simp [Callback.resolvesReport] }
  | commit =>
      simp only [BatchWatch.handle] at h
      split at h
      · cases h
      · cases h
        exact { Handled.refl watch with finished := rfl }
  | working =>
      simp only [BatchWatch.handle] at h
      exact handled_told rfl h
  | finished result =>
      simp only [BatchWatch.handle] at h
      exact handled_told rfl h
  | failed error =>
      simp only [BatchWatch.handle] at h
      exact handled_told rfl h
  | reportResolves number => exact handled_reply h
  | reportRejects number => exact handled_reply h

theorem settledBy_of_settled {promise : Promise BatchResult}
    (h : promise.isSettled = true)
    (outcome : Option (Except String BatchResult)) :
    settledBy promise outcome = promise := by
  rcases outcome with _ | error | result
  · rfl
  · exact Promise.reject_of_settled h error
  · exact Promise.resolve_of_settled h result

theorem settledBy_settledBy (promise : Promise BatchResult)
    (first second : Option (Except String BatchResult)) :
    settledBy (settledBy promise first) second =
      settledBy promise (first.or second) := by
  rcases first with _ | error | result
  · rfl
  · exact settledBy_of_settled (Promise.isSettled_reject promise error) second
  · exact settledBy_of_settled (Promise.isSettled_resolve promise result) second

theorem foldlM_handled
    (h : callbacks.foldlM BatchWatch.handle watch = some after) :
    Handled watch after (callbacks.findSome? Callback.outcome)
      (callbacks.any Callback.resolvesReport) := by
  induction callbacks generalizing watch with
  | nil =>
      cases h
      exact Handled.refl _
  | cons callback rest ih =>
      rw [List.foldlM_cons] at h
      obtain ⟨middle, hmiddle, hrest⟩ := Option.bind_eq_some_iff.mp h
      have hfirst := handle_handled hmiddle
      have hlater := ih hrest
      refine
        { startedHandled := fun h =>
            hlater.startedHandled (hfirst.startedHandled h)
          finishedHandled :=
            hlater.finishedHandled.trans hfirst.finishedHandled
          finished := ?_
          reported := ?_ }
      · rw [hlater.finished, hfirst.finished, settledBy_settledBy,
          List.findSome?_cons]
        cases callback.outcome <;> rfl
      · rw [hlater.reported, hfirst.reported, List.any_cons, Bool.or_eq_true,
          or_assoc]

/-- What holds of the batch between two turns. -/
structure TurnOk (watch : BatchWatch) : Prop where
  startedHandled : watch.startedHandled = true
  drained : .reported ∉ watch.jobs

theorem goOn_ne_reported (promises : Attempt) (job : Waiting) :
    BatchWatch.goOn promises job ≠ .reported := by
  cases job with
  | started =>
      simp only [BatchWatch.goOn]
      split <;> exact Waiting.noConfusion
  | reporting => exact Waiting.noConfusion
  | reported =>
      simp only [BatchWatch.goOn]
      split <;> exact Waiting.noConfusion
  | finished =>
      simp only [BatchWatch.goOn]
      split <;> exact Waiting.noConfusion
  | gone => exact Waiting.noConfusion

theorem turn_spec (h : TurnOk watch)
    (taken : watch.turn callbacks = some after) :
    TurnOk after ∧
      after.promises.finishedPromise =
        settledBy watch.promises.finishedPromise
          (callbacks.findSome? Callback.outcome) ∧
      (after.finishedHandled = true ↔ watch.finishedHandled = true ∨
        callbacks.any Callback.resolvesReport = true) := by
  obtain ⟨middle, hmiddle, rfl⟩ := Option.map_eq_some_iff.mp taken
  have hhandled := foldlM_handled hmiddle
  refine ⟨⟨hhandled.startedHandled h.startedHandled, fun hmem => ?_⟩,
    hhandled.finished, ?_⟩
  · obtain ⟨job, -, hjob⟩ := List.mem_map.mp hmem
    exact goOn_ne_reported middle.promises job hjob
  · rw [BatchWatch.drain, Bool.or_eq_true, List.contains_iff_mem,
      hhandled.reported, or_iff_right h.drained, hhandled.finishedHandled]

/-- A turn leaves no rejection without a handler exactly when a job awaits the
promise that it rejects. -/
theorem observed_turn_iff (h : TurnOk watch) (observed : watch.Observed)
    (taken : watch.turn callbacks = some after) :
    after.Observed ↔ finishedAwaited watch callbacks := by
  obtain ⟨hok, hfinished, hhandled⟩ := turn_spec h taken
  rw [finishedAwaited, ← hhandled]
  unfold rejectsFinished
  constructor
  · intro hafter hpending hrejects
    split at hrejects
    · next error houtcome =>
        refine hafter.finished error ?_
        rw [hfinished, hpending, houtcome]
        rfl
    · cases hrejects
  · intro hawaited
    refine ⟨fun _ _ => hok.startedHandled, fun error hrejected => ?_⟩
    cases hbefore : watch.promises.finishedPromise with
    | pending =>
        refine hawaited hbefore ?_
        rw [hfinished, hbefore] at hrejected
        cases houtcome : callbacks.findSome? Callback.outcome with
        | none =>
            rw [houtcome] at hrejected
            cases hrejected
        | some outcome =>
            rw [houtcome] at hrejected
            cases outcome with
            | ok result => cases hrejected
            | error _ => rfl
    | resolved result =>
        rw [hfinished, hbefore, settledBy_of_settled rfl] at hrejected
        cases hrejected
    | rejected _ =>
        rw [hhandled]
        exact Or.inl (observed.finished _ hbefore)

/-- While every batch that fails has a job waiting for its end, no rejection of
its promises goes unobserved.  Any other failure of a batch does. -/
theorem rejections_observed (watch : BatchWatch)
    (h : watchMachine.Reaches finishedAwaited watch) :
    watch.Observed ∧
      ∀ callbacks after, watchMachine.step watch callbacks = some after →
        (after.Observed ↔ finishedAwaited watch callbacks) := by
  have hpreserved : watchMachine.Preserves finishedAwaited
      fun watch => TurnOk watch ∧ watch.Observed := by
    intro before callbacks after hawaited hbefore taken
    exact ⟨(turn_spec hbefore.1 taken).1,
      (observed_turn_iff hbefore.1 hbefore.2 taken).mpr hawaited⟩
  have hstart : TurnOk .created ∧ BatchWatch.created.Observed :=
    ⟨⟨rfl, by decide⟩, ⟨fun _ _ => rfl, nofun⟩⟩
  obtain ⟨hok, hobserved⟩ := hpreserved.reaches hstart h
  exact ⟨hobserved, fun callbacks after taken =>
    observed_turn_iff hok hobserved taken⟩

/-- The job waits for the end of the batch when it fails. -/
def failsAwaited : List (List Callback) :=
  [[.commit], [.working], [.reportResolves 0], [.failed "Tx timed out"]]

theorem rejections_observed_awaited :
    (watchMachine.endedIf
        (fun watch callbacks => decide (finishedAwaited watch callbacks))
        failsAwaited).promises.finishedPromise = .rejected "Tx timed out" ∧
      (watchMachine.endedIf
        (fun watch callbacks => decide (finishedAwaited watch callbacks))
        failsAwaited).Observed :=
  ⟨by decide, (rejections_observed _ (Machine.reaches_endedIf
    (fun _ _ h => of_decide_eq_true h) (by decide))).1⟩

/-- The batch fails before the trader has begun to work on it. -/
theorem rejections_unobserved :
    ¬ ∀ watch, watchMachine.Reachable watch → watch.Observed := by
  intro hclaim
  have hobserved := hclaim
    (watchMachine.ended [[.commit], [.failed "no nonce"]])
    (Machine.reachable_ended (by decide))
  cases hobserved.finished "no nonce" (by decide)

end RuntimeBridge.Trade
