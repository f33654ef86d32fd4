import RuntimeBridge.Lifecycle.Worker

/-! How a sync loop can end with an error: by the seventh failure of a step,
which `doReject` turns into a rejection while the first target is not reached,
or by an exception of its iterator, which nothing turns into anything. -/

namespace RuntimeBridge.Lifecycle

open Library

def Loop.Idle : Loop Fn → Prop
  | .next => True
  | .ended => True
  | .rejected _ => True
  | _ => False

/-- The iterator goes on, or the loop is over. -/
theorem Loop.idle_of_step {loop after : Loop Fn} {event : LoopEvent Fn}
    (ends : event = .returns ∨ (∃ error, event = .throws error) ∨
      event = .yields none ∨ event = .succeeds)
    (taken : loop.step event = some after) : after.Idle := by
  rcases ends with rfl | ⟨error, rfl⟩ | rfl | rfl
  · cases loop <;> cases taken
    exact True.intro
  · cases loop <;> cases taken
    exact True.intro
  · cases loop <;> cases taken
    exact True.intro
  · cases loop <;> cases taken
    exact True.intro

/-- An idle loop has no execution that could fail or recover. -/
theorem Loop.not_idle {loop after : Loop Fn} {event : LoopEvent Fn}
    (works : event = .fails ∨ (∃ ignores, event = .recovers ignores) ∨
      ∃ ignores, event = .recoveryFails ignores)
    (taken : loop.step event = some after) : ¬ loop.Idle := by
  intro hidle
  rcases works with rfl | ⟨ignores, rfl⟩ | ⟨ignores, rfl⟩
  · obtain ⟨fn, attempt, ignore, rfl, _⟩ := Loop.step_fails taken
    exact hidle
  · obtain ⟨fn, attempt, ignore, rfl, _⟩ := Loop.step_recovers taken
    exact hidle
  · obtain ⟨fn, attempt, ignore, rfl, _⟩ := Loop.step_recoveryFails taken
    exact hidle

structure SyncOk (state : SyncState) : Prop where
  /-- A rejection of the first target stops the loops. -/
  stopped : ∀ error, state.synchedToTargetPromise = .rejected error →
    state.shouldStop = true
  /-- Without `fetchStatus` no step is ever called. -/
  idle : state.fetchStatus = none → ∀ name, (state.loops name).loop.Idle ∧
    (state.loops name).position = .top
  behind : state.fetchStatus = none → state.variant = .separated →
    state.syncStatus.paraHeaderSynchedTo = -1 ∧ 0 ≤ state.paraBlockSyncNumber

variable {state next : SyncState} {event : SyncEvent} {name : LoopName}

theorem syncOk_startSync (variant : Variant) (fetchStatus : Option FetchStatus)
    (info : Info) : SyncOk (.startSync variant fetchStatus info) where
  stopped := fun _ h => by cases h
  idle := fun _ _ => ⟨True.intro, rfl⟩
  behind := fun _ h => by
    change variant = .separated at h
    subst h
    exact ⟨rfl, Int.natCast_nonneg _⟩

namespace SyncOk

theorem setLoop (h : SyncOk state) {sync : SyncLoop}
    (idle : state.fetchStatus = none → sync.loop.Idle ∧ sync.position = .top) :
    SyncOk (state.setLoop name sync) where
  stopped := h.stopped
  idle := fun hnone other => by
    by_cases heq : other = name
    · subst heq
      simpa [SyncState.setLoop] using idle hnone
    · simpa [SyncState.setLoop, heq] using h.idle hnone other
  behind := h.behind

theorem stopSync (h : SyncOk state) : SyncOk state.stopSync where
  stopped := fun _ _ => rfl
  idle := h.idle
  behind := h.behind

theorem doReject (h : SyncOk state) (error : String) :
    SyncOk (state.doReject error) := by
  unfold SyncState.doReject
  split
  · exact h
  · exact { stopped := fun _ _ => rfl, idle := h.idle, behind := h.behind }

end SyncOk

/-- With `fetchStatus` the iterators throw nothing. -/
theorem iterator_throws {position : Position} {error : String}
    (h : state.iterator position name = .throws error) :
    state.fetchStatus = none := by
  cases hstatus : state.fetchStatus with
  | none => rfl
  | some status =>
      have htop : state.syncIteratorTop ≠ .throws error := by
        unfold SyncState.syncIteratorTop SyncState.yieldHeaders
        rw [hstatus]
        intro hthrows
        split at hthrows
        · cases hthrows
        · simp only at hthrows
          split at hthrows
          · cases hthrows
          · split at hthrows
            · cases hthrows
            · split at hthrows <;> cases hthrows
      exfalso
      cases name with
      | main =>
          cases position with
          | top => exact htop h
          | headers =>
              simp only [SyncState.iterator, SyncState.syncIterator, hstatus,
                SyncState.yieldHeaders] at h
              split at h <;> cases h
          | tail =>
              simp only [SyncState.iterator, SyncState.syncIterator] at h
              split at h
              · cases h
              · exact htop h
      | header =>
          simp only [SyncState.iterator, SyncState.headerSyncIterator, hstatus]
            at h
          split at h
          · cases h
          · split at h <;> cases h
      | paraBlock =>
          simp only [SyncState.iterator, SyncState.paraBlockSyncIterator] at h
          split at h
          · cases h
          · split at h <;> cases h

/-- Without `fetchStatus` no iterator yields a step. -/
theorem iterator_yields (ok : SyncOk state) {step : SyncStep}
    {position : Position} (member : name ∈ state.variant.loops)
    (h : state.iterator (state.loops name).position name =
      .yields step position) : state.fetchStatus ≠ none := by
  intro hnone
  rw [(ok.idle hnone name).2] at h
  cases name with
  | main =>
      simp only [SyncState.iterator, SyncState.syncIterator,
        SyncState.syncIteratorTop, hnone] at h
      split at h <;> cases h
  | header =>
      simp only [SyncState.iterator, SyncState.headerSyncIterator, hnone] at h
      split at h <;> cases h
  | paraBlock =>
      have hvariant : state.variant = .separated := by
        cases hvariant : state.variant with
        | single =>
            rw [hvariant] at member
            simp [Variant.loops] at member
        | separated => rfl
      obtain ⟨hbehind, hnonneg⟩ := ok.behind hnone hvariant
      simp only [SyncState.iterator, SyncState.paraBlockSyncIterator, hbehind]
        at h
      split at h
      · cases h
      · split at h
        · cases h
        · next hlt => exact hlt (by omega)

theorem fetchStatus_of_busy (ok : SyncOk state) (name : LoopName)
    (busy : ¬ (state.loops name).loop.Idle) : state.fetchStatus ≠ none :=
  fun hnone => busy (ok.idle hnone name).1

theorem doReject_target (state : SyncState) (error : String) :
    (state.doReject error).synchedToTargetPromise =
      state.synchedToTargetPromise.reject error := by
  unfold SyncState.doReject
  split
  · next hsettled => exact (Promise.reject_of_settled hsettled error).symm
  · rfl

theorem doReject_died (state : SyncState) (error : String) :
    (state.doReject error).died = state.died := by
  unfold SyncState.doReject
  split <;> rfl

/-- An event that ends a loop with an error: its iterator throws, or a step
fails for the seventh time. -/
def SyncState.Kills (state : SyncState) : SyncEvent → Prop
  | .polls name => ∃ error,
      state.iterator (state.loops name).position name = .throws error
  | .fails name _ => ∃ step attempt ignore,
      (state.loops name).loop = .running step attempt ignore ∧ 5 < attempt
  | _ => False

structure SyncEffect (state : SyncState) (event : SyncEvent)
    (next : SyncState) : Prop where
  ok : SyncOk next
  settled : state.synchedToTargetPromise.isSettled = true →
    next.synchedToTargetPromise = state.synchedToTargetPromise
  died : next.died = true → state.died = true ∨
    state.shouldStop = false ∧ state.Kills event ∧
    ((state.fetchStatus = none ∧
        next.synchedToTargetPromise = state.synchedToTargetPromise) ∨
      (state.fetchStatus ≠ none ∧ ∃ error, next.synchedToTargetPromise =
        state.synchedToTargetPromise.reject error))
  stays : state.died = true → next.died = true

namespace SyncEffect

theorem plain (ok : SyncOk next)
    (target : next.synchedToTargetPromise = state.synchedToTargetPromise)
    (died : next.died = state.died) : SyncEffect state event next where
  ok := ok
  settled := fun _ => target
  died := fun h => Or.inl (died ▸ h)
  stays := fun h => died ▸ h

end SyncEffect

theorem SyncOk.of_fetched (fetched : state.fetchStatus ≠ none)
    (stopped : ∀ error, state.synchedToTargetPromise = .rejected error →
      state.shouldStop = true) : SyncOk state where
  stopped := stopped
  idle := fun hnone => absurd hnone fetched
  behind := fun hnone => absurd hnone fetched

theorem polls_effect (ok : SyncOk state) (member : name ∈ state.variant.loops)
    (taken : state.polls name = some next) :
    SyncEffect state (.polls name) next := by
  simp only [SyncState.polls] at taken
  split at taken
  · obtain ⟨loop, hloop, rfl⟩ := Option.map_eq_some_iff.mp taken
    have hidle := Loop.idle_of_step (Or.inl rfl) hloop
    exact .plain (ok.setLoop fun hnone => ⟨hidle, (ok.idle hnone name).2⟩)
      rfl rfl
  · next error hthrows =>
      obtain ⟨loop, hloop, rfl⟩ := Option.map_eq_some_iff.mp taken
      have hnone := iterator_throws hthrows
      have hset : SyncOk (state.setLoop name
          { state.loops name with loop }) := by
        have hidle := Loop.idle_of_step (Or.inr (Or.inl ⟨error, rfl⟩)) hloop
        exact ok.setLoop fun _ => ⟨hidle, (ok.idle hnone name).2⟩
      refine
        { ok := { stopped := hset.stopped, idle := hset.idle,
                  behind := hset.behind }
          settled := fun _ => rfl
          died := fun hdied => ?_
          stays := fun hdied => by simp [SyncState.rejects, hdied] }
      simp only [SyncState.rejects, Bool.or_eq_true, Bool.not_eq_true'] at hdied
      exact hdied.imp_right fun hstop =>
        ⟨hstop, ⟨error, hthrows⟩, Or.inl ⟨hnone, rfl⟩⟩
  · obtain ⟨loop, hloop, rfl⟩ := Option.map_eq_some_iff.mp taken
    have hidle := Loop.idle_of_step (Or.inr (Or.inr (Or.inl rfl))) hloop
    exact .plain (ok.setLoop fun _ => ⟨hidle, rfl⟩) rfl rfl
  · next step position hyields =>
      obtain ⟨loop, hloop, rfl⟩ := Option.map_eq_some_iff.mp taken
      have hfetched := iterator_yields ok member hyields
      exact .plain (ok.setLoop fun hnone => absurd hnone hfetched) rfl rfl

theorem headerStepDone_effect (ok : SyncOk state)
    (fetched : state.fetchStatus ≠ none) {step : SyncStep}
    (taken : state.headerStepDone name step = some next) :
    SyncEffect state event next := by
  simp only [SyncState.headerStepDone] at taken
  split at taken
  · cases taken
    exact .plain (ok.setLoop fun hnone => absurd hnone fetched) rfl rfl
  · obtain ⟨loop, _, rfl⟩ := Option.map_eq_some_iff.mp taken
    exact .plain (ok.setLoop fun hnone => absurd hnone fetched) rfl rfl

theorem headersSynched_effect (ok : SyncOk state)
    {parentSynchedTo paraSynchedTo : Int}
    (taken : state.headersSynched name parentSynchedTo paraSynchedTo =
      some next) :
    SyncEffect state (.headersSynched name parentSynchedTo paraSynchedTo)
      next := by
  simp only [SyncState.headersSynched] at taken
  split at taken
  · contradiction
  · next step _ _ status _ _ hfetch =>
      have hfetched : state.fetchStatus ≠ none := by simp [hfetch]
      have hok : SyncOk { state with
          syncStatus := { state.syncStatus with
            parentHeaderSynchedTo := parentSynchedTo
            paraHeaderSynchedTo := paraSynchedTo }
          paraHeaderSyncNumber := paraSynchedTo + 1
          headerSyncNumber := parentSynchedTo + 1 } :=
        .of_fetched hfetched ok.stopped
      have heffect := @headerStepDone_effect _ _
        (.headersSynched name parentSynchedTo paraSynchedTo) _ hok hfetched _
        taken
      exact { ok := heffect.ok, settled := heffect.settled,
              died := heffect.died, stays := heffect.stays }
  · contradiction

theorem dispatched_effect (ok : SyncOk state) {dispatchedTo : Int}
    (taken : state.dispatched name dispatchedTo = some next) :
    SyncEffect state (.dispatched name dispatchedTo) next := by
  simp only [SyncState.dispatched] at taken
  split at taken
  · next _ _ status _ hfetch =>
      cases taken
      have hfetched : state.fetchStatus ≠ none := by simp [hfetch]
      refine
        { ok := .of_fetched hfetched fun error hrejected => ?_
          settled := fun hsettled => ?_
          died := Or.inl
          stays := fun hdied => hdied }
      · apply ok.stopped error
        simp only [SyncState.setLoop] at hrejected
        split at hrejected
        · exact Promise.rejected_of_resolve hrejected
        · exact hrejected
      · simp only [SyncState.setLoop]
        split
        · exact Promise.resolve_of_settled hsettled dispatchedTo
        · rfl
  · contradiction

/-- Only the seventh failure of a step is fatal. -/
theorem seventh {error : String}
    (failed : (state.loops name).loop.step .fails = some (.fatal fn)) :
    state.Kills (.fails name error) := by
  obtain ⟨step, attempt, ignore, hloop, _⟩ := Loop.step_fails failed
  refine ⟨step, attempt, ignore, hloop, ?_⟩
  rw [hloop] at failed
  by_contra hfew
  simp [Loop.step, Nat.not_lt.mp hfew] at failed

theorem fails_effect (ok : SyncOk state) {error : String}
    (taken : state.fails name error = some next) :
    SyncEffect state (.fails name error) next := by
  obtain ⟨failed, hfailed, taken⟩ := Option.bind_eq_some_iff.mp taken
  have hfetched :=
    fetchStatus_of_busy ok name (Loop.not_idle (Or.inl rfl) hfailed)
  split at taken
  · next fn =>
      obtain ⟨loop, _, rfl⟩ := Option.map_eq_some_iff.mp taken
      have hkills : state.Kills (.fails name error) := seventh hfailed
      have hrejects : SyncOk (state.rejects name loop) :=
        .of_fetched hfetched ok.stopped
      have htarget := doReject_target (state.rejects name loop) error
      have hdied : ((state.rejects name loop).doReject error).died =
          (state.died || !state.shouldStop) :=
        doReject_died (state.rejects name loop) error
      refine
        { ok := hrejects.doReject error
          settled := fun hsettled =>
            htarget.trans (Promise.reject_of_settled hsettled error)
          died := fun h => ?_
          stays := fun h => by rw [hdied, h]; rfl }
      rw [hdied, Bool.or_eq_true, Bool.not_eq_true'] at h
      exact h.imp_right fun hstop =>
        ⟨hstop, hkills, Or.inr ⟨hfetched, error, htarget⟩⟩
  · cases taken
    exact .plain (ok.setLoop fun hnone => absurd hnone hfetched) rfl rfl

theorem updateNumbers_ok (ok : SyncOk state)
    (fetched : state.fetchStatus ≠ none) (info : Info) :
    SyncOk (state.updateNumbers name info) ∧
      (state.updateNumbers name info).synchedToTargetPromise =
        state.synchedToTargetPromise ∧
      (state.updateNumbers name info).died = state.died ∧
      (state.updateNumbers name info).fetchStatus = state.fetchStatus := by
  cases name <;>
    exact ⟨.of_fetched fetched ok.stopped, rfl, rfl, rfl⟩

theorem recovers_effect (ok : SyncOk state) {info : Info}
    (taken : state.recovers name info = some next) :
    SyncEffect state (.recovers name info) next := by
  obtain ⟨loop, hloop, rfl⟩ := Option.map_eq_some_iff.mp taken
  have hfetched := fetchStatus_of_busy ok name
    (Loop.not_idle (Or.inr (Or.inl ⟨_, rfl⟩)) hloop)
  obtain ⟨hok, htarget, hdied, hsame⟩ :=
    @updateNumbers_ok state name ok hfetched info
  exact .plain (hok.setLoop fun hnone => absurd (hsame ▸ hnone) hfetched)
    htarget hdied

theorem recoveryFails_effect (ok : SyncOk state)
    (taken : state.recoveryFails name = some next) :
    SyncEffect state (.recoveryFails name) next := by
  obtain ⟨loop, hloop, rfl⟩ := Option.map_eq_some_iff.mp taken
  have hfetched := fetchStatus_of_busy ok name
    (Loop.not_idle (Or.inr (Or.inr ⟨_, rfl⟩)) hloop)
  exact .plain (ok.setLoop fun hnone => absurd hnone hfetched) rfl rfl

theorem sync_effect (ok : SyncOk state)
    (taken : state.step event = some next) : SyncEffect state event next := by
  cases event with
  | polls name =>
      simp only [SyncState.step] at taken
      split at taken
      · next member => exact polls_effect ok member taken
      · contradiction
  | headersSynched name parentSynchedTo paraSynchedTo =>
      exact headersSynched_effect ok taken
  | headerBlobMissing name =>
      simp only [SyncState.step, SyncState.headerBlobMissing] at taken
      split at taken
      · contradiction
      · next hfetch =>
          exact headerStepDone_effect ok (by simp [hfetch]) taken
      · contradiction
  | dispatched name dispatchedTo => exact dispatched_effect ok taken
  | blockBlobMissing name =>
      simp only [SyncState.step, SyncState.blockBlobMissing] at taken
      split at taken
      · next hfetch =>
          cases taken
          exact .plain (ok.setLoop fun hnone => by simp [hfetch] at hnone)
            rfl rfl
      · contradiction
  | fails name error => exact fails_effect ok taken
  | recovers name info => exact recovers_effect ok taken
  | recoveryFails name => exact recoveryFails_effect ok taken
  | fetches status =>
      obtain ⟨old, hfetch, taken⟩ := Option.bind_eq_some_iff.mp taken
      split at taken
      · cases taken
        exact .plain (.of_fetched (by simp) ok.stopped) rfl rfl
      · contradiction

end RuntimeBridge.Lifecycle
