import RuntimeBridge.Lifecycle.SyncDeath

/-! What sync loops still do when they are stopped: they reach the first target
only with a block that is being dispatched. -/

namespace RuntimeBridge.Lifecycle

open Library

namespace SyncState

/-- A loop dispatches a block, or will try to again: `doParaBlockSync` of
`separated_sync.js` does not look at `shouldStop`. -/
def Dispatches (state : SyncState) (name : LoopName) : Prop :=
  ∃ attempt ignore,
    (state.loops name).loop = .running .paraBlock attempt ignore ∨
      state.variant = .separated ∧
        (state.loops name).loop = .recovering .paraBlock attempt ignore

/-- The loops may still resolve the first target, or have done so. -/
def CanResolve (state : SyncState) : Prop :=
  match state.synchedToTargetPromise with
  | .pending => ∃ name, state.Dispatches name
  | .resolved _ => True
  | .rejected _ => False

variable {state next : SyncState} {name : LoopName}

theorem canResolve_of_dispatches (h : state.Dispatches name)
    (unrejected : ∀ error, state.synchedToTargetPromise ≠ .rejected error) :
    state.CanResolve := by
  unfold CanResolve
  split
  · exact ⟨name, h⟩
  · exact True.intro
  · next error hrejected => exact unrejected error hrejected

theorem canResolve_of_next
    (target : next.synchedToTargetPromise = state.synchedToTargetPromise)
    (dispatches : ∀ name, next.Dispatches name → ∃ name, state.Dispatches name)
    (h : next.CanResolve) : state.CanResolve := by
  unfold CanResolve at h ⊢
  rw [target] at h
  split
  · next hpending =>
      rw [hpending] at h
      obtain ⟨name, hname⟩ := h
      exact dispatches name hname
  · exact True.intro
  · next error hrejected =>
      rw [hrejected] at h
      exact h

theorem dispatches_setLoop {sync : SyncLoop}
    (quiet : (state.setLoop name sync).Dispatches name → state.Dispatches name)
    {other : LoopName} (h : (state.setLoop name sync).Dispatches other) :
    state.Dispatches other := by
  by_cases hsame : other = name
  · subst hsame
    exact quiet h
  · unfold Dispatches setLoop at h
    simp only [Function.update_of_ne hsame] at h
    exact h

theorem dispatches_setLoop_iff {sync : SyncLoop} :
    (state.setLoop name sync).Dispatches name ↔
      ∃ attempt ignore, sync.loop = .running .paraBlock attempt ignore ∨
        state.variant = .separated ∧
          sync.loop = .recovering .paraBlock attempt ignore := by
  unfold Dispatches setLoop
  simp only [Function.update_self]

theorem not_dispatches_setLoop {sync : SyncLoop} (idle : sync.loop.Idle) :
    ¬ (state.setLoop name sync).Dispatches name := by
  rw [dispatches_setLoop_iff]
  rintro ⟨attempt, ignore, hrunning | ⟨_, hrecovering⟩⟩
  · rw [hrunning] at idle
    exact idle
  · rw [hrecovering] at idle
    exact idle

theorem canResolve_setLoop {sync : SyncLoop} (idle : sync.loop.Idle)
    (h : (state.setLoop name sync).CanResolve) : state.CanResolve := by
  refine @canResolve_of_next state (state.setLoop name sync) rfl ?_ h
  exact fun other hother => ⟨other, dispatches_setLoop
    (fun hname => absurd hname (not_dispatches_setLoop idle)) hother⟩

/-- A stopped iterator of `separated_sync.js` yields nothing. -/
theorem call_idle_of_yields (stopped : state.shouldStop = true)
    (member : name ∈ state.variant.loops) {step : SyncStep}
    {position after : Position}
    (h : state.iterator position name = .yields step after)
    (attempt : Nat) (ignore : Bool) :
    (state.call (.running step attempt ignore)).Idle := by
  cases hvariant : state.variant with
  | single =>
      simp only [call, returnsAtOnce, hvariant, stopped, Bool.true_or, if_true]
      exact True.intro
  | separated =>
      rw [hvariant] at member
      cases name with
      | main => simp [Variant.loops] at member
      | header =>
          simp only [iterator, headerSyncIterator, stopped, if_true] at h
          cases h
      | paraBlock =>
          simp only [iterator, paraBlockSyncIterator, stopped, if_true] at h
          cases h

theorem polls_stopped (stopped : state.shouldStop = true)
    (member : name ∈ state.variant.loops)
    (taken : state.polls name = some next) :
    next.shouldStop = true ∧ (next.CanResolve → state.CanResolve) := by
  simp only [polls] at taken
  split at taken
  · obtain ⟨loop, hloop, rfl⟩ := Option.map_eq_some_iff.mp taken
    have hidle := Loop.idle_of_step (Or.inl rfl) hloop
    exact ⟨stopped, canResolve_setLoop hidle⟩
  · next error _ =>
      obtain ⟨loop, hloop, rfl⟩ := Option.map_eq_some_iff.mp taken
      have hidle := Loop.idle_of_step (Or.inr (Or.inl ⟨error, rfl⟩)) hloop
      exact ⟨stopped, fun h => canResolve_setLoop hidle h⟩
  · obtain ⟨loop, hloop, rfl⟩ := Option.map_eq_some_iff.mp taken
    have hidle := Loop.idle_of_step (Or.inr (Or.inr (Or.inl rfl))) hloop
    exact ⟨stopped, canResolve_setLoop hidle⟩
  · next step position hyields =>
      obtain ⟨loop, hloop, rfl⟩ := Option.map_eq_some_iff.mp taken
      refine ⟨stopped, canResolve_setLoop ?_⟩
      simp only [Loop.step] at hloop
      split at hloop
      · next hnone => cases hnone
      · cases hloop
        next hsome =>
        cases hsome
        exact call_idle_of_yields stopped member hyields 0 false
      · contradiction

theorem headerStepDone_stopped (stopped : state.shouldStop = true)
    {step : SyncStep} (taken : state.headerStepDone name step = some next) :
    next.shouldStop = true ∧ (next.CanResolve → state.CanResolve) := by
  simp only [headerStepDone, stopped, not_true_eq_false, and_false, if_false]
    at taken
  obtain ⟨loop, hloop, rfl⟩ := Option.map_eq_some_iff.mp taken
  have hidle := Loop.idle_of_step (Or.inr (Or.inr (Or.inr rfl))) hloop
  exact ⟨stopped, canResolve_setLoop hidle⟩

theorem headersSynched_stopped (stopped : state.shouldStop = true)
    {parentSynchedTo paraSynchedTo : Int}
    (taken : state.headersSynched name parentSynchedTo paraSynchedTo =
      some next) :
    next.shouldStop = true ∧ (next.CanResolve → state.CanResolve) := by
  simp only [headersSynched] at taken
  split at taken
  · contradiction
  · have hdone := headerStepDone_stopped (by exact stopped) taken
    exact hdone
  · contradiction

theorem headerBlobMissing_stopped (stopped : state.shouldStop = true)
    (taken : state.headerBlobMissing name = some next) :
    next.shouldStop = true ∧ (next.CanResolve → state.CanResolve) := by
  simp only [headerBlobMissing] at taken
  split at taken
  · contradiction
  · exact headerStepDone_stopped stopped taken
  · contradiction

theorem dispatched_stopped (stopped : state.shouldStop = true)
    {dispatchedTo : Int}
    (taken : state.dispatched name dispatchedTo = some next) :
    next.shouldStop = true ∧ (next.CanResolve → state.CanResolve) := by
  simp only [dispatched] at taken
  split at taken
  · next attempt ignore _ hloop _ =>
      cases taken
      refine ⟨stopped, fun h => ?_⟩
      apply canResolve_of_dispatches ⟨attempt, ignore, Or.inl hloop⟩
      intro error hrejected
      simp only [CanResolve, setLoop, hrejected, Promise.resolve] at h
      split at h
      · next hpending => split at hpending <;> cases hpending
      · next hresolved => split at hresolved <;> cases hresolved
      · exact h
  · contradiction

theorem blockBlobMissing_stopped (stopped : state.shouldStop = true)
    (taken : state.blockBlobMissing name = some next) :
    next.shouldStop = true ∧ (next.CanResolve → state.CanResolve) := by
  simp only [blockBlobMissing] at taken
  split at taken
  · cases taken
    refine ⟨stopped, canResolve_setLoop ?_⟩
    exact True.intro
  · contradiction

theorem canResolve_of_doReject {error : String}
    (h : (state.doReject error).CanResolve) : state.CanResolve := by
  unfold doReject at h
  split at h
  · exact h
  · next hpending =>
      cases htarget : state.synchedToTargetPromise with
      | pending => simp [CanResolve, htarget, Promise.reject] at h
      | resolved value => simp [CanResolve, htarget]
      | rejected reason => simp [htarget, Promise.isSettled] at hpending

theorem fails_stopped (stopped : state.shouldStop = true) {error : String}
    (taken : state.fails name error = some next) :
    next.shouldStop = true ∧ (next.CanResolve → state.CanResolve) := by
  obtain ⟨failed, hfailed, taken⟩ := Option.bind_eq_some_iff.mp taken
  split at taken
  · next fn =>
      obtain ⟨loop, hloop, rfl⟩ := Option.map_eq_some_iff.mp taken
      have hstop : ((state.rejects name loop).doReject error).shouldStop =
          true := by
        unfold doReject
        split
        · exact stopped
        · rfl
      refine ⟨hstop, fun h => ?_⟩
      have hrejects := canResolve_of_doReject h
      have hidle : loop.Idle := by
        cases hloop
        exact True.intro
      exact canResolve_setLoop hidle hrejects
  · next hunfatal =>
      cases taken
      refine ⟨stopped, fun h => ?_⟩
      refine @canResolve_of_next state (state.setLoop name _) rfl ?_ h
      refine fun other hother => ⟨other, dispatches_setLoop ?_ hother⟩
      rw [dispatches_setLoop_iff]
      obtain ⟨fn, attempt, ignore, hrunning, hfailed | hfailed⟩ :=
        Loop.step_fails hfailed
      · rintro ⟨_, _, hloop | ⟨_, hloop⟩⟩
        · rw [hfailed] at hloop
          cases hloop
        · rw [hfailed] at hloop
          cases hloop
          exact ⟨_, _, Or.inl hrunning⟩
      · exact absurd hfailed (hunfatal fn)

/-- A step that is called again: not in `single_sync.js`, where it looks at
`shouldStop` first. -/
theorem dispatches_of_call {attempt : Nat} {ignore : Bool} {step : SyncStep}
    (stopped : state.shouldStop = true)
    (hloop : (state.loops name).loop = .recovering step attempt ignore)
    {other : Loop SyncStep} {again : Nat} {ignores : Bool}
    (hother : other = .next ∨ other = .running step again ignores)
    {sync : SyncLoop} (hsync : sync.loop = state.call other)
    (h : (state.setLoop name sync).Dispatches name) :
    state.Dispatches name := by
  rw [dispatches_setLoop_iff, hsync] at h
  obtain ⟨next, ignored, hcalled⟩ := h
  rcases hother with rfl | rfl
  · rcases hcalled with hcalled | ⟨_, hcalled⟩ <;> cases hcalled
  · cases hvariant : state.variant with
    | single =>
        simp [call, returnsAtOnce, hvariant, stopped] at hcalled
    | separated =>
        simp [call, returnsAtOnce, hvariant] at hcalled
        rw [hcalled.1] at hloop
        exact ⟨attempt, ignore, Or.inr ⟨hvariant, hloop⟩⟩

theorem recovers_stopped (stopped : state.shouldStop = true) {info : Info}
    (taken : state.recovers name info = some next) :
    next.shouldStop = true ∧ (next.CanResolve → state.CanResolve) := by
  obtain ⟨loop, hloop, rfl⟩ := Option.map_eq_some_iff.mp taken
  obtain ⟨step, attempt, ignore, hrecovering, hafter⟩ := Loop.step_recovers hloop
  have hupdated : ∀ name, (state.updateNumbers name info).shouldStop = true ∧
      (state.updateNumbers name info).loops = state.loops ∧
      (state.updateNumbers name info).variant = state.variant ∧
      (state.updateNumbers name info).synchedToTargetPromise =
        state.synchedToTargetPromise := by
    intro name
    cases name <;> exact ⟨stopped, rfl, rfl, rfl⟩
  obtain ⟨hstop, hloops, hvariant, htarget⟩ := hupdated name
  refine ⟨hstop, fun h => ?_⟩
  refine canResolve_of_next (by exact htarget) (fun other hother => ?_) h
  have hbefore := dispatches_setLoop (dispatches_of_call hstop
    (hloops ▸ hrecovering) hafter rfl) hother
  unfold Dispatches at hbefore
  rw [hloops, hvariant] at hbefore
  exact ⟨other, hbefore⟩

theorem recoveryFails_stopped (stopped : state.shouldStop = true)
    (taken : state.recoveryFails name = some next) :
    next.shouldStop = true ∧ (next.CanResolve → state.CanResolve) := by
  obtain ⟨loop, hloop, rfl⟩ := Option.map_eq_some_iff.mp taken
  obtain ⟨step, attempt, ignore, hrecovering, hafter⟩ :=
    Loop.step_recoveryFails hloop
  refine ⟨stopped, fun h => ?_⟩
  refine @canResolve_of_next state (state.setLoop name _) rfl ?_ h
  exact fun other hother => ⟨other, dispatches_setLoop
    (dispatches_of_call stopped hrecovering (Or.inr hafter) rfl) hother⟩

/-- Stopped loops stay stopped, and what they cannot resolve stays so. -/
theorem stopped_step (stopped : state.shouldStop = true) {event : SyncEvent}
    (taken : state.step event = some next) :
    next.shouldStop = true ∧ (next.CanResolve → state.CanResolve) := by
  cases event with
  | polls name =>
      simp only [step] at taken
      split at taken
      · next member => exact polls_stopped stopped member taken
      · contradiction
  | headersSynched name parentSynchedTo paraSynchedTo =>
      exact headersSynched_stopped stopped taken
  | headerBlobMissing name => exact headerBlobMissing_stopped stopped taken
  | dispatched name dispatchedTo => exact dispatched_stopped stopped taken
  | blockBlobMissing name => exact blockBlobMissing_stopped stopped taken
  | fails name error => exact fails_stopped stopped taken
  | recovers name info => exact recovers_stopped stopped taken
  | recoveryFails name => exact recoveryFails_stopped stopped taken
  | fetches status =>
      obtain ⟨old, _, taken⟩ := Option.bind_eq_some_iff.mp taken
      split at taken
      · cases taken
        exact ⟨stopped, fun h => h⟩
      · contradiction

end SyncState

end RuntimeBridge.Lifecycle
