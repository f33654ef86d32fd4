import RuntimeBridge.Lifecycle.WorkerActs

/-! Which deaths of a sync loop reach the state machine: the error goes through
the promise that `onSynching` awaits, and only until the first target. -/

namespace RuntimeBridge.Lifecycle

open Library

namespace Worker

/-- `onSynching` still awaits the first target, or it has gone on with what it
got. -/
def Heard (worker : Worker) (sync : SyncState) : Prop :=
  worker.await = .waitUntilSynched ∨
    sync.synchedToTargetPromise.isSettled = true ∧
      ∀ error, sync.synchedToTargetPromise = .rejected error →
        .ERROR ∈ worker.received

/-- A loop has ended with an error and without `stopSync`. -/
def Died (worker : Worker) : Prop :=
  ∃ sync, worker.sync = some sync ∧ sync.died = true

/-- The machine has got an error, or `onSynching` gets the one of a loop. -/
def Noticed (worker : Worker) : Prop :=
  .ERROR ∈ worker.received ∨ ∃ sync error,
    worker.sync = some sync ∧ sync.synchedToTargetPromise = .rejected error

/-- A loop that ends now is noticed: its step knows the heights to reach, and
has not reached them yet. -/
def NoticesDeath (worker : Worker) : Prop :=
  .ERROR ∈ worker.received ∨ ∃ sync, worker.sync = some sync ∧
    sync.fetchStatus ≠ none ∧ sync.synchedToTargetPromise = .pending

/-- The machine has handled `ERROR`, or the action that is suspended can only go
on by throwing, which makes the machine handle it. -/
def HearsDeath (worker : Worker) : Prop :=
  (.ERROR ∈ worker.received ∧ worker.status.Down) ∨
    ∀ findings, ∃ next, worker.resumes findings = some next ∧
      .ERROR ∈ next.received ∧ next.status = .S_ERROR

def KillsNoticed (worker : Worker) : WorkerEvent → Prop
  | .sync event => ∀ sync, worker.sync = some sync →
      sync.shouldStop = false → sync.Kills event → worker.NoticesDeath
  | _ => True

end Worker

structure WorkerOk (worker : Worker) : Prop where
  sync : ∀ sync, worker.sync = some sync → SyncOk sync
  starting : worker.status = .S_STARTING → worker.sync = none
  down : .ERROR ∈ worker.received → worker.status.Down
  heard : ∀ sync, worker.sync = some sync → worker.Heard sync

variable {before after : Worker} {settings : Settings}

namespace Acted

theorem heard {sync : SyncState} (acted : Acted before after)
    (await : before.await = .waitUntilSynched →
      after.await = .waitUntilSynched)
    (h : before.Heard sync) : after.Heard sync :=
  h.imp await fun ⟨settled, error⟩ =>
    ⟨settled, fun reason rejected =>
      acted.received _ (error reason rejected)⟩

theorem ok (acted : Acted before after) (ok : WorkerOk before)
    (heard : ∀ sync, before.sync = some sync → before.Heard sync →
      after.Heard sync) : WorkerOk after where
  sync := fun sync hsync => by
    rcases acted.sync with hsame | ⟨_, _, _, variant, status, info, hstarted⟩
    · exact ok.sync sync (hsame ▸ hsync)
    · rw [hstarted] at hsync
      cases hsync
      exact syncOk_startSync variant status info
  starting := fun hstatus => by
    rcases acted.sync with hsame | ⟨_, hleft, -⟩
    · rw [hsame]
      exact ok.starting (acted.starting hstatus)
    · exact absurd hstatus hleft
  down := fun herror => by
    rcases acted.errors herror with hold | hdown
    · exact acted.down (ok.down hold)
    · exact hdown
  heard := fun sync hsync => by
    rcases acted.sync with hsame | ⟨_, _, hawait, -⟩
    · rw [hsame] at hsync
      exact heard sync hsync (ok.heard sync hsync)
    · exact Or.inl hawait

theorem died (acted : Acted before after) (h : after.Died) : before.Died := by
  obtain ⟨sync, hsync, hdied⟩ := h
  rcases acted.sync with hsame | ⟨_, _, _, variant, status, info, hstarted⟩
  · exact ⟨sync, hsame ▸ hsync, hdied⟩
  · rw [hstarted] at hsync
    cases hsync
    contradiction

theorem noticed (acted : Acted before after) (ok : WorkerOk before)
    (h : before.Noticed) : after.Noticed := by
  rcases h with herror | ⟨sync, error, hsync, hrejected⟩
  · exact Or.inl (acted.received _ herror)
  · rcases acted.sync with hsame | ⟨hstatus, -⟩
    · exact Or.inr ⟨sync, error, hsame ▸ hsync, hrejected⟩
    · rw [ok.starting hstatus] at hsync
      cases hsync

end Acted

namespace Worker

variable {worker : Worker} {findings : Findings}

theorem resumes_heard {sync : SyncState} (hsync : worker.sync = some sync)
    (heard : worker.Heard sync)
    (taken : worker.resumes findings = some after) : after.Heard sync := by
  rcases heard with hawait | hsettled
  · simp only [resumes, hawait, hsync, Option.bind_some] at taken
    split at taken
    · contradiction
    · next value hresolved =>
        refine Or.inr ⟨by rw [hresolved]; rfl, fun error hrejected => ?_⟩
        rw [hresolved] at hrejected
        cases hrejected
    · next error hrejected =>
        cases taken
        exact Or.inr ⟨by rw [hrejected]; rfl,
          fun _ _ => worker.throws_received⟩
  · have hacted := (resumes_went worker taken).acted
    exact Or.inr ⟨hsettled.1, fun error hrejected =>
      hacted.received _ (hsettled.2 error hrejected)⟩

theorem enters_await (status : Status) (event : EVENTS) :
    (worker.enters status event).await = worker.await := by
  obtain ⟨_, _, _, hentered⟩ := worker.enters_cases status event
  rw [hentered]
  rfl

/-- Whatever the promise is rejected with, the machine gets it. -/
theorem error_of_rejected {sync : SyncState} {error : String}
    (hawait : worker.await = .waitUntilSynched)
    (hsync : worker.sync = some sync)
    (hrejected : sync.synchedToTargetPromise = .rejected error) :
    worker.resumes findings = some worker.throws := by
  simp only [resumes, hawait, hsync, Option.bind_some, hrejected]

theorem setMessage_acted {change : MessageSync → Option MessageSync}
    (taken : worker.setMessage change = some after) :
    Acted worker after ∧ after.await = worker.await := by
  obtain ⟨message, _, rfl⟩ := Option.map_eq_some_iff.mp taken
  exact ⟨.of_same rfl rfl rfl, rfl⟩

theorem messagesFetched_acted {empty : Bool}
    (taken : worker.messagesFetched empty = some after) :
    Acted worker after ∧ after.await = worker.await := by
  obtain ⟨message, _, taken⟩ := Option.bind_eq_some_iff.mp taken
  split at taken
  · contradiction
  · split at taken
    · obtain ⟨loop, _, rfl⟩ := Option.map_eq_some_iff.mp taken
      exact ⟨.of_same rfl rfl rfl, rfl⟩
    · split at taken
      · cases taken
        exact ⟨.of_same rfl rfl rfl, rfl⟩
      · contradiction

theorem messagesSent_acted {failed : Bool}
    (taken : worker.messagesSent failed = some after) :
    Acted worker after ∧ after.await = worker.await := by
  obtain ⟨message, _, taken⟩ := Option.bind_eq_some_iff.mp taken
  split at taken
  · obtain ⟨sent, _, rfl⟩ := Option.map_eq_some_iff.mp taken
    exact ⟨.of_same rfl rfl rfl, rfl⟩
  · contradiction

theorem updateInfoFails_acted (taken : worker.updateInfoFails = some after) :
    Acted worker after ∧ after.await = worker.await := by
  unfold updateInfoFails at taken
  split at taken
  · cases taken
    have h := enters_acted { worker with updateInfoLoop := false }
      (Or.inl rfl) .ERROR
    exact ⟨h.of_prepared rfl rfl rfl, enters_await .S_ERROR .ERROR⟩
  · contradiction

inductive Stepped (before after : Worker) : WorkerEvent → Prop where
  | acted {event : WorkerEvent} (acted : Acted before after)
      (heard : ∀ sync, before.sync = some sync → before.Heard sync →
        after.Heard sync) : Stepped before after event
  | synched {event : SyncEvent} {sync next : SyncState}
      (hsync : before.sync = some sync) (taken : sync.step event = some next)
      (changed : after = { before with sync := some next }) :
      Stepped before after (.sync event)
  | stopped (hsync : after.sync = before.sync.map SyncState.stopSync)
      (status : after.status = before.status)
      (received : after.received = before.received)
      (await : after.await = before.await) : Stepped before after .endDestroy

theorem Stepped.of_await {event : WorkerEvent}
    (h : Acted worker after ∧ after.await = worker.await) :
    Stepped worker after event :=
  .acted h.1 fun _ _ => h.1.heard fun hawait => h.2.trans hawait

theorem Stepped.of_elsewhere {event : WorkerEvent} (acted : Acted worker after)
    (elsewhere : worker.await ≠ .waitUntilSynched) :
    Stepped worker after event :=
  .acted acted fun _ _ => acted.heard fun hawait => absurd hawait elsewhere

theorem stepped {event : WorkerEvent}
    (taken : worker.step event = some after) : Stepped worker after event := by
  cases event with
  | resumes findings =>
      exact .acted (resumes_went worker taken).acted fun sync hsync heard =>
        resumes_heard hsync heard taken
  | awaitFails =>
      refine .of_elsewhere (awaitFails_went worker taken).acted fun hawait => ?_
      simp [step, awaitFails, hawait] at taken
  | taskDone findings =>
      obtain ⟨_, _, _, _, hwent⟩ := taskDone_went worker taken
      refine .of_elsewhere (hwent.acted.of_prepared rfl rfl rfl) fun hawait => ?_
      simp [step, taskDone, hawait, Await.task] at taken
  | taskFails =>
      obtain ⟨_, _, _, hwent⟩ := taskFails_went worker taken
      refine .of_elsewhere (hwent.acted.of_prepared rfl rfl rfl) fun hawait => ?_
      simp [step, taskFails, hawait, Await.task] at taken
  | sync event =>
      obtain ⟨sync, hsync, taken⟩ := Option.bind_eq_some_iff.mp taken
      obtain ⟨next, hnext, rfl⟩ := Option.map_eq_some_iff.mp taken
      exact .synched hsync hnext rfl
  | messagePolls => exact .of_await (setMessage_acted taken)
  | messagesFetched empty => exact .of_await (messagesFetched_acted taken)
  | fetchFails => exact .of_await (setMessage_acted taken)
  | messagesSent failed => exact .of_await (messagesSent_acted taken)
  | messageRecovers => exact .of_await (setMessage_acted taken)
  | updateInfoFails => exact .of_await (updateInfoFails_acted taken)
  | restart =>
      cases taken
      exact .of_await ⟨.of_same rfl rfl rfl, rfl⟩
  | kick =>
      cases taken
      exact .of_await ⟨worker.enters_acted (Or.inr rfl) .SHOULD_KICK,
        enters_await .S_KICKED .SHOULD_KICK⟩
  | endDestroy =>
      simp only [step, endDestroy] at taken
      split at taken
      · contradiction
      · cases taken
        exact .stopped rfl rfl rfl rfl

end Worker

theorem workerOk_step (ok : WorkerOk before) {event : WorkerEvent}
    (taken : before.step event = some after) : WorkerOk after := by
  cases Worker.stepped taken with
  | acted acted heard => exact acted.ok ok heard
  | @synched event sync next hsync hnext changed =>
      subst changed
      have heffect := sync_effect (ok.sync sync hsync) hnext
      exact
        { sync := fun other hother => by
            cases hother
            exact heffect.ok
          starting := fun hstatus => by
            rw [ok.starting hstatus] at hsync
            cases hsync
          down := ok.down
          heard := fun other hother => by
            cases hother
            refine (ok.heard sync hsync).imp_right fun ⟨hsettled, herror⟩ => ?_
            rw [heffect.settled hsettled]
            exact ⟨hsettled, herror⟩ }
  | stopped hsync hstatus hreceived hawait =>
      exact
        { sync := fun sync h => by
            rw [hsync] at h
            obtain ⟨running, hrunning, rfl⟩ := Option.map_eq_some_iff.mp h
            exact (ok.sync running hrunning).stopSync
          starting := fun h => by
            rw [hsync, ok.starting (hstatus ▸ h)]
            rfl
          down := fun h => by
            rw [hstatus]
            exact ok.down (hreceived ▸ h)
          heard := fun sync h => by
            rw [hsync] at h
            obtain ⟨running, hrunning, rfl⟩ := Option.map_eq_some_iff.mp h
            unfold Worker.Heard
            rw [hreceived, hawait]
            exact ok.heard running hrunning }

theorem workerOk_create (settings : Settings) : WorkerOk (.create settings) where
  sync := fun _ h => by cases h
  starting := fun _ => rfl
  down := fun h => by cases h with | tail _ h => cases h
  heard := fun _ h => by cases h

theorem workerOk_reachable (h : (worker settings).Reachable after) :
    WorkerOk after :=
  Machine.Preserves.reaches (fun _ _ _ _ ok taken => workerOk_step ok taken)
    (workerOk_create settings) h

theorem death (ok : WorkerOk before) {event : SyncEvent} {sync next : SyncState}
    (hsync : before.sync = some sync) (taken : sync.step event = some next)
    (alive : ¬ before.Died) (dead : next.died = true) :
    sync.shouldStop = false ∧ sync.Kills event ∧
      ((sync.fetchStatus = none ∧
          next.synchedToTargetPromise = sync.synchedToTargetPromise) ∨
        (sync.fetchStatus ≠ none ∧ ∃ error, next.synchedToTargetPromise =
          sync.synchedToTargetPromise.reject error)) := by
  have heffect := sync_effect (ok.sync sync hsync) taken
  exact (heffect.died dead).resolve_left fun hdied =>
    alive ⟨sync, hsync, hdied⟩

/-- A death is noticed just when the promise is there to take its error. -/
theorem noticed_iff (ok : WorkerOk before) {event : SyncEvent}
    {sync next : SyncState} (hsync : before.sync = some sync)
    (taken : sync.step event = some next) (alive : ¬ before.Died)
    (dead : next.died = true) :
    Worker.Noticed { before with sync := some next } ↔ before.NoticesDeath := by
  obtain ⟨hrunning, _, htarget⟩ := death ok hsync taken alive dead
  have hunrejected : ∀ error,
      sync.synchedToTargetPromise ≠ .rejected error := by
    intro error hrejected
    have hstopped := (ok.sync sync hsync).stopped error hrejected
    rw [hrunning] at hstopped
    cases hstopped
  constructor
  · rintro (herror | ⟨other, error, hother, hrejected⟩)
    · exact Or.inl herror
    · cases hother
      rcases htarget with ⟨_, hsame⟩ | ⟨hfetched, reason, hreject⟩
      · exact absurd (hsame ▸ hrejected) (hunrejected error)
      · refine Or.inr ⟨sync, hsync, hfetched, ?_⟩
        cases htarget : sync.synchedToTargetPromise with
        | pending => rfl
        | resolved value =>
            rw [hreject, htarget] at hrejected
            cases hrejected
        | rejected reason => exact absurd htarget (hunrejected reason)
  · rintro (herror | ⟨other, hother, hfetched, hpending⟩)
    · exact Or.inl herror
    · rw [hsync] at hother
      cases hother
      rcases htarget with ⟨hnone, _⟩ | ⟨_, reason, hreject⟩
      · exact absurd hnone hfetched
      · rw [hpending] at hreject
        exact Or.inr ⟨next, reason, rfl, hreject⟩

theorem noticed_step (ok : WorkerOk before) {event : WorkerEvent}
    (kills : before.KillsNoticed event)
    (noticed : before.Died → before.Noticed)
    (taken : before.step event = some after) (dead : after.Died) :
    after.Noticed := by
  cases Worker.stepped taken with
  | acted acted _ => exact acted.noticed ok (noticed (acted.died dead))
  | @synched event sync next hsync hnext changed =>
      subst changed
      obtain ⟨other, hother, hdead⟩ := dead
      cases hother
      by_cases hdied : before.Died
      · rcases noticed hdied with herror | ⟨other, error, hother, hrejected⟩
        · exact Or.inl herror
        · rw [hsync] at hother
          cases hother
          have heffect := sync_effect (ok.sync sync hsync) hnext
          refine Or.inr ⟨next, error, rfl, ?_⟩
          rw [heffect.settled (by rw [hrejected]; rfl), hrejected]
      · obtain ⟨hrunning, hkills, _⟩ := death ok hsync hnext hdied hdead
        exact (noticed_iff ok hsync hnext hdied hdead).mpr
          (kills sync hsync hrunning hkills)
  | stopped hsync _ hreceived _ =>
      have hbefore : before.Died := by
        obtain ⟨sync, hsome, hdead⟩ := dead
        rw [hsync] at hsome
        obtain ⟨running, hrunning, rfl⟩ := Option.map_eq_some_iff.mp hsome
        exact ⟨running, hrunning, hdead⟩
      rcases noticed hbefore with herror | ⟨sync, error, hsome, hrejected⟩
      · exact Or.inl (hreceived ▸ herror)
      · refine Or.inr ⟨sync.stopSync, error, ?_, hrejected⟩
        rw [hsync, hsome]
        rfl

theorem hearsDeath_of_noticed (ok : WorkerOk before) (h : before.Noticed) :
    before.HearsDeath := by
  by_cases herror : .ERROR ∈ before.received
  · exact Or.inl ⟨herror, ok.down herror⟩
  · obtain ⟨sync, error, hsync, hrejected⟩ := h.resolve_left herror
    have hawait : before.await = .waitUntilSynched :=
      (ok.heard sync hsync).resolve_right fun ⟨_, heard⟩ =>
        herror (heard error hrejected)
    exact Or.inr fun findings =>
      ⟨before.throws, Worker.error_of_rejected hawait hsync hrejected,
        before.throws_received, before.throws_status⟩

/-- Runs whose loops die only before the first target, with the heights known:
every death makes the machine handle `ERROR`.  No other death is noticed. -/
theorem death_heard (settings : Settings) :
    (∀ state, (worker settings).Reaches Worker.KillsNoticed state →
      state.Died → state.HearsDeath) ∧
    ∀ before event after, (worker settings).Reachable before →
      before.step (.sync event) = some after → ¬ before.Died → after.Died →
      (after.Noticed ↔ before.NoticesDeath) := by
  constructor
  · intro state reached
    have hpreserves : (worker settings).Preserves Worker.KillsNoticed
        fun state => WorkerOk state ∧ (state.Died → state.Noticed) := by
      rintro before event after kills ⟨ok, noticed⟩ taken
      exact ⟨workerOk_step ok taken, noticed_step ok kills noticed taken⟩
    have hstart : ¬ (Worker.create settings).Died := by
      rintro ⟨sync, hsync, _⟩
      cases hsync
    obtain ⟨ok, noticed⟩ := hpreserves.reaches
      ⟨workerOk_create settings, fun dead => absurd dead hstart⟩ reached
    exact fun dead => hearsDeath_of_noticed ok (noticed dead)
  · rintro before event after reachable taken alive ⟨other, hother, dead⟩
    obtain ⟨sync, hsync, taken⟩ := Option.bind_eq_some_iff.mp taken
    obtain ⟨next, hnext, rfl⟩ := Option.map_eq_some_iff.mp taken
    cases hother
    exact noticed_iff (workerOk_reachable reachable) hsync hnext alive dead

def plainSettings : Settings where
  useLegacySync := false
  syncOnly := false
  skipRa := false
  forceRa := false

def plainFindings (fetchStatus : Option FetchStatus) : Findings where
  assigned := none
  shouldRegister := false
  scored := true
  sessionState := some .ready
  stakeRaised := false
  info := { headernum := 1, paraHeadernum := 1, blocknum := 1 }
  fetchStatus

def startingRun (fetchStatus : Option FetchStatus) : List WorkerEvent :=
  let findings := plainFindings fetchStatus
  [.taskDone findings, .resumes findings, .resumes findings]

def heights : FetchStatus where
  parentProcessedHeight := 10
  paraFetchedHeight := 10
  paraProcessedHeight := 10

def failingRun : List WorkerEvent :=
  let info := (plainFindings none).info
  startingRun (some heights) ++ [.sync (.polls .main)] ++
    (List.replicate 6 [.sync (.fails .main "timeout"),
      .sync (.recovers .main info)]).flatten ++
    [.sync (.fails .main "timeout")]

def killsWatched (worker : Worker) : WorkerEvent → Bool
  | .sync _ => worker.sync.any fun sync =>
      sync.fetchStatus.isSome && !sync.synchedToTargetPromise.isSettled
  | _ => true

theorem killsNoticed_of_watched (worker : Worker) (event : WorkerEvent)
    (h : killsWatched worker event = true) : worker.KillsNoticed event := by
  cases event with
  | sync event =>
      intro sync hsync _ _
      simp only [killsWatched, hsync, Option.any_some, Bool.and_eq_true,
        Bool.not_eq_true'] at h
      refine Or.inr ⟨sync, hsync, ?_, ?_⟩
      · exact Option.isSome_iff_ne_none.mp h.1
      · cases htarget : sync.synchedToTargetPromise with
        | pending => rfl
        | resolved value => simp [htarget, Promise.isSettled] at h
        | rejected error => simp [htarget, Promise.isSettled] at h
  | _ => exact True.intro

theorem death_heard_failingRun :
    ((worker plainSettings).endedIf killsWatched failingRun).HearsDeath :=
  (death_heard plainSettings).1 _
    (Machine.reaches_endedIf killsNoticed_of_watched (by decide))
    ⟨_, rfl, by decide⟩

/-- The heights are not known yet when the loops are started. -/
def silentRun : List WorkerEvent :=
  startingRun none ++ [.sync (.polls .main)]

/-- The promise of a loop that dies so is never settled, and the context stays
in `S_SYNCHING`. -/
theorem death_unheard_silentRun :
    ¬ ∀ state, (worker plainSettings).Reachable state → state.Died →
      state.HearsDeath := by
  intro claimed
  have hheard := claimed ((worker plainSettings).ended silentRun)
    (Machine.reachable_ended (by decide)) ⟨_, rfl, by decide⟩
  rcases hheard with ⟨herror, _⟩ | hresumes
  · revert herror
    decide
  · obtain ⟨next, hnext, _⟩ := hresumes (plainFindings none)
    cases hnext

end RuntimeBridge.Lifecycle
