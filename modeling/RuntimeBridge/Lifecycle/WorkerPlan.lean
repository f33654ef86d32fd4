import RuntimeBridge.Lifecycle.LoopDeath
import RuntimeBridge.Lifecycle.Quiet

/-! The order in which a worker context does things on the chain: what it has
done by each await, in every run. -/

namespace RuntimeBridge.Lifecycle

open Library

/-- The message loop alone sends a transaction again and again. -/
def Act.once : Act → Bool
  | .dispatchTx .BATCH_SYNC_MQ_MESSAGE => false
  | _ => true

namespace Settings

def synchedActs (settings : Settings) : List Act :=
  .startSync ::
    if settings.forceRa then [.dispatchTx .REGISTER_WORKER] else []

def messageActs (settings : Settings) : List Act :=
  settings.synchedActs ++ [.startSyncMessage]

def registerActs (settings : Settings) : List Act :=
  settings.messageActs ++ [.dispatchTx .REGISTER_WORKER]

def addActs (settings : Settings) : List Act :=
  settings.registerActs ++ [.dispatchTx .ADD_WORKER]

/-- The acts of a context that nothing holds up. -/
def plans (settings : Settings) : List (List Act) :=
  if settings.syncOnly then
    [settings.synchedActs]
  else if settings.skipRa then
    [settings.addActs ++ [.dispatchTx .RESTART_COMPUTING]]
  else
    [settings.addActs ++ [.dispatchTx .RESTART_COMPUTING],
      settings.addActs ++ [.dispatchTx .START_COMPUTING]]

end Settings

namespace Await

/-- What may have been done by the time of an await. -/
def Fits (settings : Settings) (acts : List Act) : Await → Prop
  | .nothing => ∃ plan ∈ settings.plans, acts.Sublist plan
  | .initRuntime | .workerAssignments | .subscribeOnChainState => acts = []
  | .waitUntilSynched => acts.Sublist [.startSync]
  | .registerWorker .onSynched (.registering _) =>
      settings.forceRa = true ∧ acts.Sublist settings.synchedActs
  | .registerWorker .onSynched .initialScore
  | .registerWorker .onSynched .adding => False
  | .registerWorker .onSynched _ =>
      settings.forceRa = true ∧ acts.Sublist [.startSync]
  | .registerWorker .onPreActive (.registering _)
  | .registerWorker .onPreActive .initialScore =>
      settings.syncOnly = false ∧ acts.Sublist settings.registerActs
  | .registerWorker .onPreActive .adding | .workerBindings | .stakes =>
      settings.syncOnly = false ∧ acts.Sublist settings.addActs
  | .waitUntilMqSynched | .onChainState | .registerWorker .onPreActive _ =>
      settings.syncOnly = false ∧ acts.Sublist settings.messageActs
  | .restarting =>
      settings.syncOnly = false ∧
        acts.Sublist (settings.addActs ++ [.dispatchTx .RESTART_COMPUTING])
  | .waitUntilWorkerReady =>
      settings.syncOnly = false ∧ settings.skipRa = false ∧
        acts.Sublist settings.addActs
  | .startComputing =>
      settings.syncOnly = false ∧ settings.skipRa = false ∧
        acts.Sublist (settings.addActs ++ [.dispatchTx .START_COMPUTING])

/-- The awaits behind the first target of the sync loops. -/
def Synched : Await → Prop
  | .nothing | .initRuntime | .workerAssignments | .subscribeOnChainState
  | .waitUntilSynched => False
  | _ => True

/-- The awaits behind the first empty answer to the message loop. -/
def Fetched : Await → Prop
  | .onChainState | .registerWorker .onPreActive _ | .workerBindings | .stakes
  | .restarting | .waitUntilWorkerReady | .startComputing => True
  | _ => False

end Await

/-- The transactions of `onPreActive`, but for the registration. -/
def TxAction.Late : TxAction → Prop
  | .ADD_WORKER | .START_COMPUTING | .RESTART_COMPUTING => True
  | _ => False

def Worker.TargetReached (worker : Worker) : Prop :=
  ∃ sync target, worker.sync = some sync ∧
    sync.synchedToTargetPromise = .resolved target

/-- Messages are sent by a loop that has been started. -/
def SentMessages (acts : List Act) : Prop :=
  ∀ front back, acts = front ++ .dispatchTx .BATCH_SYNC_MQ_MESSAGE :: back →
    .startSyncMessage ∈ front

structure PlanOk (worker : Worker) : Prop where
  fits : worker.await.Fits worker.settings (worker.acts.filter Act.once)
  synched : worker.await.Synched ∨ (∃ act ∈ worker.acts, act ≠ .startSync) →
    worker.TargetReached
  fetched : worker.await.Fetched ∨
    (∃ action, action.Late ∧ .dispatchTx action ∈ worker.acts) →
      worker.MessageResolved
  messages : worker.message.isSome = true → .startSyncMessage ∈ worker.acts
  sent : SentMessages worker.acts

variable {before after : Worker} {settings : Settings} {findings : Findings}
  {acts : List Act}

theorem SentMessages.append (h : SentMessages acts) {act : Act}
    (hact : act ≠ .dispatchTx .BATCH_SYNC_MQ_MESSAGE ∨
      .startSyncMessage ∈ acts) : SentMessages (acts ++ [act]) := by
  intro front back hacts
  rcases List.eq_nil_or_concat back with rfl | ⟨rest, last, rfl⟩
  · obtain ⟨hfront, hlast⟩ := List.append_inj' hacts rfl
    rcases hact with hne | hmember
    · exact absurd (List.cons.inj hlast).1 hne
    · rwa [← hfront]
  · rw [List.concat_eq_append, ← List.cons_append, ← List.append_assoc] at hacts
    exact h _ _ (List.append_inj' hacts rfl).1

namespace Settings

theorem synchedActs_plan (settings : Settings) :
    ∃ plan ∈ settings.plans, settings.synchedActs.Sublist plan := by
  have hadd : settings.synchedActs.Sublist settings.addActs := by
    unfold addActs registerActs messageActs
    exact ((List.sublist_append_left _ _).trans
      (List.sublist_append_left _ _)).trans (List.sublist_append_left _ _)
  unfold plans
  split
  · exact ⟨_, List.mem_cons_self .., List.Sublist.refl _⟩
  · split
    · exact ⟨_, List.mem_cons_self .., hadd.trans (List.sublist_append_left _ _)⟩
    · exact ⟨_, List.mem_cons_self .., hadd.trans (List.sublist_append_left _ _)⟩

theorem restart_plan (hsync : settings.syncOnly = false) :
    settings.addActs ++ [.dispatchTx .RESTART_COMPUTING] ∈ settings.plans := by
  unfold plans
  rw [if_neg (by simp [hsync])]
  split
  · exact List.mem_cons_self ..
  · exact List.mem_cons_self ..

theorem start_plan (hsync : settings.syncOnly = false)
    (hskip : settings.skipRa = false) :
    settings.addActs ++ [.dispatchTx .START_COMPUTING] ∈ settings.plans := by
  unfold plans
  rw [if_neg (by simp [hsync]), if_neg (by simp [hskip])]
  exact .tail _ (List.mem_cons_self ..)

theorem add_plan (hsync : settings.syncOnly = false)
    (h : acts.Sublist settings.addActs) :
    ∃ plan ∈ settings.plans, acts.Sublist plan :=
  ⟨_, restart_plan hsync, h.trans (List.sublist_append_left _ _)⟩

end Settings

/-- Whatever has been done by an await fits, if nothing follows. -/
theorem Await.Fits.nothing {await : Await} (h : await.Fits settings acts) :
    Await.nothing.Fits settings acts := by
  have hsynched : acts.Sublist settings.synchedActs →
      ∃ plan ∈ settings.plans, acts.Sublist plan := fun hacts => by
    obtain ⟨plan, hplan, hsub⟩ := settings.synchedActs_plan
    exact ⟨plan, hplan, hacts.trans hsub⟩
  have hfirst : [Act.startSync].Sublist settings.synchedActs :=
    List.Sublist.cons_cons _ (List.nil_sublist _)
  have hmessage : settings.messageActs.Sublist settings.registerActs :=
    List.sublist_append_left _ _
  have hregister : settings.registerActs.Sublist settings.addActs :=
    List.sublist_append_left _ _
  cases await with
  | nothing => exact h
  | initRuntime =>
      cases h
      exact hsynched (List.nil_sublist _)
  | workerAssignments =>
      cases h
      exact hsynched (List.nil_sublist _)
  | subscribeOnChainState =>
      cases h
      exact hsynched (List.nil_sublist _)
  | waitUntilSynched => exact hsynched (h.trans hfirst)
  | registerWorker caller await =>
      cases caller with
      | onSynched =>
          cases await with
          | workerAssignments => exact hsynched (h.2.trans hfirst)
          | workers assigned => exact hsynched (h.2.trans hfirst)
          | runtimeInfo assigned => exact hsynched (h.2.trans hfirst)
          | registering assigned => exact hsynched h.2
          | initialScore => exact h.elim
          | adding => exact h.elim
      | onPreActive =>
          cases await with
          | workerAssignments =>
              exact Settings.add_plan h.1 (h.2.trans (hmessage.trans hregister))
          | workers assigned =>
              exact Settings.add_plan h.1 (h.2.trans (hmessage.trans hregister))
          | runtimeInfo assigned =>
              exact Settings.add_plan h.1 (h.2.trans (hmessage.trans hregister))
          | registering assigned =>
              exact Settings.add_plan h.1 (h.2.trans hregister)
          | initialScore => exact Settings.add_plan h.1 (h.2.trans hregister)
          | adding => exact Settings.add_plan h.1 h.2
  | waitUntilMqSynched =>
      exact Settings.add_plan h.1 (h.2.trans (hmessage.trans hregister))
  | onChainState =>
      exact Settings.add_plan h.1 (h.2.trans (hmessage.trans hregister))
  | workerBindings => exact Settings.add_plan h.1 h.2
  | stakes => exact Settings.add_plan h.1 h.2
  | restarting => exact ⟨_, Settings.restart_plan h.1, h.2⟩
  | waitUntilWorkerReady => exact Settings.add_plan h.1 h.2.2
  | startComputing => exact ⟨_, Settings.start_plan h.1 h.2.1, h.2.2⟩

/-- The loops and what has been done stay. -/
structure Settled (before after : Worker) : Prop where
  settings : after.settings = before.settings
  acts : after.acts = before.acts
  sync : after.sync = before.sync
  message : after.message = before.message

namespace Settled

theorem enters (worker : Worker) (status : Status) (event : EVENTS) :
    Settled worker (worker.enters status event) := by
  unfold Worker.enters
  simp only
  split
  · exact ⟨rfl, rfl, rfl, rfl⟩
  · exact ⟨rfl, rfl, rfl, rfl⟩

end Settled

theorem throws_settled (worker : Worker) :
    Settled worker worker.throws ∧ worker.throws.await = .nothing := by
  have h := Settled.enters { worker with await := .nothing } .S_ERROR .ERROR
  exact ⟨⟨h.settings, h.acts, h.sync, h.message⟩,
    Worker.enters_await .S_ERROR .ERROR⟩

namespace PlanOk

theorem settled (h : PlanOk before) (hsettled : Settled before after)
    (fits : after.await.Fits before.settings (before.acts.filter Act.once))
    (synched : after.await.Synched → before.TargetReached)
    (fetched : after.await.Fetched → before.MessageResolved) :
    PlanOk after where
  fits := by rwa [hsettled.settings, hsettled.acts]
  synched := fun hcause => by
    rw [Worker.TargetReached, hsettled.sync]
    rcases hcause with hawait | hacts
    · exact synched hawait
    · exact h.synched (Or.inr (by rwa [← hsettled.acts]))
  fetched := fun hcause => by
    rw [Worker.MessageResolved, hsettled.message]
    rcases hcause with hawait | hacts
    · exact fetched hawait
    · exact h.fetched (Or.inr (by rwa [← hsettled.acts]))
  messages := by
    rw [hsettled.message, hsettled.acts]
    exact h.messages
  sent := by
    rw [hsettled.acts]
    exact h.sent

theorem same_await (h : PlanOk before) (hsettled : Settled before after)
    (hawait : after.await = before.await) : PlanOk after := by
  refine h.settled hsettled ?_ ?_ ?_
  · rw [hawait]
    exact h.fits
  · rw [hawait]
    exact fun hsynched => h.synched (Or.inl hsynched)
  · rw [hawait]
    exact fun hfetched => h.fetched (Or.inl hfetched)

theorem finished (h : PlanOk before) (hsettled : Settled before after)
    (hawait : after.await = .nothing) : PlanOk after := by
  refine h.settled hsettled ?_ ?_ ?_
  · rw [hawait]
    exact h.fits.nothing
  · rw [hawait]
    exact False.elim
  · rw [hawait]
    exact False.elim

theorem throws (h : PlanOk before) : PlanOk before.throws :=
  h.finished (throws_settled before).1 (throws_settled before).2

/-- One more transaction, that the message loop does not send. -/
theorem dispatches (h : PlanOk before) {action : TxAction} {await : Await}
    (haction : action ≠ .BATCH_SYNC_MQ_MESSAGE)
    (fits : await.Fits before.settings
      (before.acts.filter Act.once ++ [.dispatchTx action]))
    (synched : before.TargetReached)
    (fetched : await.Fetched ∨ action.Late → before.MessageResolved) :
    PlanOk (before.dispatchTx action await) where
  fits := by
    have honce : Act.once (.dispatchTx action) = true := by
      cases action with
      | BATCH_SYNC_MQ_MESSAGE => exact absurd rfl haction
      | _ => rfl
    simpa only [Worker.dispatchTx, List.filter_append, List.filter_cons, honce,
      if_true, List.filter_nil] using fits
  synched := fun _ => synched
  fetched := fun hcause => by
    rcases hcause with hawait | ⟨other, hlate, hmember⟩
    · exact fetched (Or.inl hawait)
    · rcases List.mem_append.mp hmember with hold | hnew
      · exact h.fetched (Or.inr ⟨other, hlate, hold⟩)
      · cases List.mem_singleton.mp hnew
        exact fetched (Or.inr hlate)
  messages := fun hmessage => List.mem_append_left _ (h.messages hmessage)
  sent := h.sent.append (Or.inl fun heq => haction (Act.dispatchTx.inj heq))

/-- `onSynched` behind the registration that may be forced. -/
theorem startMessages (h : PlanOk before)
    (hacts : (before.acts.filter Act.once).Sublist before.settings.synchedActs)
    (htarget : before.TargetReached) (findings : Findings) :
    PlanOk (before.startMessages findings) := by
  have hover : ∀ {after : Worker}, Settled before after →
      after.await = .nothing → PlanOk after := fun hsettled hawait => by
    refine h.settled hsettled ?_ ?_ ?_
    · rw [hawait]
      obtain ⟨plan, hplan, hsub⟩ := before.settings.synchedActs_plan
      exact ⟨plan, hplan, hacts.trans hsub⟩
    · rw [hawait]
      exact False.elim
    · rw [hawait]
      exact False.elim
  have hlate : ¬ ∃ action, TxAction.Late action ∧
      .dispatchTx action ∈ before.acts := by
    rintro ⟨action, haction, hmember⟩
    have honce : Act.once (.dispatchTx action) = true := by
      cases action with
      | BATCH_SYNC_MQ_MESSAGE => exact haction.elim
      | _ => rfl
    have := hacts.subset (List.mem_filter.mpr ⟨hmember, honce⟩)
    unfold Settings.synchedActs at this
    split at this
    · simp only [List.mem_cons, List.not_mem_nil, or_false, reduceCtorEq,
        Act.dispatchTx.injEq, false_or] at this
      subst this
      exact haction
    · simp at this
  unfold Worker.startMessages
  split
  · exact h.throws
  · exact hover ⟨rfl, rfl, rfl, rfl⟩ rfl
  · split
    · exact hover ⟨rfl, rfl, rfl, rfl⟩ rfl
    · next hsync =>
        have honce : Act.once .startSyncMessage = true := rfl
        exact
          { fits := by
              refine ⟨Bool.eq_false_iff.mpr hsync, ?_⟩
              simp only [List.filter_append, List.filter_cons, honce, if_true,
                List.filter_nil]
              exact hacts.append (List.Sublist.refl _)
            synched := fun _ => htarget
            fetched := fun hcause => by
              rcases hcause with hawait | ⟨action, haction, hmember⟩
              · exact hawait.elim
              · rcases List.mem_append.mp hmember with hold | hnew
                · exact absurd ⟨action, haction, hold⟩ hlate
                · cases List.mem_singleton.mp hnew
            messages := fun _ => List.mem_append_right _ (List.mem_singleton.mpr rfl)
            sent := h.sent.append (Or.inl (by simp)) }

theorem handle_synching (h : PlanOk before)
    (hawait : before.await = .subscribeOnChainState) (findings : Findings) :
    PlanOk (before.handle .SHOULD_MARK_SYNCHING findings) := by
  have hacts := h.fits
  rw [hawait] at hacts
  have hnone : ∀ act ∈ before.acts, act = .dispatchTx .BATCH_SYNC_MQ_MESSAGE := by
    intro act hmember
    have := List.filter_eq_nil_iff.mp hacts act hmember
    cases act with
    | dispatchTx action => cases action <;> simp_all [Act.once]
    | startSync => simp [Act.once] at this
    | startSyncMessage => simp [Act.once] at this
  have hempty : before.acts = [] := by
    cases hbefore : before.acts with
    | nil => rfl
    | cons act rest =>
        have hfirst := hnone act (by rw [hbefore]; exact List.mem_cons_self ..)
        have := h.sent [] rest (by rw [hbefore, hfirst]; rfl)
        cases this
  unfold Worker.handle
  split
  · next status hstatus =>
      obtain ⟨-, rfl⟩ := known_synching hstatus
      exact
        { fits := by
            simp only [Worker.act, Worker.onSynching, hempty, List.nil_append]
            exact List.Sublist.refl _
          synched := fun hcause => by
            rcases hcause with hsynched | ⟨act, hmember, hne⟩
            · exact hsynched.elim
            · simp [Worker.act, Worker.onSynching, hempty] at hmember
              exact absurd hmember hne
          fetched := fun hcause => by
            rcases hcause with hfetched | ⟨action, -, hmember⟩
            · exact hfetched.elim
            · simp [Worker.act, Worker.onSynching, hempty] at hmember
          messages := fun hmessage => by
            have := h.messages hmessage
            rw [hempty] at this
            cases this
          sent := h.sent.append (Or.inl (by simp)) }
  · exact h.throws

theorem handle_synched (h : PlanOk before)
    (hawait : before.await = .waitUntilSynched)
    (htarget : before.TargetReached) (findings : Findings) :
    PlanOk (before.handle .SHOULD_MARK_SYNCHED findings) := by
  have hacts := h.fits
  rw [hawait] at hacts
  unfold Worker.handle
  split
  · next status hstatus =>
      obtain ⟨-, rfl⟩ := known_synched hstatus
      simp only [Worker.act, Worker.onSynched]
      split
      · next hforce =>
          exact h.settled ⟨rfl, rfl, rfl, rfl⟩ ⟨hforce, hacts⟩ (fun _ => htarget)
            False.elim
      · have hentered :
            PlanOk (before.entered .S_SYNCHED .SHOULD_MARK_SYNCHED) :=
          h.same_await ⟨rfl, rfl, rfl, rfl⟩ rfl
        refine hentered.startMessages ?_ htarget findings
        exact hacts.trans (List.Sublist.cons_cons _ (List.nil_sublist _))
  · exact h.throws

theorem handle_active (h : PlanOk before) (findings : Findings) :
    PlanOk (before.handle .SHOULD_MARK_ACTIVE findings) := by
  unfold Worker.handle
  split
  · next status hstatus =>
      obtain ⟨-, rfl⟩ := known_active hstatus
      exact h.finished ⟨rfl, rfl, rfl, rfl⟩ rfl
  · exact h.throws

theorem handle_preActive (h : PlanOk before)
    (hawait : before.await = .waitUntilMqSynched)
    (hresolved : before.MessageResolved) (findings : Findings) :
    PlanOk (before.handle .SHOULD_MARK_PRE_ACTIVE findings) := by
  have hacts := h.fits
  rw [hawait] at hacts
  unfold Worker.handle
  split
  · next status hstatus =>
      obtain ⟨-, rfl⟩ := known_preActive hstatus
      refine h.settled ⟨rfl, rfl, rfl, rfl⟩ hacts (fun _ => ?_) fun _ => hresolved
      exact h.synched (Or.inl (by rw [hawait]; trivial))
  · exact h.throws

/-- `onPreActive` behind `registerWorker`. -/
theorem registered (h : PlanOk before) (hsync : before.settings.syncOnly = false)
    (hacts : (before.acts.filter Act.once).Sublist before.settings.addActs)
    (htarget : before.TargetReached) (hresolved : before.MessageResolved)
    (findings : Findings) : PlanOk (before.registered findings) := by
  unfold Worker.registered
  split
  · exact h.throws
  · exact h.settled ⟨rfl, rfl, rfl, rfl⟩ ⟨hsync, hacts⟩ (fun _ => htarget)
      fun _ => hresolved
  · split
    · exact h.handle_active findings
    · next hskip =>
        exact h.settled ⟨rfl, rfl, rfl, rfl⟩
          ⟨hsync, Bool.eq_false_iff.mpr hskip, hacts⟩ (fun _ => htarget)
          fun _ => hresolved

theorem addWorker (h : PlanOk before) (assigned : Bool)
    (hsync : before.settings.syncOnly = false)
    (hacts : (before.acts.filter Act.once).Sublist before.settings.registerActs)
    (htarget : before.TargetReached) (hresolved : before.MessageResolved)
    (findings : Findings) :
    PlanOk (before.addWorker .onPreActive assigned findings) := by
  unfold Worker.addWorker
  simp only
  split
  · exact h.registered hsync (hacts.trans (List.sublist_append_left _ _)) htarget
      hresolved findings
  · exact h.settled ⟨rfl, rfl, rfl, rfl⟩ ⟨hsync, hacts⟩ (fun _ => htarget)
      fun _ => hresolved

theorem registerWorker (h : PlanOk before) {caller : Caller}
    {await : RegisterAwait}
    (hawait : before.await = .registerWorker caller await)
    (taken : before.registerWorker caller findings await = some after) :
    PlanOk after := by
  have hacts := h.fits
  have htarget : before.TargetReached :=
    h.synched (Or.inl (by rw [hawait]; trivial))
  have hresolved : caller = .onPreActive → before.MessageResolved :=
    fun hcaller => h.fetched (Or.inl (by rw [hawait, hcaller]; trivial))
  rw [hawait] at hacts
  cases await with
  | workerAssignments =>
      simp only [Worker.registerWorker] at taken
      split at taken
      · cases taken
        exact h.throws
      · cases taken
        cases caller with
        | onSynched =>
            exact h.settled ⟨rfl, rfl, rfl, rfl⟩ hacts (fun _ => htarget)
              False.elim
        | onPreActive =>
            exact h.settled ⟨rfl, rfl, rfl, rfl⟩ hacts (fun _ => htarget)
              fun _ => hresolved rfl
  | workers assigned =>
      simp only [Worker.registerWorker] at taken
      split at taken
      · cases taken
        cases caller with
        | onSynched =>
            exact h.settled ⟨rfl, rfl, rfl, rfl⟩ hacts (fun _ => htarget)
              False.elim
        | onPreActive =>
            exact h.settled ⟨rfl, rfl, rfl, rfl⟩ hacts (fun _ => htarget)
              fun _ => hresolved rfl
      · next hnot =>
          cases taken
          cases caller with
          | onSynched => exact absurd (Or.inl rfl) hnot
          | onPreActive =>
              exact h.addWorker assigned hacts.1
                (hacts.2.trans (List.sublist_append_left _ _)) htarget
                (hresolved rfl) findings
  | runtimeInfo assigned =>
      cases taken
      cases caller with
      | onSynched =>
          refine h.dispatches (by decide) ⟨hacts.1, ?_⟩ htarget ?_
          · unfold Settings.synchedActs
            rw [if_pos hacts.1]
            exact hacts.2.append (List.Sublist.refl _)
          · rintro (hfetched | hlate)
            · exact hfetched.elim
            · exact hlate.elim
      | onPreActive =>
          exact h.dispatches (by decide)
            ⟨hacts.1, hacts.2.append (List.Sublist.refl _)⟩ htarget
            fun _ => hresolved rfl
  | initialScore =>
      simp only [Worker.registerWorker] at taken
      cases caller with
      | onSynched => exact hacts.elim
      | onPreActive =>
          split at taken
          · cases taken
            exact h.dispatches (by decide)
              ⟨hacts.1, hacts.2.append (List.Sublist.refl _)⟩ htarget
              fun _ => hresolved rfl
          · rw [← Option.some.inj taken]
            exact h
  | registering assigned => cases taken
  | adding => cases taken

theorem resumes (h : PlanOk before)
    (taken : before.resumes findings = some after) : PlanOk after := by
  have hacts := h.fits
  unfold Worker.resumes at taken
  split at taken
  · next hawait =>
      rw [hawait] at hacts
      split at taken
      · cases taken
        exact h.throws
      · cases taken
        exact h.settled ⟨rfl, rfl, rfl, rfl⟩ hacts False.elim False.elim
  · next hawait =>
      cases taken
      exact h.handle_synching hawait findings
  · next hawait =>
      obtain ⟨sync, hsync, taken⟩ := Option.bind_eq_some_iff.mp taken
      split at taken
      · contradiction
      · next target htarget =>
          cases taken
          exact h.handle_synched hawait ⟨sync, target, hsync, htarget⟩ findings
      · cases taken
        exact h.throws
  · next hawait => exact h.registerWorker hawait taken
  · next hawait =>
      obtain ⟨message, hmessage, taken⟩ := Option.bind_eq_some_iff.mp taken
      split at taken
      · contradiction
      · next hresolved =>
          cases taken
          exact h.handle_preActive hawait ⟨message, hmessage, hresolved⟩ findings
      · cases taken
        exact h.throws
  · next hawait =>
      rw [hawait] at hacts
      cases taken
      exact h.settled ⟨rfl, rfl, rfl, rfl⟩ hacts
        (fun _ => h.synched (Or.inl (by rw [hawait]; trivial)))
        fun _ => h.fetched (Or.inl (by rw [hawait]; trivial))
  · next hawait =>
      rw [hawait] at hacts
      cases taken
      exact h.settled ⟨rfl, rfl, rfl, rfl⟩ hacts
        (fun _ => h.synched (Or.inl (by rw [hawait]; trivial)))
        fun _ => h.fetched (Or.inl (by rw [hawait]; trivial))
  · next hawait =>
      rw [hawait] at hacts
      split at taken
      · cases taken
        exact h.dispatches (by decide)
          ⟨hacts.1, hacts.2.append (List.Sublist.refl _)⟩
          (h.synched (Or.inl (by rw [hawait]; trivial)))
          fun _ => h.fetched (Or.inl (by rw [hawait]; trivial))
      · cases taken
        exact h.handle_active findings
  · next hawait =>
      rw [hawait] at hacts
      split at taken
      · cases taken
        exact h.throws
      · cases taken
        exact h.dispatches (by decide)
          ⟨hacts.1, hacts.2.1, hacts.2.2.append (List.Sublist.refl _)⟩
          (h.synched (Or.inl (by rw [hawait]; trivial)))
          fun _ => h.fetched (Or.inl (by rw [hawait]; trivial))
      · rw [← Option.some.inj taken]
        exact h
  · contradiction
  · contradiction
  · contradiction
  · contradiction

theorem freed (h : PlanOk before) (task : Task) : PlanOk (before.freed task) :=
  h.same_await ⟨rfl, rfl, rfl, rfl⟩ rfl

theorem taskDone (h : PlanOk before)
    (taken : before.taskDone findings = some after) : PlanOk after := by
  have hacts := h.fits
  obtain ⟨task, htask, taken⟩ := Option.bind_eq_some_iff.mp taken
  have hfreed := h.freed task
  split at taken
  · split at taken
    · next hawait =>
        cases taken
        rw [hawait] at hacts
        exact h.settled ⟨rfl, rfl, rfl, rfl⟩ hacts False.elim False.elim
    · next caller assigned hawait =>
        cases taken
        rw [hawait] at hacts
        have htarget := hfreed.synched
          (Or.inl (by change before.await.Synched; rw [hawait]; trivial))
        cases caller with
        | onSynched => exact hfreed.startMessages hacts.2 htarget findings
        | onPreActive =>
            exact hfreed.addWorker assigned hacts.1 hacts.2 htarget
              (hfreed.fetched (Or.inl
                (by change before.await.Fetched; rw [hawait]; trivial))) findings
    · next caller hawait =>
        cases taken
        rw [hawait] at hacts
        cases caller with
        | onSynched => exact hacts.elim
        | onPreActive =>
            exact hfreed.registered hacts.1 hacts.2
              (hfreed.synched (Or.inl
                (by change before.await.Synched; rw [hawait]; trivial)))
              (hfreed.fetched (Or.inl
                (by change before.await.Fetched; rw [hawait]; trivial))) findings
    · cases taken
      exact hfreed.handle_active findings
  · cases taken

theorem taskFails (h : PlanOk before)
    (taken : before.taskFails = some after) : PlanOk after := by
  obtain ⟨task, htask, taken⟩ := Option.bind_eq_some_iff.mp taken
  split at taken
  · cases taken
    exact (h.freed task).throws
  · cases taken

/-- The message loop has moved, and its promise has kept an outcome. -/
theorem of_message (h : PlanOk before) {message next : MessageSync}
    (hmessage : before.message = some message)
    (hkept : message.synchedToTargetPromise = .resolved () →
      next.synchedToTargetPromise = .resolved ())
    (hsettings : after.settings = before.settings)
    (hawait : after.await = before.await) (hsync : after.sync = before.sync)
    (hnext : after.message = some next)
    (hacts : after.acts = before.acts ∨ after.acts =
      before.acts ++ [.dispatchTx .BATCH_SYNC_MQ_MESSAGE]) :
    PlanOk after := by
  have hstarted := h.messages (by rw [hmessage]; rfl)
  have honce : after.acts.filter Act.once = before.acts.filter Act.once := by
    rcases hacts with hsame | hsent
    · rw [hsame]
    · rw [hsent, List.filter_append]
      exact List.append_nil _
  have hmember : ∀ {action : TxAction}, action.Late →
      .dispatchTx action ∈ after.acts → .dispatchTx action ∈ before.acts := by
    intro action hlate hmember
    rcases hacts with hsame | hsent
    · rwa [← hsame]
    · rw [hsent] at hmember
      rcases List.mem_append.mp hmember with hold | hnew
      · exact hold
      · cases List.mem_singleton.mp hnew
        exact hlate.elim
  exact
    { fits := by
        rw [hawait, hsettings, honce]
        exact h.fits
      synched := fun hcause => by
        rw [Worker.TargetReached, hsync]
        rcases hcause with hsynched | _
        · exact h.synched (Or.inl (by rwa [← hawait]))
        · exact h.synched (Or.inr ⟨_, hstarted, by simp⟩)
      fetched := fun hcause => by
        rw [hawait] at hcause
        obtain ⟨old, hold, hresolved⟩ := h.fetched
          (hcause.imp_right fun ⟨action, hlate, hin⟩ =>
            ⟨action, hlate, hmember hlate hin⟩)
        cases Option.some.inj (hmessage.symm.trans hold)
        exact ⟨next, hnext, hkept hresolved⟩
      messages := fun _ => by
        rcases hacts with hsame | hsent
        · rwa [hsame]
        · rw [hsent]
          exact List.mem_append_left _ hstarted
      sent := by
        rcases hacts with hsame | hsent
        · rw [hsame]
          exact h.sent
        · rw [hsent]
          exact h.sent.append (Or.inr hstarted) }

theorem setMessage (h : PlanOk before)
    {change : MessageSync → Option MessageSync}
    (hkept : ∀ message next, change message = some next →
      message.synchedToTargetPromise = .resolved () →
        next.synchedToTargetPromise = .resolved ())
    (taken : before.setMessage change = some after) : PlanOk after := by
  obtain ⟨next, hnext, rfl⟩ := Option.map_eq_some_iff.mp taken
  obtain ⟨message, hmessage, hchange⟩ := Option.bind_eq_some_iff.mp hnext
  exact h.of_message hmessage (hkept message next hchange) rfl rfl rfl rfl
    (Or.inl rfl)

end PlanOk

theorem resumed_resolved {message : MessageSync}
    (h : message.synchedToTargetPromise = .resolved ()) :
    message.resumed.synchedToTargetPromise = .resolved () := by
  unfold MessageSync.resumed
  split
  · simp only [h]
    rfl
  · exact h

namespace PlanOk

theorem messagesFetched (h : PlanOk before) {empty : Bool}
    (taken : before.messagesFetched empty = some after) : PlanOk after := by
  obtain ⟨message, hmessage, taken⟩ := Option.bind_eq_some_iff.mp taken
  split at taken
  · cases taken
  · split at taken
    · obtain ⟨loop, -, rfl⟩ := Option.map_eq_some_iff.mp taken
      refine h.of_message hmessage (fun hresolved => resumed_resolved ?_) rfl rfl
        rfl rfl (Or.inl rfl)
      simp only [hresolved]
      rfl
    · split at taken
      · cases taken
        refine h.of_message hmessage ?_ rfl rfl rfl rfl (Or.inr rfl)
        exact fun hresolved => hresolved
      · cases taken

theorem messagesSent (h : PlanOk before) {failed : Bool}
    (taken : before.messagesSent failed = some after) : PlanOk after := by
  obtain ⟨message, hmessage, taken⟩ := Option.bind_eq_some_iff.mp taken
  split at taken
  · obtain ⟨next, hnext, rfl⟩ := Option.map_eq_some_iff.mp taken
    refine h.of_message hmessage (fun hresolved => ?_) rfl rfl rfl rfl
      (Or.inl rfl)
    split at hnext
    · obtain ⟨loop, -, rfl⟩ := Option.map_eq_some_iff.mp hnext
      exact hresolved
    · obtain ⟨loop, -, rfl⟩ := Option.map_eq_some_iff.mp hnext
      exact resumed_resolved hresolved
  · cases taken

/-- The first target is reached once and for all. -/
theorem sync (h : PlanOk before) (hok : WorkerOk before) {event : SyncEvent}
    {sync next : SyncState} (hsync : before.sync = some sync)
    (hstep : sync.step event = some next) :
    PlanOk { before with sync := some next } where
  fits := h.fits
  synched := fun hcause => by
    obtain ⟨old, target, hold, htarget⟩ := h.synched hcause
    cases Option.some.inj (hsync.symm.trans hold)
    have hkept := (sync_effect (hok.sync sync hsync) hstep).settled
      (by rw [htarget]; rfl)
    exact ⟨next, target, rfl, hkept.trans htarget⟩
  fetched := h.fetched
  messages := h.messages
  sent := h.sent

theorem endDestroy (h : PlanOk before)
    (taken : before.endDestroy = some after) : PlanOk after := by
  unfold Worker.endDestroy at taken
  split at taken
  · cases taken
  · cases taken
    exact
      { fits := h.fits
        synched := fun hcause => by
          obtain ⟨old, target, hold, htarget⟩ := h.synched hcause
          exact ⟨old.stopSync, target, by simp [hold], htarget⟩
        fetched := fun hcause => by
          obtain ⟨old, hold, hresolved⟩ := h.fetched hcause
          refine ⟨old.stopSyncMessage, by simp [hold], ?_⟩
          rw [MessageSync.stopSyncMessage, hresolved]
          rfl
        messages := fun hmessage => h.messages (by simpa using hmessage)
        sent := h.sent }

theorem step (h : PlanOk before) (hok : WorkerOk before) {event : WorkerEvent}
    (taken : before.step event = some after) : PlanOk after := by
  cases event with
  | resumes findings => exact h.resumes taken
  | awaitFails =>
      rw [Worker.awaitFails_eq before taken]
      exact h.throws
  | taskDone findings => exact h.taskDone taken
  | taskFails => exact h.taskFails taken
  | sync event =>
      obtain ⟨sync, hsync, hstep⟩ := Option.bind_eq_some_iff.mp taken
      obtain ⟨next, hnext, rfl⟩ := Option.map_eq_some_iff.mp hstep
      exact h.sync hok hsync hnext
  | messagePolls =>
      refine h.setMessage (fun message next hchange hresolved => ?_) taken
      unfold MessageSync.polls at hchange
      split at hchange
      · obtain ⟨loop, -, rfl⟩ := Option.map_eq_some_iff.mp hchange
        exact hresolved
      · cases hchange
  | messagesFetched empty => exact h.messagesFetched taken
  | fetchFails =>
      refine h.setMessage (fun message next hchange hresolved => ?_) taken
      split at hchange
      · cases hchange
      · obtain ⟨loop, -, rfl⟩ := Option.map_eq_some_iff.mp hchange
        exact hresolved
  | messagesSent failed => exact h.messagesSent taken
  | messageRecovers =>
      refine h.setMessage (fun message next hchange hresolved => ?_) taken
      obtain ⟨loop, -, rfl⟩ := Option.map_eq_some_iff.mp hchange
      exact resumed_resolved hresolved
  | updateInfoFails =>
      simp only [Worker.step, Worker.updateInfoFails] at taken
      split at taken
      · cases taken
        have hnext : PlanOk { before with updateInfoLoop := false } :=
          h.same_await ⟨rfl, rfl, rfl, rfl⟩ rfl
        exact hnext.same_await (Settled.enters _ _ _)
          (Worker.enters_await .S_ERROR .ERROR)
      · cases taken
  | restart =>
      cases taken
      exact h.same_await ⟨rfl, rfl, rfl, rfl⟩ rfl
  | kick =>
      cases taken
      exact h.same_await (Settled.enters _ _ _)
        (Worker.enters_await .S_KICKED .SHOULD_KICK)
  | endDestroy => exact h.endDestroy taken

theorem create (settings : Settings) : PlanOk (.create settings) where
  fits := rfl
  synched := by
    rintro (hsynched | ⟨act, hmember, -⟩)
    · exact hsynched.elim
    · cases hmember
  fetched := by
    rintro (hfetched | ⟨action, -, hmember⟩)
    · exact hfetched.elim
    · cases hmember
  messages := fun hmessage => by cases hmessage
  sent := fun front back hacts => by
    cases front <;> cases hacts

theorem reachable (h : (worker settings).Reachable after) : PlanOk after := by
  have hboth := @Machine.Preserves.reaches _ _ (worker settings)
    Machine.anyEvent (fun worker => WorkerOk worker ∧ PlanOk worker) after
    (fun _ _ _ _ hbefore taken =>
      ⟨workerOk_step hbefore.1 taken, step hbefore.2 hbefore.1 taken⟩)
    ⟨workerOk_create settings, create settings⟩ h
  exact hboth.2

end PlanOk

/-- What a context has done is in the order of a plan; nothing but the sync loops
is begun before their first target, and no worker is added or started before the
message loop has found nothing to send. -/
structure FollowsPlan (worker : Worker) : Prop where
  plan : ∃ plan ∈ worker.settings.plans,
    (worker.acts.filter Act.once).Sublist plan
  synched : ∀ act ∈ worker.acts, act ≠ .startSync → worker.TargetReached
  sent : SentMessages worker.acts
  fetched : ∀ action, action.Late → .dispatchTx action ∈ worker.acts →
    worker.MessageResolved

theorem worker_follows_plan (settings : Settings) (state : Worker)
    (reached : (worker settings).Reachable state) : FollowsPlan state := by
  have h := PlanOk.reachable reached
  exact
    { plan := h.fits.nothing
      synched := fun act hmember hne => h.synched (Or.inr ⟨act, hmember, hne⟩)
      sent := h.sent
      fetched := fun action hlate hmember =>
        h.fetched (Or.inr ⟨action, hlate, hmember⟩) }

/-- A new worker is added and started. -/
def startedRun : List WorkerEvent :=
  let findings := plainFindings (some heights)
  startingRun (some heights) ++
    [.sync (.polls .main), .sync (.headersSynched .main 5 10),
      .sync (.polls .main), .sync (.dispatched .main 10), .resumes findings,
      .messagePolls, .messagesFetched true] ++
    List.replicate 5 (.resumes findings) ++
    [.taskDone findings, .resumes findings, .taskDone findings]

theorem worker_follows_started :
    ((worker plainSettings).ended startedRun).status = .S_ACTIVE ∧
      ((worker plainSettings).ended startedRun).acts =
        [.startSync, .startSyncMessage, .dispatchTx .ADD_WORKER,
          .dispatchTx .START_COMPUTING] ∧
      FollowsPlan ((worker plainSettings).ended startedRun) :=
  ⟨by decide, by decide, worker_follows_plan plainSettings _
    (Machine.reachable_ended (by decide))⟩

end RuntimeBridge.Lifecycle
