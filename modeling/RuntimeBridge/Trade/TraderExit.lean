import RuntimeBridge.Trade.Answers

/-! What the exit of the trader process leaves behind.  No handler ever
registers a batch as active, so `#onProcessExited` rejects nothing and sends
nothing again. -/

namespace RuntimeBridge.Trade

open Library

namespace State

def drain : List Message → State → State
  | [], state => state
  | message :: rest, state =>
      drain rest
        (State.handleProcessMessage { state with toManager := rest } message)

/-- The messages that were still on their way have arrived. -/
def drained (state : State) : State :=
  drain state.toManager state

def Settled (state : State) (id : Nat) : Prop :=
  (state.batches id).addedPromise.isSettled = true ∧
    (state.batches id).startedPromise.isSettled = true ∧
    (state.batches id).finishedPromise.isSettled = true

/-- The end of the batch is known, or the message about it is on its way. -/
def Answered (state : State) (id : Nat) : Prop :=
  (state.batches id).finishedPromise.isSettled = true ∨
    ∃ message ∈ state.toManager, message.Ends id

def AnsweredBy (state : State) (kept : Nat) : Prop :=
  ∀ payload ∈ state.sent,
    (state.batches payload.id).finishedPromise.isSettled = true ∨
      ∃ message ∈ state.toManager.take kept, message.Ends payload.id

end State

/-- The batches that were sent before are settled or sent again, and none of
them holds the slot of the manager. -/
structure Recovered (before after : State) : Prop where
  batches : ∀ payload ∈ before.sent,
    (before.batches payload.id).finishedPromise.isSettled = false →
      after.Settled payload.id ∨
        before.sent.count payload < after.sent.count payload
  slot : after.awaitingAdded = true → ∀ payload ∈ before.sent,
    payload.ref ∈ after.addQueue.running →
      before.sent.count payload < after.sent.count payload

def exitsAnswered (state : State) (event : Event) : Prop :=
  ∀ kept, event = .exit kept → state.AnsweredBy kept

variable {state before after later : State} {payload : Payload} {id kept : Nat}

namespace State

theorem finished_handleProcessMessage {message : Message}
    (registered : id ∈ state.batchJobs) :
    ((state.handleProcessMessage message).batches
        id).finishedPromise.isSettled = true ↔
      (state.batches id).finishedPromise.isSettled = true ∨
        message.Ends id := by
  have hsame : ∀ (number : Nat) (batch : Batch),
      batch.finishedPromise = (state.batches number).finishedPromise →
        (((state.setBatch number batch).batches
            id).finishedPromise.isSettled = true ↔
          (state.batches id).finishedPromise.isSettled = true) := by
    intro number batch same
    rw [setBatch, update_field Batch.finishedPromise same]
  cases message with
  | online => simp [handleProcessMessage, Message.Ends]
  | added number =>
      simp only [handleProcessMessage, onBatchJobAdded, Message.Ends, or_false]
      have hset := hsame number { state.batches number with
        addedPromise := (state.batches number).addedPromise.resolve () } rfl
      split
      · split
        · split
          · exact hset
          · exact hset
        · exact hset
      · exact Iff.rfl
  | working number =>
      simp only [handleProcessMessage, onBatchJobWorking, Message.Ends,
        or_false]
      split
      · exact hsame _ _ rfl
      · exact Iff.rfl
  | finished number failedCalls =>
      simp only [handleProcessMessage, onBatchJobFinished, Message.Ends]
      by_cases heq : number = id
      · subst heq
        simp [if_pos registered, setBatch]
      · have hne : id ≠ number := Ne.symm heq
        split
        · simp [setBatch, hne, heq]
        · simp [heq]
  | failed number error =>
      simp only [handleProcessMessage, onBatchJobFailed, Message.Ends]
      by_cases heq : number = id
      · subst heq
        simp [if_pos registered, setBatch]
      · have hne : id ≠ number := Ne.symm heq
        split
        · simp [setBatch, hne, heq]
        · simp [heq]

theorem finished_drain (messages : List Message)
    (registered : id ∈ state.batchJobs) :
    ((state.drain messages).batches id).finishedPromise.isSettled = true ↔
      (state.batches id).finishedPromise.isSettled = true ∨
        ∃ message ∈ messages, message.Ends id := by
  induction messages generalizing state with
  | nil => simp [drain]
  | cons message rest ih =>
      obtain ⟨_, _, _, _, _, hframe⟩ :=
        handleProcessMessage_frame { state with toManager := rest } message
      have hregistered : id ∈ (handleProcessMessage
          { state with toManager := rest } message).batchJobs := by
        rw [hframe]
        exact registered
      have hhandle := @finished_handleProcessMessage
        { state with toManager := rest } id message registered
      rw [drain, ih hregistered, hhandle]
      simp [or_assoc]

theorem sent_drain (messages : List Message) :
    (state.drain messages).sent = state.sent := by
  induction messages generalizing state with
  | nil => rfl
  | cons message rest ih =>
      obtain ⟨_, _, _, _, _, hframe⟩ :=
        handleProcessMessage_frame { state with toManager := rest } message
      rw [drain, ih, hframe]

theorem reachable_drained (reached : pipeline.Reachable state) :
    pipeline.Reachable state.drained := by
  suffices hdrain : ∀ messages : List Message, ∀ state : State,
      state.toManager = messages → pipeline.Reachable state →
        pipeline.Reachable (state.drain messages) from
    hdrain _ _ rfl reached
  intro messages
  induction messages with
  | nil =>
      intro state _ reached
      exact reached
  | cons message rest ih =>
      intro state messages reached
      obtain ⟨_, _, _, _, _, hframe⟩ :=
        handleProcessMessage_frame { state with toManager := rest } message
      refine ih _ (by rw [hframe]) (reached.leads (Machine.Next.leads
        ⟨.deliverToManager, True.intro, ?_⟩))
      simp [pipeline, step, deliverToManager, messages]

end State

theorem AnswerOk.registered_of_sent (h : AnswerOk state)
    (member : payload ∈ state.sent) : payload.id ∈ state.batchJobs := by
  rw [h.registered]
  exact List.mem_map_of_mem member

theorem settled_drained (reached : pipeline.Reachable state)
    (member : payload ∈ state.sent) (answered : state.Answered payload.id) :
    state.drained.Settled payload.id := by
  have hregistered := (answerOk_reachable reached).registered_of_sent member
  have hfinished := (State.finished_drain state.toManager hregistered).mpr
    answered
  obtain ⟨hstarted, hadded⟩ :=
    (answerOk_reachable (State.reachable_drained reached)).settled _ hfinished
  exact ⟨hadded, hstarted, hfinished⟩

theorem recovered_of_answered (reached : pipeline.Reachable later)
    (answered : ∀ payload ∈ before.sent,
      payload ∈ later.sent ∧ later.Answered payload.id) :
    Recovered before later.drained where
  batches := fun payload member _ =>
    Or.inl (settled_drained reached (answered payload member).1
      (answered payload member).2)
  slot := fun hwait payload member running => by
    obtain ⟨hsent, hanswered⟩ := answered payload member
    have hok := answerOk_reachable (State.reachable_drained reached)
    have hpending := (hok.awaited hwait payload.ref running).2
    have hsettled := (settled_drained reached hsent hanswered).1
    exact absurd (hsettled.symm.trans hpending) (by simp)

theorem answered_step (manager : ManagerOk state) (ok : AnswerOk state)
    {event : Event} (admitted : exitsAnswered state event)
    (taken : step state event = some after) (member : payload ∈ state.sent)
    (answered : state.Answered payload.id) :
    payload ∈ after.sent ∧ after.Answered payload.id := by
  have hgrown : ∀ messages added : List Message,
      (∃ message ∈ messages, message.Ends payload.id) →
        ∃ message ∈ messages ++ added, message.Ends payload.id :=
    fun messages added ⟨message, hmessage, hends⟩ =>
      ⟨message, List.mem_append_left _ hmessage, hends⟩
  cases event with
  | addJob job =>
      cases taken
      obtain ⟨_, _, _, _, _, _, hframe, -, hkept⟩ := state.addJob_frame job
      rw [hframe]
      refine ⟨member, answered.imp_left fun hsettled => ?_⟩
      rcases hkept payload.id with hsame | ⟨hnew, -⟩
      · exact (congrArg Promise.isSettled hsame.finished).trans hsettled
      · exact absurd hnew (Nat.ne_of_lt (manager.sent_lt member))
  | timeout ref =>
      obtain ⟨-, rfl⟩ := State.timeout_cases taken
      obtain ⟨_, _, _, hframe, -, hsame⟩ := state.commit_frame ref
      rw [hframe]
      exact ⟨member, answered.imp_left fun hsettled =>
        (congrArg Promise.isSettled (hsame payload.id).finished).trans
          hsettled⟩
  | dequeue pid =>
      obtain ⟨_, _, -, -, rfl⟩ := State.dequeue_cases taken
      exact ⟨member, answered⟩
  | addBatch =>
      obtain ⟨ref, _, -, -, -, -, -, rfl⟩ := State.addBatch_cases manager taken
      refine ⟨List.mem_append_left _ member, answered.imp_left ?_⟩
      intro hsettled
      by_cases heq : payload.id = ref.id
      · rw [heq] at hsettled ⊢
        simpa [State.setBatch] using hsettled
      · simpa [State.setBatch, heq] using hsettled
  | deliverToTrader =>
      obtain ⟨first, rest, -, -, rfl⟩ := State.deliverToTrader_cases taken
      obtain ⟨_, _, _, _, _, hframe⟩ := State.traderAddBatchJob_frame
        { state with toTrader := rest } first
      rw [hframe]
      exact ⟨member, answered.imp_right (hgrown _ _)⟩
  | doAddJobSettles settled =>
      obtain ⟨-, ⟨started, -, rfl⟩ | ⟨-, rfl⟩⟩ :=
        State.doAddJobSettles_cases taken
      · obtain ⟨_, _, _, hframe⟩ := State.enterProcess_frame { state with
          traderAddQueue := (state.traderAddQueue.finish settled).1
          toManager := state.toManager ++ [.added started.id] } started
        simp only [State.doAddJob, hframe]
        exact ⟨member, answered.imp_right (hgrown _ _)⟩
      · exact ⟨member, answered⟩
  | reportWorking working =>
      obtain ⟨-, rfl⟩ := State.reportWorking_cases taken
      exact ⟨member, answered.imp_right (hgrown _ _)⟩
  | processBatchEnds ended outcome =>
      obtain ⟨-, rfl⟩ := State.processBatchEnds_cases taken
      exact ⟨member, answered.imp_right (hgrown _ _)⟩
  | sendSlotFreed freed =>
      obtain ⟨-, ⟨_, -, rfl⟩ | ⟨-, rfl⟩⟩ := State.sendSlotFreed_cases taken
      · exact ⟨member, answered⟩
      · exact ⟨member, answered⟩
  | deliverToManager =>
      obtain ⟨message, rest, hmessages, rfl⟩ :=
        State.deliverToManager_cases taken
      have hregistered := ok.registered_of_sent member
      have hhandle := @State.finished_handleProcessMessage
        { state with toManager := rest } payload.id message hregistered
      obtain ⟨_, _, _, _, _, hframe⟩ := State.handleProcessMessage_frame
        { state with toManager := rest } message
      rw [hframe] at hhandle ⊢
      refine ⟨member, ?_⟩
      rcases answered with hsettled | ⟨other, hother, hends⟩
      · exact Or.inl (hhandle.mpr (Or.inl hsettled))
      · rw [hmessages] at hother
        rcases List.mem_cons.mp hother with rfl | hrest
        · exact Or.inl (hhandle.mpr (Or.inr hends))
        · exact Or.inr ⟨other, hrest, hends⟩
  | traderBoots =>
      obtain ⟨-, rfl⟩ := State.traderBoots_cases taken
      exact ⟨member, answered.imp_right (hgrown _ _)⟩
  | exit kept =>
      cases taken
      rw [State.processExits_eq manager]
      exact ⟨member, admitted kept rfl payload member⟩

/-- An exit is got over exactly when every sent batch is answered, and a run
with such exits only gets over all of them. -/
theorem exit_recovers (reached : pipeline.Reachable before)
    (exited : pipeline.step before (.exit kept) = some after) :
    (Recovered before after.drained ↔ before.AnsweredBy kept) ∧
      (before.AnsweredBy kept → ∀ later,
        pipeline.Leads exitsAnswered after later →
          Recovered before later.drained) := by
  have hafter : pipeline.Reachable after := reached.leads
    (Machine.Next.leads ⟨.exit kept, True.intro, exited⟩)
  have hmanager := managerOk_reachable reached
  have heq : after = { before.processGone kept with status := .starting } := by
    cases exited
    exact State.processExits_eq hmanager kept
  have hrun : before.AnsweredBy kept → ∀ later,
      pipeline.Leads exitsAnswered after later →
        Recovered before later.drained := by
    intro answered later leads
    have hkept : pipeline.Preserves exitsAnswered fun state =>
        (ManagerOk state ∧ AnswerOk state) ∧ ∀ payload ∈ before.sent,
          payload ∈ state.sent ∧ state.Answered payload.id := by
      rintro state event next admitted ⟨ok, answered⟩ taken
      refine ⟨answerOk_step state event next True.intro ok taken, ?_⟩
      intro payload member
      exact answered_step ok.1 ok.2 admitted taken (answered payload member).1
        (answered payload member).2
    have hstart : ∀ payload ∈ before.sent,
        payload ∈ after.sent ∧ after.Answered payload.id := by
      intro payload member
      rw [heq]
      exact ⟨member, answered payload member⟩
    have hlater := hkept.leads
      ⟨⟨managerOk_reachable hafter, answerOk_reachable hafter⟩, hstart⟩ leads
    have hreached : pipeline.Reachable later := hafter.leads
      (Machine.Leads.mono (fun _ _ _ => True.intro) leads)
    exact recovered_of_answered hreached hlater.2
  refine ⟨⟨?_, fun answered => hrun answered after .refl⟩, hrun⟩
  intro recovered payload member
  by_cases hsettled :
      (before.batches payload.id).finishedPromise.isSettled = true
  · exact Or.inl hsettled
  · rcases recovered.batches payload member (by simpa using hsettled) with
      hfinished | hagain
    · have hregistered : payload.id ∈ after.batchJobs := by
        rw [heq]
        exact (answerOk_reachable reached).registered_of_sent member
      have hanswered :=
        (State.finished_drain after.toManager hregistered).mp hfinished.2.2
      rw [heq] at hanswered
      exact hanswered
    · rw [State.drained, State.sent_drain, heq] at hagain
      exact absurd hagain (Nat.lt_irrefl _)

def sentRun : List Event :=
  [.traderBoots, .deliverToManager,
    .addJob { id := 1, pid := 7, calls := [[.property "phalaMq"]] },
    .timeout { id := 0, pid := 7 }, .dequeue 7, .addBatch]

def answeredRun : List Event :=
  let payload : Payload :=
    { id := 0, pid := 7, calls := [[.property "phalaMq"]] }
  sentRun ++ [.deliverToTrader, .reportWorking payload,
    .processBatchEnds payload (.finished []), .deliverToManager,
    .deliverToManager, .deliverToManager]

theorem exit_recovers_answeredRun :
    Recovered (pipeline.ended answeredRun)
      ((pipeline.ended answeredRun).processExits 0).drained := by
  have hreached : pipeline.Reachable (pipeline.ended answeredRun) :=
    Machine.reachable_ended (by decide)
  refine (exit_recovers hreached rfl).1.mpr fun payload member => Or.inl ?_
  have hsent : (pipeline.ended answeredRun).sent =
      [{ id := 0, pid := 7, calls := [[.property "phalaMq"]] }] := by decide
  rw [hsent] at member
  cases List.mem_singleton.mp member
  decide

/-- The process exits before it acknowledges the batch. -/
theorem exit_hangs_sentRun :
    ¬ ∀ before kept after, pipeline.Reachable before →
      pipeline.step before (.exit kept) = some after →
        Recovered before after.drained := by
  intro h
  have hrecovered := h (pipeline.ended sentRun) 0 _
    (Machine.reachable_ended (by decide)) rfl
  have hagain := hrecovered.slot (by decide)
    { id := 0, pid := 7, calls := [[.property "phalaMq"]] } (by decide)
    (by decide)
  exact absurd hagain (by decide)

end RuntimeBridge.Trade
