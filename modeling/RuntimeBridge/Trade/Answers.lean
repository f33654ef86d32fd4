import RuntimeBridge.Library.Ordered
import RuntimeBridge.Trade.SendOrder

/-! What the trader reports about a batch, and what the manager has made of it:
a batch is acknowledged before it is started, and started before it ends. -/

namespace RuntimeBridge.Trade

open Library

namespace State

variable (state : State)

/-- With the messages of `left` delivered, the batch is acknowledged. -/
def Added (left : List Message) (id : Nat) : Prop :=
  (state.batches id).addedPromise.isSettled = true ∨ .added id ∈ left

def Started (left : List Message) (id : Nat) : Prop :=
  (state.batches id).startedPromise.isSettled = true ∨ .working id ∈ left

/-- What must have been sent before a message. -/
def Allowed (left : List Message) : Message → Prop
  | .online => True
  | .added id => id ∈ state.batchJobs
  | .working id => id ∈ state.batchJobs ∧ state.Added left id
  | .finished id _ =>
      id ∈ state.batchJobs ∧ state.Added left id ∧ state.Started left id
  | .failed id _ => id ∈ state.batchJobs ∧ state.Added left id

/-- The trader has acknowledged the batch and holds it for its execution. -/
def InTrader (payload : Payload) : Prop :=
  (payload ∈ state.processQueue.running ∨
    payload ∈ state.processQueue.waiting) ∨
  ∃ pid, payload ∈ (state.poolQueues pid).running ∨
    payload ∈ (state.poolQueues pid).waiting

/-- The batch has yet to be acknowledged. -/
def OnWay (payload : Payload) : Prop :=
  payload ∈ state.toTrader ∨ payload ∈ state.traderAddQueue.running ∨
    payload ∈ state.traderAddQueue.waiting

end State

structure AnswerOk (state : State) : Prop where
  registered : state.batchJobs = state.sent.map (·.id)
  unsent : ∀ id, id ∉ state.batchJobs →
    (state.batches id).finishedPromise.isSettled = false
  settled : ∀ id, (state.batches id).finishedPromise.isSettled = true →
    (state.batches id).startedPromise.isSettled = true ∧
      (state.batches id).addedPromise.isSettled = true
  awaited : state.awaitingAdded = true → ∀ ref ∈ state.addQueue.running,
    ref.id ∈ state.batchJobs ∧
      (state.batches ref.id).addedPromise.isSettled = false
  messages : Ordered state.Allowed state.toManager
  onWay : ∀ payload, state.OnWay payload → payload.id ∈ state.batchJobs
  inTrader : ∀ payload, state.InTrader payload →
    payload.id ∈ state.batchJobs ∧ state.Added state.toManager payload.id
  reported : ∀ id ∈ state.reported,
    id ∈ state.batchJobs ∧ state.Started state.toManager id

variable {state after : State} {payload other : Payload} {ref : BatchRef}

namespace State

theorem Added.mono {left right : List Message} {id : Nat}
    (grown : ∀ message ∈ left, message ∈ right) (h : state.Added left id) :
    state.Added right id :=
  h.imp_right (grown _)

theorem Started.mono {left right : List Message} {id : Nat}
    (grown : ∀ message ∈ left, message ∈ right) (h : state.Started left id) :
    state.Started right id :=
  h.imp_right (grown _)

theorem InTrader.of_enterPool
    (h : (state.enterPool payload).InTrader other) :
    state.InTrader other ∨ other = payload := by
  rcases h with hprocess | ⟨pid, hpool⟩
  · exact Or.inl (Or.inl hprocess)
  · simp only [enterPool] at hpool
    by_cases heq : pid = payload.pid
    · subst heq
      rw [Function.update_self] at hpool
      rcases PQueue.mem_of_mem_add hpool with hsame | hold
      · exact Or.inr hsame
      · exact Or.inl (Or.inr ⟨_, hold⟩)
    · rw [Function.update_of_ne heq] at hpool
      exact Or.inl (Or.inr ⟨pid, hpool⟩)

theorem InTrader.of_enterProcess
    (h : (state.enterProcess payload).InTrader other) :
    state.InTrader other ∨ other = payload := by
  have hqueued : ∀ held : Payload,
      State.InTrader { state with
          processQueue := (state.processQueue.add payload).1 } held →
        state.InTrader held ∨ held = payload := by
    intro held hheld
    rcases hheld with hprocess | hpool
    · rcases PQueue.mem_of_mem_add hprocess with hsame | hold
      · exact Or.inr hsame
      · exact Or.inl (Or.inl hold)
    · exact Or.inl (Or.inr hpool)
  simp only [enterProcess] at h
  split at h
  · next started hstarted =>
      rw [PQueue.add_started hstarted] at h
      rcases InTrader.of_enterPool h with hheld | hsame
      · exact hqueued other hheld
      · exact Or.inr hsame
  · exact hqueued other h

end State

namespace AnswerOk

theorem trader (h : AnswerOk state) {toTrader : List Payload}
    {toManager : List Message} {traderOnline : Bool}
    {traderAddQueue processQueue : PQueue Payload}
    {poolQueues : Nat → PQueue Payload} {reported : List Nat}
    {started ended : List Payload}
    (messages : Ordered state.Allowed toManager)
    (onWay : ∀ payload, State.OnWay { state with toTrader, traderAddQueue }
      payload → payload.id ∈ state.batchJobs)
    (inTrader : ∀ payload,
      State.InTrader { state with processQueue, poolQueues } payload →
        payload.id ∈ state.batchJobs ∧ state.Added toManager payload.id)
    (reports : ∀ id ∈ reported,
      id ∈ state.batchJobs ∧ state.Started toManager id) :
    AnswerOk { state with
      toTrader, toManager, traderOnline, traderAddQueue, processQueue,
      poolQueues, reported, started, ended } where
  registered := h.registered
  unsent := h.unsent
  settled := h.settled
  awaited := h.awaited
  messages := messages
  onWay := onWay
  inTrader := inTrader
  reported := reports

theorem report (h : AnswerOk state) {message : Message}
    (allowed : state.Allowed state.toManager message) :
    AnswerOk { state with toManager := state.toManager ++ [message] } :=
  h.trader (h.messages.concat allowed) h.onWay
    (fun payload held => ⟨(h.inTrader payload held).1,
      (h.inTrader payload held).2.mono fun _ => List.mem_append_left _⟩)
    fun number member => (h.reported number member).imp_right
      (State.Started.mono fun _ => List.mem_append_left _)

theorem enterPool (h : AnswerOk state)
    (registered : payload.id ∈ state.batchJobs)
    (added : state.Added state.toManager payload.id) :
    AnswerOk (state.enterPool payload) := by
  refine h.trader h.messages h.onWay ?_ h.reported
  intro other held
  rcases @State.InTrader.of_enterPool state payload other held with hold | rfl
  · exact h.inTrader other hold
  · exact ⟨registered, added⟩

theorem enterProcess (h : AnswerOk state)
    (registered : payload.id ∈ state.batchJobs)
    (added : state.Added state.toManager payload.id) :
    AnswerOk (state.enterProcess payload) := by
  have hheld := fun other => @State.InTrader.of_enterProcess state payload other
  obtain ⟨_, _, _, hframe⟩ := State.enterProcess_frame state payload
  rw [hframe] at hheld ⊢
  refine h.trader h.messages h.onWay ?_ h.reported
  intro other held
  rcases hheld other held with hold | rfl
  · exact h.inTrader other hold
  · exact ⟨registered, added⟩

theorem doAddJob (h : AnswerOk state)
    (registered : payload.id ∈ state.batchJobs) :
    AnswerOk (state.doAddJob payload) :=
  (@AnswerOk.report state h (.added payload.id) registered).enterProcess
    registered (Or.inr (by simp))

theorem setAddQueue (h : AnswerOk state) {toTrader : List Payload}
    {traderAddQueue : PQueue Payload}
    (onWay : ∀ payload, State.OnWay { state with toTrader, traderAddQueue }
      payload → payload.id ∈ state.batchJobs) :
    AnswerOk { state with toTrader, traderAddQueue } :=
  h.trader h.messages onWay h.inTrader h.reported

theorem deliverToTrader (h : AnswerOk state)
    (taken : state.deliverToTrader = some after) : AnswerOk after := by
  obtain ⟨payload, rest, -, hmessages, rfl⟩ := State.deliverToTrader_cases taken
  have hregistered : payload.id ∈ state.batchJobs :=
    h.onWay payload (Or.inl (by rw [hmessages]; simp))
  have hqueued : AnswerOk { state with
      toTrader := rest
      traderAddQueue := (state.traderAddQueue.add payload).1 } := by
    apply h.setAddQueue
    intro other held
    rcases held with hsent | hqueue
    · exact h.onWay other
        (Or.inl (by rw [hmessages]; exact List.mem_cons_of_mem _ hsent))
    · rcases PQueue.mem_of_mem_add hqueue with rfl | hold
      · exact hregistered
      · exact h.onWay other (Or.inr hold)
  simp only [State.traderAddBatchJob]
  split
  · next started hstarted =>
      rw [PQueue.add_started hstarted]
      exact hqueued.doAddJob hregistered
  · exact hqueued

theorem doAddJobSettles (h : AnswerOk state)
    (taken : state.doAddJobSettles payload = some after) : AnswerOk after := by
  have hqueued : AnswerOk { state with
      traderAddQueue := (state.traderAddQueue.finish payload).1 } := by
    have hset := @AnswerOk.setAddQueue state h state.toTrader
      (state.traderAddQueue.finish payload).1
    apply hset
    intro other held
    exact h.onWay other (held.imp_right PQueue.mem_of_mem_finish)
  obtain ⟨-, ⟨started, hstarted, rfl⟩ | ⟨-, rfl⟩⟩ :=
    State.doAddJobSettles_cases taken
  · refine hqueued.doAddJob (h.onWay started (Or.inr (Or.inr ?_)))
    rw [← state.traderAddQueue.finish_fifo payload, hstarted]
    simp
  · exact hqueued

theorem reportWorking (h : AnswerOk state)
    (taken : state.reportWorking payload = some after) : AnswerOk after := by
  obtain ⟨hguard, rfl⟩ := State.reportWorking_cases taken
  obtain ⟨hregistered, hadded⟩ :=
    h.inTrader payload (Or.inr ⟨_, Or.inl hguard.1⟩)
  refine h.trader (h.messages.concat ⟨hregistered, hadded⟩) h.onWay
    (fun other held => ⟨(h.inTrader other held).1,
      (h.inTrader other held).2.mono fun _ => List.mem_append_left _⟩) ?_
  intro number member
  rcases List.mem_append.mp member with hold | hnew
  · exact (h.reported number hold).imp_right
      (State.Started.mono fun _ => List.mem_append_left _)
  · rw [List.mem_singleton.mp hnew]
    exact ⟨hregistered, Or.inr (by simp)⟩

/-- An execution reports its end for a batch that is acknowledged, and that is
started if it finishes. -/
theorem processBatchEnds (h : AnswerOk state) {outcome : State.Outcome}
    (taken : state.processBatchEnds payload outcome = some after) :
    AnswerOk after := by
  obtain ⟨hguard, rfl⟩ := State.processBatchEnds_cases taken
  obtain ⟨hregistered, hadded⟩ :=
    h.inTrader payload (Or.inr ⟨_, Or.inl hguard.1⟩)
  have hordered : Ordered state.Allowed
      (state.toManager ++ outcome.messages payload.id) := by
    cases outcome with
    | finished failedCalls =>
        exact h.messages.concat
          ⟨hregistered, hadded, (h.reported _ (hguard.2 rfl)).2⟩
    | failed error => exact h.messages.concat ⟨hregistered, hadded⟩
    | thrown =>
        rw [State.Outcome.messages, List.append_nil]
        exact h.messages
  refine h.trader hordered h.onWay ?_ fun number member =>
    (h.reported number member).imp_right
      (State.Started.mono fun _ => List.mem_append_left _)
  intro other held
  have hold : state.InTrader other := by
    apply held.imp_right
    rintro ⟨pid, hpool⟩
    by_cases heq : pid = payload.pid
    · subst heq
      simp only [Function.update_self] at hpool
      exact ⟨payload.pid, PQueue.mem_of_mem_finish hpool⟩
    · exact ⟨pid, by simpa [heq] using hpool⟩
  exact ⟨(h.inTrader other hold).1,
    (h.inTrader other hold).2.mono fun _ => List.mem_append_left _⟩

theorem sendSlotFreed (h : AnswerOk state)
    (taken : state.sendSlotFreed payload = some after) : AnswerOk after := by
  have hfreed : AnswerOk { state with
      processQueue := (state.processQueue.finish payload).1 } := by
    refine h.trader h.messages h.onWay ?_ h.reported
    intro other held
    exact h.inTrader other (held.imp_left PQueue.mem_of_mem_finish)
  obtain ⟨-, ⟨started, hstarted, rfl⟩ | ⟨-, rfl⟩⟩ :=
    State.sendSlotFreed_cases taken
  · have hwaiting : started ∈ state.processQueue.waiting := by
      rw [← state.processQueue.finish_fifo payload, hstarted]
      simp
    obtain ⟨hregistered, hadded⟩ :=
      h.inTrader started (Or.inl (Or.inr hwaiting))
    exact hfreed.enterPool hregistered hadded
  · exact hfreed

theorem manager (h : AnswerOk state) {consumed toManager : List Message}
    {nextId : Nat} {batches : Nat → Batch} {pools : Nat → PoolQueue}
    {status : Status} {addQueue : PQueue BatchRef} {awaitingAdded : Bool}
    {batchJobs : List Nat} {toTrader sent : List Payload} {jobs : List Job}
    {created committed : List BatchRef}
    (messages : state.toManager = consumed ++ toManager)
    (grown : ∀ id ∈ state.batchJobs, id ∈ batchJobs)
    (addedKept : ∀ id ∈ state.batchJobs, state.Added consumed id →
      (batches id).addedPromise.isSettled = true)
    (startedKept : ∀ id ∈ state.batchJobs, state.Started consumed id →
      (batches id).startedPromise.isSettled = true)
    (registered : batchJobs = sent.map (·.id))
    (unsent : ∀ id, id ∉ batchJobs →
      (batches id).finishedPromise.isSettled = false)
    (settled : ∀ id, (batches id).finishedPromise.isSettled = true →
      (batches id).startedPromise.isSettled = true ∧
        (batches id).addedPromise.isSettled = true)
    (awaited : awaitingAdded = true → ∀ ref ∈ addQueue.running,
      ref.id ∈ batchJobs ∧ (batches ref.id).addedPromise.isSettled = false)
    (sends : ∀ payload ∈ toTrader, payload.id ∈ batchJobs) :
    AnswerOk { state with
      toManager, nextId, batches, pools, status, addQueue, awaitingAdded,
      batchJobs, toTrader, sent, jobs, created, committed } := by
  have hadded : ∀ left, ∀ id ∈ state.batchJobs,
      state.Added (consumed ++ left) id →
        State.Added { state with batches } left id := by
    intro left number member hadded
    rcases hadded with hsettled | hmessage
    · exact Or.inl (addedKept number member (Or.inl hsettled))
    · rcases List.mem_append.mp hmessage with hconsumed | hleft
      · exact Or.inl (addedKept number member (Or.inr hconsumed))
      · exact Or.inr hleft
  have hstarted : ∀ left, ∀ id ∈ state.batchJobs,
      state.Started (consumed ++ left) id →
        State.Started { state with batches } left id := by
    intro left number member hstarted
    rcases hstarted with hsettled | hmessage
    · exact Or.inl (startedKept number member (Or.inl hsettled))
    · rcases List.mem_append.mp hmessage with hconsumed | hleft
      · exact Or.inl (startedKept number member (Or.inr hconsumed))
      · exact Or.inr hleft
  have hmessages := h.messages
  rw [messages] at hmessages
  refine
    { registered := registered, unsent := unsent, settled := settled,
      awaited := awaited, messages := hmessages.final ?_, onWay := ?_,
      inTrader := ?_, reported := ?_ }
  · intro left message allowed
    cases message with
    | online => exact True.intro
    | added number => exact grown number allowed
    | working number =>
        exact ⟨grown number allowed.1, hadded left number allowed.1 allowed.2⟩
    | finished number failedCalls =>
        exact ⟨grown number allowed.1,
          hadded left number allowed.1 allowed.2.1,
          hstarted left number allowed.1 allowed.2.2⟩
    | failed number error =>
        exact ⟨grown number allowed.1, hadded left number allowed.1 allowed.2⟩
  · intro payload held
    rcases held with hsent | hqueue
    · exact sends payload hsent
    · exact grown _ (h.onWay payload (Or.inr hqueue))
  · intro payload held
    obtain ⟨hregistered, hacknowledged⟩ := h.inTrader payload held
    rw [messages] at hacknowledged
    exact ⟨grown _ hregistered, hadded toManager _ hregistered hacknowledged⟩
  · intro number member
    obtain ⟨hregistered, hreported⟩ := h.reported number member
    rw [messages] at hreported
    exact ⟨grown _ hregistered, hstarted toManager _ hregistered hreported⟩

theorem bus (h : AnswerOk state) {nextId : Nat} {batches : Nat → Batch}
    {pools : Nat → PoolQueue} {jobs : List Job}
    {created committed : List BatchRef}
    (kept : ∀ id, SamePromises (batches id) (state.batches id) ∨
      (id ∉ state.batchJobs ∧ (batches id).finishedPromise = .pending)) :
    AnswerOk { state with
      nextId, batches, pools, jobs, created, committed } := by
  have hsame : ∀ id ∈ state.batchJobs,
      SamePromises (batches id) (state.batches id) := fun number member =>
    (kept number).resolve_right fun hnot => hnot.1 member
  refine h.manager (List.nil_append _).symm (fun _ member => member) ?_ ?_
    h.registered ?_ ?_ ?_ fun payload member => h.onWay payload (Or.inl member)
  · intro number member hadded
    rw [(hsame number member).added]
    exact hadded.resolve_right (by simp)
  · intro number member hstarted
    rw [(hsame number member).started]
    exact hstarted.resolve_right (by simp)
  · intro number hnot
    rcases kept number with hold | ⟨-, hpending⟩
    · rw [hold.finished]
      exact h.unsent number hnot
    · rw [hpending]
      rfl
  · intro number hfinished
    rcases kept number with hold | ⟨-, hpending⟩
    · rw [hold.finished] at hfinished
      rw [hold.started, hold.added]
      exact h.settled number hfinished
    · rw [hpending] at hfinished
      cases hfinished
  · intro hwait ref member
    obtain ⟨hregistered, hpending⟩ := h.awaited hwait ref member
    rw [(hsame ref.id hregistered).added]
    exact ⟨hregistered, hpending⟩

theorem dequeue (h : AnswerOk state) (manager : ManagerOk state) {pid : Nat}
    (taken : state.dequeue pid = some after) : AnswerOk after := by
  obtain ⟨item, rest, -, -, rfl⟩ := State.dequeue_cases taken
  refine h.manager (List.nil_append _).symm (fun _ member => member)
    (fun number _ hadded => hadded.resolve_right (by simp))
    (fun number _ hstarted => hstarted.resolve_right (by simp))
    h.registered h.unsent h.settled ?_
    fun payload member => h.onWay payload (Or.inl member)
  intro hwait ref member
  simp only [State.setPool] at hwait member
  rw [PQueue.add_running, PQueue.add_of_full (manager.full hwait)] at member
  exact h.awaited hwait ref (by simpa using member)

theorem addBatch (h : AnswerOk state) (manager : ManagerOk state)
    (taken : state.addBatch = some after) : AnswerOk after := by
  obtain ⟨ref, payload, -, hrunning, hunsent, href, -, rfl⟩ :=
    State.addBatch_cases manager taken
  have hid : payload.id = ref.id := congrArg BatchRef.id href
  have hnew : ref.id ∉ state.batchJobs := by
    rw [h.registered]
    intro member
    obtain ⟨sent, hsent, hsame⟩ := List.mem_map.mp member
    exact manager.ne_of_unsent hunsent hsent hsame
  have hne : ∀ id ∈ state.batchJobs, id ≠ ref.id := fun number member hsame =>
    hnew (hsame ▸ member)
  refine h.manager (List.nil_append _).symm
    (fun _ => List.mem_append_left _) ?_ ?_ ?_ ?_ ?_ ?_ ?_
  · intro number member hadded
    simp only [State.setBatch, Function.update_of_ne (hne number member)]
    exact hadded.resolve_right (by simp)
  · intro number member hstarted
    simp only [State.setBatch, Function.update_of_ne (hne number member)]
    exact hstarted.resolve_right (by simp)
  · simp [h.registered, hid]
  · intro number hnot
    have hold : number ∉ state.batchJobs := fun member =>
      hnot (List.mem_append_left _ member)
    have hother : number ≠ ref.id := fun hsame =>
      hnot (by simp [hsame])
    simp only [State.setBatch, Function.update_of_ne hother]
    exact h.unsent number hold
  · intro number hfinished
    simp only [State.setBatch] at hfinished ⊢
    by_cases heq : number = ref.id
    · subst heq
      rw [Function.update_self] at hfinished
      rw [h.unsent ref.id hnew] at hfinished
      cases hfinished
    · rw [Function.update_of_ne heq] at hfinished ⊢
      exact h.settled number hfinished
  · intro _ other member
    have hother : other ∈ state.addQueue.running := member
    rw [hrunning, List.mem_singleton] at hother
    subst hother
    simp only [State.setBatch, Function.update_self]
    exact ⟨by simp, rfl⟩
  · intro other member
    rcases List.mem_append.mp member with hold | hlast
    · exact List.mem_append_left _ (h.onWay other (Or.inl hold))
    · rw [List.mem_singleton.mp hlast, hid]
      simp

/-- A message about a registered batch settles promises of that batch. -/
theorem take (h : AnswerOk state) {message : Message} {rest : List Message}
    (messages : state.toManager = message :: rest) {number : Nat}
    {batch : Batch} {pools : Nat → PoolQueue} {status : Status}
    {addQueue : PQueue BatchRef} {awaitingAdded : Bool}
    (registered : number ∈ state.batchJobs)
    (others : ∀ id, id ≠ number →
      .added id ≠ message ∧ .working id ≠ message)
    (added : state.Added [message] number →
      batch.addedPromise.isSettled = true)
    (started : state.Started [message] number →
      batch.startedPromise.isSettled = true)
    (settled : batch.finishedPromise.isSettled = true →
      batch.startedPromise.isSettled = true ∧
        batch.addedPromise.isSettled = true)
    (awaited : awaitingAdded = true → ∀ ref ∈ addQueue.running,
      ref.id ∈ state.batchJobs ∧
        (Function.update state.batches number batch
          ref.id).addedPromise.isSettled = false) :
    AnswerOk { state with
      batches := Function.update state.batches number batch
      toManager := rest
      pools, status, addQueue, awaitingAdded } := by
  have htaken : state.toManager = [message] ++ rest := messages
  refine h.manager htaken (fun _ member => member) ?_ ?_ h.registered ?_ ?_
    awaited fun payload member => h.onWay payload (Or.inl member)
  · intro other _ hadded
    by_cases heq : other = number
    · subst heq
      rw [Function.update_self]
      exact added hadded
    · rw [Function.update_of_ne heq]
      exact hadded.resolve_right (by simp [(others other heq).1])
  · intro other _ hstarted
    by_cases heq : other = number
    · subst heq
      rw [Function.update_self]
      exact started hstarted
    · rw [Function.update_of_ne heq]
      exact hstarted.resolve_right (by simp [(others other heq).2])
  · intro other hnot
    have hne : other ≠ number := fun hsame => hnot (hsame ▸ registered)
    rw [Function.update_of_ne hne]
    exact h.unsent other hnot
  · intro other hfinished
    by_cases heq : other = number
    · subst heq
      rw [Function.update_self] at hfinished ⊢
      exact settled hfinished
    · rw [Function.update_of_ne heq] at hfinished ⊢
      exact h.settled other hfinished

/-- Only an acknowledgement changes what `#addBatch` waits for. -/
theorem awaited_update (h : AnswerOk state) {number : Nat} {batch : Batch}
    (same : batch.addedPromise = (state.batches number).addedPromise)
    (awaiting : state.awaitingAdded = true)
    (member : ref ∈ state.addQueue.running) :
    ref.id ∈ state.batchJobs ∧ (Function.update state.batches number batch
      ref.id).addedPromise.isSettled = false := by
  obtain ⟨hregistered, hpending⟩ := h.awaited awaiting ref member
  refine ⟨hregistered, ?_⟩
  rw [update_field Batch.addedPromise same]
  exact hpending

/-- The added promise of the batch is resolved, and whoever waits on in the
slot waits for another batch. -/
theorem resolveAdded (h : AnswerOk state) {number : Nat} {rest : List Message}
    (messages : state.toManager = .added number :: rest)
    (registered : number ∈ state.batchJobs) (pools : Nat → PoolQueue)
    (status : Status) {addQueue : PQueue BatchRef} {awaitingAdded : Bool}
    (awaited : awaitingAdded = true → ∀ ref ∈ addQueue.running,
      awaitingAdded = state.awaitingAdded ∧
        ref ∈ state.addQueue.running ∧ ref.id ≠ number) :
    AnswerOk { state with
      batches := Function.update state.batches number
        { state.batches number with
          addedPromise := (state.batches number).addedPromise.resolve () }
      toManager := rest
      pools, status, addQueue, awaitingAdded } := by
  apply h.take messages registered
  · intro other hne
    simp [hne]
  · intro _
    simp
  · intro hstarted
    exact hstarted.resolve_right (by simp)
  · intro hfinished
    exact ⟨(h.settled number hfinished).1, by simp⟩
  · intro hwait ref member
    obtain ⟨hsame, hmember, hne⟩ := awaited hwait ref member
    rw [Function.update_of_ne hne]
    exact h.awaited (hsame ▸ hwait) ref hmember

theorem onBatchJobAdded (h : AnswerOk state) (manager : ManagerOk state)
    {number : Nat} {rest : List Message}
    (messages : state.toManager = .added number :: rest)
    (registered : number ∈ state.batchJobs) :
    AnswerOk (State.onBatchJobAdded { state with toManager := rest }
      number) := by
  simp only [State.onBatchJobAdded, if_pos registered]
  split
  · next ref hhead =>
      split
      · exact h.resolveAdded messages registered _ _ fun hwait => by cases hwait
      · next hguard =>
          refine h.resolveAdded messages registered _ _
            fun hwait other member =>
              ⟨rfl, member, fun hsame => hguard ⟨hwait, ?_⟩⟩
          have hrunning : state.addQueue.running = [ref] :=
            PQueue.running_eq manager.single (List.mem_of_head? hhead)
          have hother : other = ref := by
            have hmember : other ∈ state.addQueue.running := member
            rw [hrunning] at hmember
            exact List.mem_singleton.mp hmember
          rw [← hother, hsame]
  · next hhead =>
      apply h.resolveAdded messages registered
      intro _ other member
      have hnone : state.addQueue.running = [] :=
        List.head?_eq_none_iff.mp hhead
      have hmember : other ∈ state.addQueue.running := member
      rw [hnone] at hmember
      cases hmember

theorem deliverToManager (h : AnswerOk state) (manager : ManagerOk state)
    (taken : state.deliverToManager = some after) : AnswerOk after := by
  obtain ⟨message, rest, hmessages, rfl⟩ := State.deliverToManager_cases taken
  have hallowed : state.Allowed [] message := by
    have hordered := h.messages
    rw [hmessages] at hordered
    exact hordered.head
  cases message with
  | online =>
      have htaken : state.toManager = [.online] ++ rest := hmessages
      refine h.manager htaken (fun _ member => member) ?_ ?_ h.registered
        h.unsent h.settled h.awaited
        fun payload member => h.onWay payload (Or.inl member)
      · intro number _ hadded
        exact hadded.resolve_right (by simp)
      · intro number _ hstarted
        exact hstarted.resolve_right (by simp)
  | added number => exact h.onBatchJobAdded manager hmessages hallowed
  | working number =>
      have hregistered : number ∈ state.batchJobs := hallowed.1
      simp only [State.handleProcessMessage, State.onBatchJobWorking,
        if_pos hregistered]
      apply h.take hmessages hregistered
      · intro other hne
        simp [hne]
      · intro hadded
        exact hadded.resolve_right (by simp)
      · intro _
        simp
      · intro hfinished
        exact ⟨by simp, (h.settled number hfinished).2⟩
      · intro hwait ref member
        exact h.awaited_update rfl hwait member
  | finished number failedCalls =>
      obtain ⟨hregistered, hadded, hstarted⟩ := hallowed
      simp only [State.handleProcessMessage, State.onBatchJobFinished,
        if_pos hregistered]
      apply h.take hmessages hregistered
      · intro other _
        simp
      · intro _
        exact hadded.resolve_right (by simp)
      · intro _
        exact hstarted.resolve_right (by simp)
      · intro _
        exact ⟨hstarted.resolve_right (by simp),
          hadded.resolve_right (by simp)⟩
      · intro hwait ref member
        exact h.awaited_update rfl hwait member
  | failed number error =>
      obtain ⟨hregistered, hadded⟩ := hallowed
      simp only [State.handleProcessMessage, State.onBatchJobFailed,
        if_pos hregistered]
      apply h.take hmessages hregistered
      · intro other _
        simp
      · intro _
        exact hadded.resolve_right (by simp)
      · intro _
        simp
      · intro _
        exact ⟨by simp, hadded.resolve_right (by simp)⟩
      · intro hwait ref member
        exact h.awaited_update rfl hwait member

/-- The process takes its queues and the rest of its messages with it. -/
theorem processGone (h : AnswerOk state) (kept : Nat) (status : Status) :
    AnswerOk { state.processGone kept with status } := by
  have hmessages := h.messages
  rw [← List.take_append_drop kept state.toManager] at hmessages
  have hgone : AnswerOk { state with
      toTrader := [], toManager := state.toManager.take kept,
      traderOnline := false, traderAddQueue := .idle 1,
      processQueue := .idle TX_SEND_QUEUE_SIZE,
      poolQueues := fun _ => .idle 1, reported := [] } := by
    apply h.trader hmessages.initial
    · rintro payload (member | member | member) <;> cases member
    · rintro payload ((member | member) | ⟨_, member | member⟩) <;> cases member
    · intro number member
      cases member
  exact { hgone with }

end AnswerOk

theorem answerOk_start : AnswerOk pipeline.start where
  registered := rfl
  unsent := fun _ _ => rfl
  settled := fun _ hfinished => by cases hfinished
  awaited := fun hwait => by cases hwait
  messages := Ordered.nil
  onWay := fun payload held => by
    rcases held with member | member | member <;> cases member
  inTrader := fun payload held => by
    rcases held with (member | member) | ⟨_, member | member⟩ <;> cases member
  reported := fun _ member => by cases member

theorem answerOk_step : pipeline.Preserves Machine.anyEvent
    fun state => ManagerOk state ∧ AnswerOk state := by
  rintro state event after _ ⟨manager, h⟩ taken
  refine ⟨managerOk_step state event after True.intro manager taken, ?_⟩
  cases event with
  | addJob job =>
      cases taken
      obtain ⟨_, _, _, _, _, _, hframe, -, hkept⟩ := state.addJob_frame job
      rw [hframe]
      refine h.bus fun number => (hkept number).imp_right ?_
      rintro ⟨rfl, hpending⟩
      refine ⟨fun member => ?_, hpending⟩
      rw [h.registered] at member
      obtain ⟨payload, hsent, hsame⟩ := List.mem_map.mp member
      exact absurd hsame (Nat.ne_of_lt (manager.sent_lt hsent))
  | timeout ref =>
      obtain ⟨-, rfl⟩ := State.timeout_cases taken
      obtain ⟨_, _, _, hframe, -, hsame⟩ := state.commit_frame ref
      rw [hframe]
      exact h.bus fun number => Or.inl (hsame number)
  | dequeue pid => exact h.dequeue manager taken
  | addBatch => exact h.addBatch manager taken
  | deliverToTrader => exact h.deliverToTrader taken
  | doAddJobSettles payload => exact h.doAddJobSettles taken
  | reportWorking payload => exact h.reportWorking taken
  | processBatchEnds payload outcome => exact h.processBatchEnds taken
  | sendSlotFreed payload => exact h.sendSlotFreed taken
  | deliverToManager => exact h.deliverToManager manager taken
  | traderBoots =>
      obtain ⟨-, rfl⟩ := State.traderBoots_cases taken
      have honline := @AnswerOk.report state h .online True.intro
      exact { honline with }
  | exit kept =>
      cases taken
      rw [State.processExits_eq manager]
      exact h.processGone kept .starting

theorem answerOk_reachable (reached : pipeline.Reachable state) :
    AnswerOk state :=
  (answerOk_step.reaches ⟨managerOk_start, answerOk_start⟩ reached).2

end RuntimeBridge.Trade
