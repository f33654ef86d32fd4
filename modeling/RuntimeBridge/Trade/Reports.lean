import RuntimeBridge.Trade.JobRuns

/-! What the trader reports to the jobs was made of a batch that was sent. -/

namespace RuntimeBridge.Trade

open Library

/-- What the trader holds was sent to it, and what it reports was made of a batch
that was sent. -/
structure TraderHolds (good : Payload → List FailedCall → Prop)
    (state : State) : Prop where
  onWay : ∀ payload, state.OnWay payload → payload ∈ state.sent
  inTrader : ∀ payload, state.InTrader payload → payload ∈ state.sent
  messages : ∀ id failedCalls, .finished id failedCalls ∈ state.toManager →
    ∃ payload ∈ state.sent, payload.id = id ∧ good payload failedCalls

/-- And so is what the jobs of a batch wait for. -/
structure ReportedOk (good : Payload → List FailedCall → Prop)
    (state : State) : Prop extends TraderHolds good state where
  results : ∀ id result,
    (state.batches id).finishedPromise = .resolved result →
    ∃ payload ∈ state.sent, payload.id = id ∧ ∃ failedCalls,
      good payload failedCalls ∧ result =
        { indexes := failedCalls.map
            ((state.batches id).callToJobId[·.index]?)
          reasons := failedCalls }

variable {good better : Payload → List FailedCall → Prop} {state after : State}
  {event : Event} {payload : Payload}

namespace TraderHolds

theorem doAddJob (h : TraderHolds good state)
    (held : payload ∈ state.sent) : TraderHolds good (state.doAddJob payload) := by
  have hin := fun other => @State.InTrader.of_enterProcess
    { state with toManager := state.toManager ++ [.added payload.id] } payload
    other
  obtain ⟨_, _, _, hframe⟩ := State.enterProcess_frame
    { state with toManager := state.toManager ++ [.added payload.id] } payload
  simp only [State.doAddJob, hframe] at hin ⊢
  refine ⟨fun other hother => h.onWay other hother, fun other hother => ?_,
    fun id failedCalls member => h.messages id failedCalls ?_⟩
  · rcases hin other hother with hold | rfl
    · exact h.inTrader other hold
    · exact held
  · rcases List.mem_append.mp member with hold | hnew
    · exact hold
    · cases List.mem_singleton.mp hnew

theorem deliverToTrader (h : TraderHolds good state)
    (taken : state.deliverToTrader = some after) : TraderHolds good after := by
  obtain ⟨payload, rest, -, hmessages, rfl⟩ := State.deliverToTrader_cases taken
  have hheld : payload ∈ state.sent :=
    h.onWay payload (Or.inl (by rw [hmessages]; simp))
  have hqueued : TraderHolds good { state with
      toTrader := rest
      traderAddQueue := (state.traderAddQueue.add payload).1 } := by
    refine ⟨fun other hother => ?_, h.inTrader, h.messages⟩
    rcases hother with hsent | hqueue
    · exact h.onWay other
        (Or.inl (by rw [hmessages]; exact List.mem_cons_of_mem _ hsent))
    · rcases PQueue.mem_of_mem_add hqueue with rfl | hold
      · exact hheld
      · exact h.onWay other (Or.inr hold)
  simp only [State.traderAddBatchJob]
  split
  · next started hstarted =>
      rw [PQueue.add_started hstarted]
      exact hqueued.doAddJob hheld
  · exact hqueued

theorem doAddJobSettles (h : TraderHolds good state)
    (taken : state.doAddJobSettles payload = some after) :
    TraderHolds good after := by
  have hqueued : TraderHolds good { state with
      traderAddQueue := (state.traderAddQueue.finish payload).1 } :=
    ⟨fun other hother =>
      h.onWay other (hother.imp_right PQueue.mem_of_mem_finish),
      h.inTrader, h.messages⟩
  obtain ⟨-, ⟨started, hstarted, rfl⟩ | ⟨-, rfl⟩⟩ :=
    State.doAddJobSettles_cases taken
  · refine hqueued.doAddJob (h.onWay started (Or.inr (Or.inr ?_)))
    rw [← state.traderAddQueue.finish_fifo payload, hstarted]
    simp
  · exact hqueued

/-- A report of the end is made of a batch that the trader holds. -/
theorem processBatchEnds (h : TraderHolds good state) {outcome : State.Outcome}
    (reports : ∀ failedCalls, outcome = .finished failedCalls →
      good payload failedCalls)
    (taken : state.processBatchEnds payload outcome = some after) :
    TraderHolds good after := by
  obtain ⟨hguard, rfl⟩ := State.processBatchEnds_cases taken
  have hheld : payload ∈ state.sent :=
    h.inTrader payload (Or.inr ⟨_, Or.inl hguard.1⟩)
  refine ⟨h.onWay, fun other hother => h.inTrader other ?_,
    fun id failedCalls member => ?_⟩
  · apply hother.imp_right
    rintro ⟨pid, hpool⟩
    by_cases heq : pid = payload.pid
    · subst heq
      simp only [Function.update_self] at hpool
      exact ⟨payload.pid, PQueue.mem_of_mem_finish hpool⟩
    · exact ⟨pid, by simpa [heq] using hpool⟩
  · rcases List.mem_append.mp member with hold | hnew
    · exact h.messages id failedCalls hold
    · cases outcome with
      | finished reported =>
          cases List.mem_singleton.mp hnew
          exact ⟨payload, hheld, rfl, reports _ rfl⟩
      | failed error => cases List.mem_singleton.mp hnew
      | thrown => cases hnew

theorem sendSlotFreed (h : TraderHolds good state)
    (taken : state.sendSlotFreed payload = some after) :
    TraderHolds good after := by
  have hfreed : TraderHolds good { state with
      processQueue := (state.processQueue.finish payload).1 } :=
    ⟨h.onWay, fun other hother =>
      h.inTrader other (hother.imp_left PQueue.mem_of_mem_finish), h.messages⟩
  obtain ⟨-, ⟨started, hstarted, rfl⟩ | ⟨-, rfl⟩⟩ :=
    State.sendSlotFreed_cases taken
  · have hwaiting : started ∈ state.processQueue.waiting := by
      rw [← state.processQueue.finish_fifo payload, hstarted]
      simp
    refine ⟨h.onWay, fun other hother => ?_, h.messages⟩
    rcases State.InTrader.of_enterPool hother with hold | rfl
    · exact hfreed.inTrader other hold
    · exact h.inTrader other (Or.inl (Or.inr hwaiting))
  · exact hfreed

theorem step (h : TraderHolds good state) (ok : PipeOk state)
    (reports : ∀ payload failedCalls,
      event = .processBatchEnds payload (.finished failedCalls) →
        good payload failedCalls)
    (taken : step state event = some after) : TraderHolds good after := by
  cases event with
  | addJob job =>
      cases taken
      obtain ⟨_, _, _, _, _, _, hframe, -⟩ := state.addJob_frame job
      rw [hframe]
      exact ⟨h.onWay, h.inTrader, h.messages⟩
  | timeout ref =>
      obtain ⟨-, rfl⟩ := State.timeout_cases taken
      exact ⟨h.onWay, h.inTrader, h.messages⟩
  | dequeue pid =>
      obtain ⟨item, rest, -, -, rfl⟩ := State.dequeue_cases taken
      exact ⟨h.onWay, h.inTrader, h.messages⟩
  | addBatch =>
      obtain ⟨ref, payload, -, -, -, -, -, rfl⟩ :=
        State.addBatch_cases ok.manager taken
      refine ⟨fun other hother => ?_,
        fun other hother => List.mem_append_left _ (h.inTrader other hother),
        fun id failedCalls member => ?_⟩
      · rcases hother with hsent | hqueue
        · rcases List.mem_append.mp hsent with hold | hnew
          · exact List.mem_append_left _ (h.onWay other (Or.inl hold))
          · exact List.mem_append_right _ hnew
        · exact List.mem_append_left _ (h.onWay other (Or.inr hqueue))
      · obtain ⟨found, hsent, hfound⟩ := h.messages id failedCalls member
        exact ⟨found, List.mem_append_left _ hsent, hfound⟩
  | deliverToTrader => exact h.deliverToTrader taken
  | doAddJobSettles payload => exact h.doAddJobSettles taken
  | reportWorking payload =>
      obtain ⟨-, rfl⟩ := State.reportWorking_cases taken
      exact ⟨h.onWay, h.inTrader, fun id failedCalls member =>
        h.messages id failedCalls (by simpa using member)⟩
  | processBatchEnds payload outcome =>
      exact h.processBatchEnds
        (fun failedCalls houtcome => reports payload failedCalls
          (by rw [houtcome])) taken
  | sendSlotFreed payload => exact h.sendSlotFreed taken
  | deliverToManager =>
      obtain ⟨message, rest, hmessages, rfl⟩ :=
        State.deliverToManager_cases taken
      obtain ⟨_, _, _, _, _, hframe⟩ := State.handleProcessMessage_frame
        { state with toManager := rest } message
      rw [hframe]
      refine ⟨h.onWay, h.inTrader, fun id failedCalls member =>
        h.messages id failedCalls ?_⟩
      rw [hmessages]
      exact List.mem_cons_of_mem _ member
  | traderBoots =>
      obtain ⟨-, rfl⟩ := State.traderBoots_cases taken
      exact ⟨h.onWay, h.inTrader, fun id failedCalls member =>
        h.messages id failedCalls (by simpa using member)⟩
  | exit kept =>
      cases taken
      rw [State.processExits_eq ok.manager]
      refine ⟨?_, ?_, fun id failedCalls member =>
        h.messages id failedCalls (List.mem_of_mem_take member)⟩
      · rintro other (held | held | held) <;> cases held
      · rintro other ((held | held) | ⟨_, held | held⟩) <;> cases held

end TraderHolds

theorem ReportedOk.step (h : ReportedOk good state) (ok : PipeOk state)
    (reports : ∀ payload failedCalls,
      event = .processBatchEnds payload (.finished failedCalls) →
        good payload failedCalls)
    (taken : step state event = some after) : ReportedOk good after := by
  have hmoves := ok.step_moves taken
  refine { h.toTraderHolds.step ok reports taken with results := ?_ }
  -- A result that the batch had before is the result of the same batch.
  have hkept : ∀ id result,
      (state.batches id).finishedPromise = .resolved result →
      ∃ payload ∈ after.sent, payload.id = id ∧ ∃ failedCalls,
        good payload failedCalls ∧ result =
          { indexes := failedCalls.map
              ((after.batches id).callToJobId[·.index]?)
            reasons := failedCalls } := by
    intro id result hresult
    obtain ⟨payload, hsent, rfl, hfailed⟩ := h.results id result hresult
    rw [hmoves.callToJobId payload.id (by
      rw [ok.answers.registered]
      exact List.mem_map_of_mem hsent)]
    exact ⟨payload, hmoves.sent payload hsent, rfl, hfailed⟩
  intro id result hresult
  have hattempt : (after.batches id).attempt.finishedPromise =
      .resolved result := hresult
  rcases hmoves.attempts with
    hsame | ⟨message, hmessage, number, hregistered, htold, hsame⟩
  · rw [hsame] at hattempt
    exact hkept id result hattempt
  · rcases eq_or_ne id number with rfl | hne
    · generalize (after.batches id).attempt = attempt at htold hattempt
      cases htold with
      | working => exact hkept id result hattempt
      | finished failedCalls =>
          rcases Promise.resolved_of_resolve hattempt with hold | rfl
          · exact hkept id result hold
          · obtain ⟨payload, hsent, rfl, hgood⟩ :=
              h.messages id failedCalls hmessage
            refine ⟨payload, hmoves.sent payload hsent, rfl, failedCalls,
              hgood, ?_⟩
            rw [hmoves.callToJobId payload.id hregistered]
      | failed error =>
          exact hkept id result (Promise.resolved_of_reject hattempt)
    · rw [hsame id hne] at hattempt
      exact hkept id result hattempt

theorem ReportedOk.start : ReportedOk good .initial where
  onWay := fun payload held => by
    rcases held with member | member | member <;> cases member
  inTrader := fun payload held => by
    rcases held with (member | member) | ⟨_, member | member⟩ <;> cases member
  messages := fun _ _ member => by cases member
  results := fun _ _ hresult => by cases hresult

theorem ReportedOk.mono (h : ReportedOk good state)
    (implies : ∀ payload failedCalls, good payload failedCalls →
      better payload failedCalls) : ReportedOk better state where
  onWay := h.onWay
  inTrader := h.inTrader
  messages := fun id failedCalls member => by
    obtain ⟨payload, hsent, hid, hgood⟩ := h.messages id failedCalls member
    exact ⟨payload, hsent, hid, implies payload failedCalls hgood⟩
  results := fun id result hresult => by
    obtain ⟨payload, hsent, hid, failedCalls, hgood, hresult⟩ :=
      h.results id result hresult
    exact ⟨payload, hsent, hid, failedCalls,
      implies payload failedCalls hgood, hresult⟩

end RuntimeBridge.Trade
