import RuntimeBridge.Trade.MessageBus

/-! Each handler of the message bus is a run of `jobMachine`, and makes every
attempt in a batch of its own. -/

namespace RuntimeBridge.Trade

open Library

def CallMeta.retries (callMeta : CallMeta) : Nat :=
  if callMeta.shouldRetry then TX_RETRY_TIMES else 0

/-- What a job says at its end. -/
structure OutcomeOk (callMeta : CallMeta) (state : JobState) : Prop where
  finished : state.proc = .reportsFinished ∨ state.proc = .done →
    ∃ result, state.current.finishedPromise = .resolved result ∧
      waitUntilFinished callMeta result = .ok ()
  budget : 0 < state.enqueued →
    state.enqueued + state.remainingRetries = 1 + callMeta.retries
  failed : ∀ error, state.proc = .failed error → 0 < state.enqueued →
    state.remainingRetries = 0

variable {callMeta : CallMeta} {before after : JobState} {event : JobEvent}
  {number : Nat}

/-- What a handler does itself: it goes on with its attempt, or makes the next
one. -/
inductive JobState.Advances (callMeta : CallMeta) (state : JobState) :
    JobState → Prop
  | goesOn (proc : JobProc) (waits : proc ≠ .awaitsStarted)
      (finished : proc = .reportsFinished →
        ∃ result, state.current.finishedPromise = .resolved result ∧
          waitUntilFinished callMeta result = .ok ())
      (done : proc = .done → state.proc = .reportsFinished)
      (failed : ∀ error, proc = .failed error →
        state.remainingRetries = 0 ∨ state.proc.Prepares) :
      Advances callMeta state { state with proc }
  | enqueues (prepares : state.proc.Prepares) :
      Advances callMeta state (JobState.processJob { state with
        remainingRetries := callMeta.retries })
  | retries (begun : state.proc.Begun) (left : state.remainingRetries ≠ 0) :
      Advances callMeta state (JobState.processJob { state with
        remainingRetries := state.remainingRetries - 1 })

namespace JobState.Advances

theorem rescueJob (begun : before.proc.Begun) (error : String) :
    before.Advances callMeta (before.rescueJob error) := by
  unfold JobState.rescueJob
  split
  · next hnone =>
      exact .goesOn _ JobProc.noConfusion JobProc.noConfusion
        JobProc.noConfusion fun _ _ => Or.inl hnone
  · next hleft => exact .retries begun hleft

theorem gives_up (prepares : before.proc.Prepares) (error : String) :
    before.Advances callMeta { before with proc := .failed error } :=
  .goesOn _ JobProc.noConfusion JobProc.noConfusion JobProc.noConfusion
    fun _ _ => Or.inr prepares

theorem of_step (own : event.isOwn = true)
    (taken : before.step callMeta event = some after) :
    before.Advances callMeta after := by
  cases event with
  | reportResolves =>
      simp only [JobState.step, JobState.reportResolves] at taken
      split at taken
      · cases taken
        exact .goesOn _ JobProc.noConfusion JobProc.noConfusion
          JobProc.noConfusion fun _ => JobProc.noConfusion
      · next hproc =>
          cases taken
          exact .enqueues (by rw [hproc]; exact True.intro)
      · cases taken
        exact .goesOn _ JobProc.noConfusion JobProc.noConfusion
          JobProc.noConfusion fun _ => JobProc.noConfusion
      · next hproc =>
          cases taken
          exact .goesOn _ JobProc.noConfusion JobProc.noConfusion
            (fun _ => hproc) fun _ => JobProc.noConfusion
      · cases taken
  | reportRejects error =>
      simp only [JobState.step, JobState.reportRejects] at taken
      split at taken
      · next hproc =>
          cases taken
          exact .gives_up (by rw [hproc]; exact True.intro) error
      · next hproc =>
          cases taken
          exact .gives_up (by rw [hproc]; exact True.intro) error
      · next hproc =>
          cases taken
          exact .rescueJob (by rw [hproc]; exact True.intro) error
      · next hproc =>
          cases taken
          exact .rescueJob (by rw [hproc]; exact True.intro) error
      · cases taken
  | preprocessed outcome =>
      cases outcome with
      | ok _ =>
          simp only [JobState.step, JobState.preprocessed] at taken
          split at taken
          · cases taken
            exact .goesOn _ JobProc.noConfusion JobProc.noConfusion
              JobProc.noConfusion fun _ => JobProc.noConfusion
          · cases taken
      | error error =>
          simp only [JobState.step, JobState.preprocessed] at taken
          split at taken
          · next hproc =>
              cases taken
              exact .gives_up (by rw [hproc]; exact True.intro) error
          · cases taken
  | continues =>
      simp only [JobState.step, JobState.continues] at taken
      split at taken
      · next hproc =>
          split at taken
          · cases taken
          · cases taken
            exact .goesOn _ JobProc.noConfusion JobProc.noConfusion
              JobProc.noConfusion fun _ => JobProc.noConfusion
          · next error _ =>
              cases taken
              exact .rescueJob (by rw [hproc]; exact True.intro) error
      · next hproc =>
          split at taken
          · cases taken
          · next result hfinished =>
              split at taken
              · next hok =>
                  cases taken
                  exact .goesOn _ JobProc.noConfusion
                    (fun _ => ⟨result, hfinished, hok⟩) JobProc.noConfusion
                    fun _ => JobProc.noConfusion
              · next error _ =>
                  cases taken
                  exact .rescueJob (by rw [hproc]; exact True.intro) error
          · next error _ =>
              cases taken
              exact .rescueJob (by rw [hproc]; exact True.intro) error
      · cases taken
  | startedResolves number => cases own
  | startedRejects number error => cases own
  | finishedResolves number result => cases own
  | finishedRejects number error => cases own

end JobState.Advances

/-- A handler leaves the wait for `startedPromise` when that is settled. -/
theorem settled_of_step (own : event.isOwn = true)
    (waits : before.proc = .awaitsStarted)
    (taken : before.step callMeta event = some after) :
    before.current.startedPromise.isSettled = true := by
  cases event with
  | reportResolves =>
      simp [JobState.step, JobState.reportResolves, waits] at taken
  | reportRejects error =>
      simp [JobState.step, JobState.reportRejects, waits] at taken
  | preprocessed outcome =>
      cases outcome <;>
        simp [JobState.step, JobState.preprocessed, waits] at taken
  | continues =>
      simp only [JobState.step, JobState.continues, waits] at taken
      split at taken
      · cases taken
      · next hstarted => rw [hstarted]; rfl
      · next hstarted => rw [hstarted]; rfl
  | startedResolves number => cases own
  | startedRejects number error => cases own
  | finishedResolves number result => cases own
  | finishedRejects number error => cases own

theorem OutcomeOk.advances (h : OutcomeOk callMeta before) (ok : JobOk before)
    (hadvances : before.Advances callMeta after) :
    OutcomeOk callMeta after := by
  cases hadvances with
  | goesOn proc waits finished done failed =>
      refine ⟨fun hproc => ?_, h.budget, fun error hproc hpos => ?_⟩
      · rcases hproc with hproc | hproc
        · exact finished hproc
        · exact h.finished (Or.inl (done hproc))
      · rcases failed error hproc with hnone | hprepares
        · exact hnone
        · have hzero := ok.prepares hprepares
          exact absurd hpos (by simp [hzero])
  | enqueues prepares =>
      have hzero := ok.prepares prepares
      refine ⟨fun hproc => ?_, fun _ => ?_, fun error hproc => by cases hproc⟩
      · rcases hproc with hproc | hproc <;> cases hproc
      · simp [JobState.processJob, hzero]
  | retries begun left =>
      have hbudget := h.budget (ok.begun begun)
      refine ⟨fun hproc => ?_, fun _ => ?_, fun error hproc => by cases hproc⟩
      · rcases hproc with hproc | hproc <;> cases hproc
      · simp only [JobState.processJob]
        omega

theorem OutcomeOk.settle {settled : Attempt → Attempt}
    (h : OutcomeOk callMeta before)
    (taken : before.settle number settled = some after)
    (hkeeps : ∀ attempt : Attempt, ∀ result,
      attempt.finishedPromise = .resolved result →
        (settled attempt).finishedPromise = .resolved result) :
    OutcomeOk callMeta after := by
  simp only [JobState.settle] at taken
  split at taken
  · cases taken
    refine ⟨fun hproc => ?_, h.budget, h.failed⟩
    obtain ⟨result, hresult, hok⟩ := h.finished hproc
    refine ⟨result, ?_, hok⟩
    simp only [JobState.current] at hresult ⊢
    by_cases heq : before.enqueued - 1 = number
    · rw [heq] at hresult ⊢
      rw [Function.update_self]
      exact hkeeps _ _ hresult
    · rwa [Function.update_of_ne heq]
  · cases taken

theorem outcomeOk_step (h : JobOk before ∧ OutcomeOk callMeta before)
    (taken : before.step callMeta event = some after) :
    JobOk after ∧ OutcomeOk callMeta after := by
  obtain ⟨ok, h⟩ := h
  refine ⟨jobOk_step ok taken, ?_⟩
  cases event with
  | reportResolves => exact h.advances ok (.of_step rfl taken)
  | reportRejects error => exact h.advances ok (.of_step rfl taken)
  | preprocessed outcome => exact h.advances ok (.of_step rfl taken)
  | continues => exact h.advances ok (.of_step rfl taken)
  | startedResolves number =>
      simp only [JobState.step] at taken
      exact h.settle taken fun _ _ hresult => hresult
  | startedRejects number error =>
      simp only [JobState.step] at taken
      exact h.settle taken fun _ _ hresult => hresult
  | finishedResolves number result =>
      simp only [JobState.step] at taken
      exact h.settle taken fun _ _ hresult => by
        simp [hresult, Promise.resolve]
  | finishedRejects number error =>
      simp only [JobState.step] at taken
      exact h.settle taken fun _ _ hresult => by
        simp [hresult, Promise.reject]

theorem outcomeOk_initial : OutcomeOk callMeta .initial where
  finished := fun hproc => by rcases hproc with hproc | hproc <;> cases hproc
  budget := fun hpos => absurd hpos (Nat.lt_irrefl 0)
  failed := fun _ hproc => by cases hproc

/-- The outcome of a job, in every run of its handler. -/
theorem outcomeOk_reachable {state : JobState}
    (h : (jobMachine callMeta).Reachable state) :
    JobOk state ∧ OutcomeOk callMeta state :=
  @Machine.Preserves.reaches _ _ (jobMachine callMeta) Machine.anyEvent
    (fun state => JobOk state ∧ OutcomeOk callMeta state) state
    (fun _ _ _ _ hbefore taken => outcomeOk_step hbefore taken)
    ⟨jobOk_initial, outcomeOk_initial⟩ h

/-- The handler of a job, over the pipeline. -/
structure HandlerOk (pipe : State) (handler : JobHandler) : Prop where
  /-- It is a run of `jobMachine`. -/
  runs : (jobMachine handler.callMeta).Reachable (handler.job pipe)
  created : ∀ ref ∈ handler.batches, ref ∈ pipe.created
  holds : ∀ ref ∈ handler.batches,
    handler.callMeta.toJob ∈ (pipe.batches ref.id).jobs
  /-- Every attempt is made in a batch of its own. -/
  distinct : (handler.batches.map BatchRef.id).Nodup
  sent : ∀ ref ∈ handler.batches, ref.id ∈ pipe.batchJobs ∨
    handler.proc = .awaitsStarted ∧ handler.batches.getLast? = some ref

variable {pipe moved : State} {handler : JobHandler} {ref : BatchRef}

theorem leads_settle {state : JobState} {settled : Attempt → Attempt}
    (hstep : state.step callMeta event = state.settle number settled)
    (hlt : number < state.enqueued) :
    (jobMachine callMeta).Leads Machine.anyEvent state { state with
      attempts := Function.update state.attempts number
        (settled (state.attempts number)) } :=
  Machine.Next.leads ⟨event, True.intro, hstep.trans (if_pos hlt)⟩

theorem leads_told {state : JobState} {batch : Batch} {id : Nat}
    {message : Message} {attempt : Attempt}
    (h : batch.Told id message attempt)
    (hattempt : state.attempts number = batch.attempt)
    (hlt : number < state.enqueued) :
    (jobMachine callMeta).Leads Machine.anyEvent state { state with
      attempts := Function.update state.attempts number attempt } := by
  cases h with
  | working =>
      have hresolves := @leads_settle callMeta (.startedResolves number) number
        state (fun attempt => { attempt with
          startedPromise := attempt.startedPromise.resolve () }) rfl hlt
      rwa [hattempt] at hresolves
  | finished failedCalls =>
      have hresolves := fun result => @leads_settle callMeta
        (.finishedResolves number result) number state
        (fun attempt => { attempt with
          finishedPromise := attempt.finishedPromise.resolve result }) rfl hlt
      simp only [hattempt] at hresolves
      exact hresolves _
  | failed error =>
      have hstarted := @leads_settle callMeta (.startedRejects number error)
        number state (fun attempt => { attempt with
          startedPromise := attempt.startedPromise.reject error }) rfl hlt
      have hfinished := @leads_settle callMeta (.finishedRejects number error)
        number { state with
          attempts := Function.update state.attempts number
            { state.attempts number with startedPromise :=
                (state.attempts number).startedPromise.reject error } }
        (fun attempt => { attempt with
          finishedPromise := attempt.finishedPromise.reject error }) rfl hlt
      simp only [Function.update_self, Function.update_idem] at hfinished
      have hboth := hstarted.trans hfinished
      rwa [hattempt] at hboth

namespace JobHandler

theorem attempts_of_getElem {place : Nat}
    (h : handler.batches[place]? = some ref) :
    handler.attempts pipe place = (pipe.batches ref.id).attempt := by
  rw [attempts, h]

theorem attempts_of_none {place : Nat} (h : handler.batches[place]? = none) :
    handler.attempts pipe place = .fresh := by
  rw [attempts, h]

theorem current_of_getLast (h : handler.batches.getLast? = some ref) :
    (handler.job pipe).current = (pipe.batches ref.id).attempt := by
  rw [List.getLast?_eq_getElem?] at h
  exact attempts_of_getElem h

theorem attempts_eq
    (h : ∀ ref ∈ handler.batches,
      (moved.batches ref.id).attempt = (pipe.batches ref.id).attempt) :
    handler.attempts moved = handler.attempts pipe := by
  funext place
  cases hplace : handler.batches[place]? with
  | none => rw [attempts_of_none hplace, attempts_of_none hplace]
  | some ref =>
      rw [attempts_of_getElem hplace, attempts_of_getElem hplace,
        h ref (List.mem_of_getElem? hplace)]

/-- One of its batches is told of something. -/
theorem attempts_update {place : Nat}
    (distinct : (handler.batches.map BatchRef.id).Nodup)
    (hplace : handler.batches[place]? = some ref)
    (h : ∀ id : Nat, id ≠ ref.id →
      (moved.batches id).attempt = (pipe.batches id).attempt) :
    handler.attempts moved = Function.update (handler.attempts pipe) place
      (moved.batches ref.id).attempt := by
  funext other
  by_cases heq : other = place
  · rw [heq, Function.update_self]
    exact attempts_of_getElem hplace
  · rw [Function.update_of_ne heq]
    cases hother : handler.batches[other]? with
    | none => rw [attempts_of_none hother, attempts_of_none hother]
    | some found =>
        rw [attempts_of_getElem hother, attempts_of_getElem hother]
        refine h found.id fun hid => heq ?_
        have hlt := (List.getElem?_eq_some_iff.mp hother).1
        refine (List.getElem?_inj (by rwa [List.length_map]) distinct).mp ?_
        rw [List.getElem?_map, List.getElem?_map, hother, hplace]
        exact congrArg some hid

end JobHandler

/-- What the pipeline does is for each job steps of `jobMachine`, or none. -/
theorem HandlerOk.leads (h : HandlerOk pipe handler) (moves : pipe.Moves moved) :
    (jobMachine handler.callMeta).Leads Machine.anyEvent (handler.job pipe)
      (handler.job moved) := by
  have hstays : (∀ ref ∈ handler.batches,
      (moved.batches ref.id).attempt = (pipe.batches ref.id).attempt) →
      (jobMachine handler.callMeta).Leads Machine.anyEvent (handler.job pipe)
        (handler.job moved) := fun hsame => by
    simp only [JobHandler.job, JobHandler.attempts_eq hsame]
    exact Relation.ReflTransGen.refl
  rcases moves.attempts with hsame | ⟨message, -, number, -, htold, hsame⟩
  · exact hstays fun ref _ => hsame ref.id
  · by_cases hnumber : ∃ (place : Nat) (ref : BatchRef),
      handler.batches[place]? = some ref ∧ ref.id = number
    · obtain ⟨place, ref, hplace, rfl⟩ := hnumber
      have hlt := (List.getElem?_eq_some_iff.mp hplace).1
      have hleads := @leads_told handler.callMeta place (handler.job pipe) _ _
        _ _ htold (JobHandler.attempts_of_getElem hplace) hlt
      simp only [JobHandler.job,
        JobHandler.attempts_update h.distinct hplace hsame]
      exact hleads
    · refine hstays fun ref member => hsame ref.id fun hid => hnumber ?_
      obtain ⟨place, hplace⟩ := List.mem_iff_getElem?.mp member
      exact ⟨place, ref, hplace, hid⟩

theorem HandlerOk.moves (h : HandlerOk pipe handler) (ok : PipeOk pipe)
    (moves : pipe.Moves moved) : HandlerOk moved handler where
  runs := Machine.Reaches.leads h.runs (h.leads moves)
  created := fun ref member => moves.created ref (h.created ref member)
  holds := fun ref member => moves.jobs ref.id
    (ok.manager.fresh ref (h.created ref member)) _ (h.holds ref member)
  distinct := h.distinct
  sent := fun ref member => (h.sent ref member).imp_left
    (moves.batchJobs ref.id)

/-- Whoever makes another attempt has seen the last one start or fail. -/
theorem HandlerOk.sent_of_step (h : HandlerOk pipe handler) (ok : PipeOk pipe)
    (own : event.isOwn = true)
    (taken : (handler.job pipe).step handler.callMeta event = some after) :
    ∀ ref ∈ handler.batches, ref.id ∈ pipe.batchJobs := by
  intro ref member
  rcases h.sent ref member with hsent | ⟨hwaits, hlast⟩
  · exact hsent
  · by_contra hunsent
    have hsettled := settled_of_step own hwaits taken
    rw [JobHandler.current_of_getLast hlast, ok.untold ref.id hunsent]
      at hsettled
    cases hsettled

theorem HandlerOk.goesOn (h : HandlerOk pipe handler) (proc : JobProc)
    (sent : ∀ ref ∈ handler.batches, ref.id ∈ pipe.batchJobs)
    (leads : (jobMachine handler.callMeta).Leads Machine.anyEvent
      (handler.job pipe) { handler.job pipe with proc }) :
    HandlerOk pipe { handler with proc } where
  runs := Machine.Reaches.leads h.runs leads
  created := h.created
  holds := h.holds
  distinct := h.distinct
  sent := fun ref member => Or.inl (sent ref member)

theorem HandlerOk.enqueues (h : HandlerOk pipe handler) (ok : PipeOk pipe)
    (remainingRetries : Nat)
    (sent : ∀ ref ∈ handler.batches, ref.id ∈ pipe.batchJobs)
    (leads : (jobMachine handler.callMeta).Leads Machine.anyEvent
      (handler.job pipe)
      (JobState.processJob { handler.job pipe with remainingRetries })) :
    HandlerOk (pipe.addJob handler.callMeta.toJob) { handler with
      proc := .awaitsStarted
      remainingRetries
      batches := handler.batches ++
        [(pipe.findBatch handler.callMeta.pid).2] } := by
  have hmoves := ok.addJob_moves handler.callMeta.toJob
  have hmoved := h.moves ok hmoves
  obtain ⟨hcreated, hunsent⟩ := ok.found handler.callMeta.toJob
  have hattempts : JobHandler.attempts (pipe.addJob handler.callMeta.toJob)
      { handler with
        proc := .awaitsStarted
        remainingRetries
        batches := handler.batches ++
          [(pipe.findBatch handler.callMeta.pid).2] } =
      Function.update (handler.attempts pipe) handler.batches.length .fresh := by
    funext place
    have hsame := pipe.addJob_attempt handler.callMeta.toJob ok.fresh
    rcases Nat.lt_trichotomy place handler.batches.length with
      hold | rfl | hlater
    · rw [Function.update_of_ne (Nat.ne_of_lt hold)]
      simp only [JobHandler.attempts, List.getElem?_append_left hold, hsame]
    · rw [Function.update_self]
      simp only [JobHandler.attempts, List.getElem?_concat_length, hsame]
      exact ok.untold _ hunsent
    · rw [Function.update_of_ne (Nat.ne_of_gt hlater),
        JobHandler.attempts_of_none (List.getElem?_eq_none (Nat.le_of_lt hlater))]
      refine JobHandler.attempts_of_none (List.getElem?_eq_none ?_)
      rw [List.length_append]
      exact hlater
  refine
    { runs := ?_, created := ?_, holds := ?_, distinct := ?_, sent := ?_ }
  · have hruns := Machine.Reaches.leads h.runs leads
    simp only [JobHandler.job, hattempts, List.length_append,
      List.length_singleton]
    exact hruns
  · intro ref member
    rcases List.mem_append.mp member with hold | hnew
    · exact hmoved.created ref hold
    · rw [List.mem_singleton.mp hnew]
      exact hcreated
  · intro ref member
    rcases List.mem_append.mp member with hold | hnew
    · exact hmoved.holds ref hold
    · rw [List.mem_singleton.mp hnew]
      exact pipe.addJob_jobs handler.callMeta.toJob
  · simp only [List.map_append, List.map_singleton]
    refine List.nodup_append.mpr ⟨h.distinct, List.nodup_singleton _, ?_⟩
    intro old hold new hnew hsame
    obtain ⟨ref, member, rfl⟩ := List.mem_map.mp hold
    rw [List.mem_singleton.mp hnew] at hsame
    exact hunsent (hsame ▸ sent ref member)
  · intro ref member
    rcases List.mem_append.mp member with hold | hnew
    · exact Or.inl (hmoves.batchJobs _ (sent ref hold))
    · rw [List.mem_singleton.mp hnew]
      exact Or.inr ⟨rfl, List.getLast?_concat⟩

structure MessageBusOk (bus : MessageBus) : Prop where
  pipe : PipeOk bus.pipe
  handlers : ∀ handler ∈ bus.handlers, HandlerOk bus.pipe handler

variable {bus next : MessageBus} {place : Nat}

theorem MessageBus.goesOn_cases (taken : bus.goesOn place event = some next) :
    ∃ handler after, handler ∈ bus.handlers ∧ event.isOwn = true ∧
      (handler.job bus.pipe).step handler.callMeta event = some after ∧
      ((after.enqueued = handler.batches.length ∧
          next = { bus with
            handlers := bus.handlers.set place { handler with
              proc := after.proc
              remainingRetries := after.remainingRetries } }) ∨
        after.enqueued ≠ handler.batches.length ∧
          next = {
            pipe := bus.pipe.addJob handler.callMeta.toJob
            handlers := bus.handlers.set place { handler with
              proc := after.proc
              remainingRetries := after.remainingRetries
              batches := handler.batches ++
                [(bus.pipe.findBatch handler.callMeta.pid).2] } }) := by
  simp only [MessageBus.goesOn, Option.bind_eq_bind, Option.bind_eq_some_iff]
    at taken
  obtain ⟨handler, hplace, taken⟩ := taken
  split at taken
  · next hown =>
      obtain ⟨after, hafter, taken⟩ := Option.bind_eq_some_iff.mp taken
      refine ⟨handler, after, List.mem_of_getElem? hplace, hown, hafter, ?_⟩
      split at taken
      · next hsame => exact Or.inl ⟨hsame, (Option.some.inj taken).symm⟩
      · next hmore => exact Or.inr ⟨hmore, (Option.some.inj taken).symm⟩
  · cases taken

theorem MessageBusOk.goesOn (h : MessageBusOk bus)
    (taken : bus.goesOn place event = some next) : MessageBusOk next := by
  obtain ⟨handler, after, hmember, hown, hafter, hcases⟩ :=
    MessageBus.goesOn_cases taken
  have hhandler := h.handlers handler hmember
  have hsent := hhandler.sent_of_step h.pipe hown hafter
  have hleads : (jobMachine handler.callMeta).Leads Machine.anyEvent
      (handler.job bus.pipe) after :=
    Machine.Next.leads ⟨event, True.intro, hafter⟩
  have hadds := h.pipe.addJob_moves handler.callMeta.toJob
  have hadded : PipeOk (bus.pipe.addJob handler.callMeta.toJob) :=
    @PipeOk.step bus.pipe _ (.addJob handler.callMeta.toJob) h.pipe rfl
  have henqueues : ∀ remainingRetries,
      after = JobState.processJob
        { handler.job bus.pipe with remainingRetries } →
      MessageBusOk next := by
    rintro remainingRetries rfl
    obtain ⟨hsame, -⟩ | ⟨-, rfl⟩ := hcases
    · exact absurd hsame (Nat.succ_ne_self _)
    · refine ⟨hadded, fun other member => ?_⟩
      rcases List.mem_or_eq_of_mem_set member with hold | rfl
      · exact (h.handlers other hold).moves h.pipe hadds
      · exact hhandler.enqueues h.pipe remainingRetries hsent hleads
  cases JobState.Advances.of_step hown hafter with
  | goesOn proc waits finished done failed =>
      obtain ⟨-, rfl⟩ | ⟨hmore, -⟩ := hcases
      · refine ⟨h.pipe, fun other member => ?_⟩
        rcases List.mem_or_eq_of_mem_set member with hold | rfl
        · exact h.handlers other hold
        · exact hhandler.goesOn proc hsent hleads
      · exact absurd rfl hmore
  | enqueues prepares => exact henqueues _ rfl
  | retries begun left => exact henqueues _ rfl

theorem MessageBusOk.moves {event : Event} {pipe : State}
    (h : MessageBusOk bus) (taken : Trade.step bus.pipe event = some pipe) :
    MessageBusOk { bus with pipe } where
  pipe := h.pipe.step taken
  handlers := fun handler member =>
    (h.handlers handler member).moves h.pipe (h.pipe.step_moves taken)

theorem MessageBus.moves_cases {event : Event}
    (taken : bus.step (.moves event) = some next) :
    ∃ pipe, Trade.step bus.pipe event = some pipe ∧
      next = { bus with pipe } := by
  have hmap : (Trade.step bus.pipe event).map
      (fun pipe => { bus with pipe }) = some next := by
    cases event with
    | addJob job => cases taken
    | _ => exact taken
  obtain ⟨pipe, hpipe, rfl⟩ := Option.map_eq_some_iff.mp hmap
  exact ⟨pipe, hpipe, rfl⟩

theorem messageBusOk_step {busEvent : BusEvent} (h : MessageBusOk bus)
    (taken : bus.step busEvent = some next) : MessageBusOk next := by
  cases busEvent with
  | receives callMeta =>
      cases taken
      refine ⟨h.pipe, fun handler member => ?_⟩
      rcases List.mem_append.mp member with hold | hnew
      · exact h.handlers handler hold
      · rw [List.mem_singleton.mp hnew]
        exact
          { runs := Relation.ReflTransGen.refl
            created := fun ref hmember => by cases hmember
            holds := fun ref hmember => by cases hmember
            distinct := List.nodup_nil
            sent := fun ref hmember => by cases hmember }
  | goesOn place event => exact h.goesOn taken
  | moves event =>
      obtain ⟨pipe, hpipe, rfl⟩ := MessageBus.moves_cases taken
      exact h.moves hpipe

end RuntimeBridge.Trade
