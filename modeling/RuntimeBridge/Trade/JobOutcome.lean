import RuntimeBridge.Trade.Attribution
import RuntimeBridge.Trade.ProcessBatch
import RuntimeBridge.Trade.Reports

/-! The trader runs `processBatch` for the batches of the jobs.  A job is
reported finished only if the chain has made all of its calls, and failed only
behind the last of its retries. -/

namespace RuntimeBridge.Trade

open Library

def Execution.outcome {Value : Type} (execution : Execution Value) :
    State.Outcome :=
  match execution.messages.getLast? with
  | some (.finished _ failedCalls) => .finished failedCalls
  | some (.failed _ error) => .failed error
  | _ => .thrown

/-- An execution of `processBatch`, from the nonces that its trader holds. -/
structure BatchRun {Value : Type} (api : Api Value) where
  payload : Payload
  poolNonces : Nat → Option PoolNonce
  steps : Steps
  execution : Execution Value
  ran : processBatch api poolNonces payload steps = some execution

structure TradedJobs {Value : Type} (api : Api Value) where
  bus : MessageBus
  /-- Every execution that has come to its end. -/
  runs : List (BatchRun api)

inductive JobsEvent {Value : Type} (api : Api Value) where
  | moves (event : BusEvent)
  | executes (run : BatchRun api)

variable {Value : Type} {api : Api Value}

/-- A batch ends as its execution does, which has reported it working before if
it reports that at all. -/
def TradedJobs.step (jobs : TradedJobs api) :
    JobsEvent api → Option (TradedJobs api)
  | .moves (.moves (.processBatchEnds _ _)) => none
  | .moves event => (jobs.bus.step event).map fun bus => { jobs with bus }
  | .executes run =>
      if .working run.payload.id ∈ run.execution.messages ↔
          run.payload.id ∈ jobs.bus.pipe.reported then
        (jobs.bus.step (.moves
          (.processBatchEnds run.payload run.execution.outcome))).map
            fun bus => { bus, runs := jobs.runs ++ [run] }
      else
        none

def jobsMachine (api : Api Value) : Machine (TradedJobs api) (JobsEvent api) where
  start := { bus := .initial, runs := [] }
  step := TradedJobs.step

/-- A block that reports no error of the whole has an event for every call of
`forceBatch`. -/
def BatchRun.Itemized (run : BatchRun api) : Prop :=
  ∀ pool result failed, run.steps.findOne = .ok (some pool) →
    .status result ∈ run.steps.sending → result.status = .inBlock →
    onInBlock pool.isProxy result = .ok failed →
    ∃ outcomes, outcomes.length = run.payload.calls.length ∧
      Included pool.isProxy outcomes result

def itemized (_ : TradedJobs api) (event : JobsEvent api) : Prop :=
  ∀ run, event = .executes run → run.Itemized

/-- The transaction that was submitted for the batch is in a block, which says
what has become of the calls of each job, and so does the report. -/
structure BatchRun.InBlock (run : BatchRun api) (parts : List JobRun) : Prop where
  calls : run.payload.calls = parts.flatMap (·.job.calls)
  block : ∃ pool tx nonce result,
    run.steps.findOne = .ok (some pool) ∧
      formTx api pool run.payload.calls = .ok tx ∧
      run.execution.submission = some (tx, nonce) ∧
      .status result ∈ run.steps.sending ∧
      Included pool.isProxy (parts.flatMap (·.outcomes)) result
  messages : run.execution.messages = [.working run.payload.id,
    .finished run.payload.id (failedFrom 0 (parts.flatMap (·.outcomes)))]

/-- The trader was sent the jobs of the batch, and its execution for them is in
a block. -/
def TradedJobs.InBlock (jobs : TradedJobs api) (ref : BatchRef)
    (parts : List JobRun) : Prop :=
  parts.map (·.job) = (jobs.bus.pipe.batches ref.id).jobs ∧
    ∃ run ∈ jobs.runs, run.payload ∈ jobs.bus.pipe.sent ∧
      run.payload.ref = ref ∧ run.InBlock parts

def Reported (runs : List (BatchRun api)) (payload : Payload)
    (failedCalls : List FailedCall) : Prop :=
  ∃ run ∈ runs, run.payload = payload ∧
    run.execution.outcome = .finished failedCalls

/-- The jobs of the message bus, and what the trader has reported for them. -/
structure JobsOk (jobs : TradedJobs api) : Prop extends
    MessageBusOk jobs.bus where
  reported : ReportedOk (Reported jobs.runs) jobs.bus.pipe
  itemized : ∀ run ∈ jobs.runs, run.Itemized

variable {failedCalls : List FailedCall} {jobs after : TradedJobs api}
  {event : JobsEvent api} {run : BatchRun api} {ref : BatchRef}

theorem status_of_sendTx {isProxy : Bool} {events : List TxEvent}
    (h : sendTx isProxy events = some (.ok failedCalls)) :
    ∃ result, .status result ∈ events ∧ result.status = .inBlock ∧
      onInBlock isProxy result = .ok failedCalls := by
  obtain ⟨event, hmember, houtcome⟩ := List.exists_of_findSome?_eq_some h
  cases event with
  | timeout => cases houtcome
  | signed => cases houtcome
  | failed e => cases houtcome
  | status result =>
      simp only [TxEvent.outcome, onStatus] at houtcome
      refine ⟨result, hmember, ?_⟩
      split at houtcome
      · cases houtcome
      · cases houtcome
      · cases houtcome
      · next hstatus => exact ⟨hstatus, Option.some.inj houtcome⟩
      · cases houtcome

/-- What an execution tells the manager is what the pipeline sends for it. -/
theorem BatchRun.messages_outcome (run : BatchRun api) :
    ∃ reported : Bool,
      run.execution.messages =
        (if reported then [.working run.payload.id] else []) ++
          run.execution.outcome.messages run.payload.id ∧
        (run.execution.outcome.isFinished = true → reported = true) := by
  obtain ⟨reported, outcome, hmessages, hfinished⟩ :=
    processBatch_outcome run.ran
  have hsame : run.execution.outcome = outcome := by
    rw [Execution.outcome, hmessages]
    cases outcome <;> cases reported <;> rfl
  exact ⟨reported, hsame ▸ hmessages, hsame ▸ hfinished⟩

theorem BatchRun.sends (run : BatchRun api)
    (h : run.execution.messages =
      [.working run.payload.id, .finished run.payload.id failedCalls]) :
    ∃ pool tx nonce, run.steps.findOne = .ok (some pool) ∧
      formTx api pool run.payload.calls = .ok tx ∧
      run.execution.submission = some (tx, nonce) ∧
      sendTx pool.isProxy run.steps.sending = some (.ok failedCalls) := by
  have hran := run.ran
  unfold processBatch at hran
  split at hran
  · cases Option.some.inj hran ▸ h
  · next pool tx hprepare =>
      obtain ⟨hfind, hformed⟩ := prepareBatch_eq_ok hprepare
      split at hran
      · cases Option.some.inj hran ▸ h
      · next nonce _ =>
          obtain ⟨sent, hsent, hexecution⟩ := Option.map_eq_some_iff.mp hran
          rw [← hexecution] at h ⊢
          refine ⟨pool, tx, txNonce nonce, hfind, hformed, rfl, ?_⟩
          cases sent with
          | error e => cases h
          | ok reportedCalls =>
              cases h
              exact hsent

/-- An execution that reports its batch finished has seen it in a block. -/
theorem BatchRun.Itemized.inBlock (h : run.Itemized)
    (hfinished : run.execution.outcome = .finished failedCalls)
    {batch : List Job} (hcalls : run.payload.calls = batch.flatMap (·.calls)) :
    ∃ parts : List JobRun, parts.map (·.job) = batch ∧ run.InBlock parts ∧
      failedCalls = failedFrom 0 (parts.flatMap (·.outcomes)) := by
  obtain ⟨reported, hmessages, hreported⟩ := run.messages_outcome
  rw [hfinished] at hmessages hreported
  rw [hreported rfl] at hmessages
  obtain ⟨pool, tx, nonce, hfind, hformed, hsubmission, hsent⟩ :=
    run.sends hmessages
  obtain ⟨result, hmember, hstatus, hblock⟩ := status_of_sendTx hsent
  obtain ⟨outcomes, hlength, hincluded⟩ :=
    h pool result failedCalls hfind hmember hstatus hblock
  rw [onInBlock_eq hincluded] at hblock
  obtain rfl := (Except.ok.inj hblock).symm
  obtain ⟨parts, rfl, rfl⟩ := exists_runs batch (by rw [hlength, hcalls])
  refine ⟨parts, rfl, ?_, rfl⟩
  exact
    { calls := by rw [hcalls, List.flatMap_map]
      block := ⟨pool, tx, nonce, result, hfind, hformed, hsubmission, hmember,
        hincluded⟩
      messages := hmessages }

/-- What the jobs of a batch are told was made of its execution in this run. -/
theorem JobsOk.inBlock (h : JobsOk jobs) (created : ref ∈ jobs.bus.pipe.created)
    {result : BatchResult}
    (hresult : (jobs.bus.pipe.batches ref.id).finishedPromise =
      .resolved result) :
    ∃ parts, jobs.InBlock ref parts ∧ result = resultOf parts := by
  obtain ⟨payload, hsent, hid, failedCalls, ⟨run, hrun, rfl, hfinished⟩, rfl⟩ :=
    h.reported.results ref.id result hresult
  have hmanager := h.pipe.manager
  have href : run.payload.ref = ref := hmanager.eq_of_id
    (hmanager.created_of_committed (hmanager.committed_of_sent hsent)) created
    hid
  have hbatch : BatchOk ref (jobs.bus.pipe.batches ref.id) :=
    hmanager.contents ref created
  have hcalls : run.payload.calls =
      (jobs.bus.pipe.batches ref.id).jobs.flatMap (·.calls) := by
    rw [hmanager.sentCalls run.payload hsent, ← hbatch.calls, ← hid]
  obtain ⟨parts, hparts, hblock, rfl⟩ :=
    (h.itemized run hrun).inBlock hfinished hcalls
  refine ⟨parts, ⟨hparts, run, hrun, hsent, href, hblock⟩, ?_⟩
  rw [hbatch.addAll hparts, resultOf]

theorem TradedJobs.step_cases (taken : jobs.step event = some after) :
    (∃ move, (∀ payload outcome,
          move ≠ .moves (.processBatchEnds payload outcome)) ∧
        jobs.bus.step move = some after.bus ∧ after.runs = jobs.runs) ∨
      ∃ run, event = .executes run ∧
        jobs.bus.step (.moves
          (.processBatchEnds run.payload run.execution.outcome)) =
            some after.bus ∧
        after.runs = jobs.runs ++ [run] := by
  unfold TradedJobs.step at taken
  split at taken
  · cases taken
  · next move hother =>
      obtain ⟨bus, hbus, rfl⟩ := Option.map_eq_some_iff.mp taken
      exact Or.inl ⟨move, hother, hbus, rfl⟩
  · next run =>
      split at taken
      · obtain ⟨bus, hbus, rfl⟩ := Option.map_eq_some_iff.mp taken
        exact Or.inr ⟨run, rfl, hbus, rfl⟩
      · cases taken

/-- A step of the bus keeps what was reported, if a report that is made in it
has been made of an execution. -/
theorem ReportedOk.bus {good : Payload → List FailedCall → Prop}
    {bus next : MessageBus} {move : BusEvent} (h : ReportedOk good bus.pipe)
    (ok : MessageBusOk bus)
    (reports : ∀ payload failedCalls,
      move = .moves (.processBatchEnds payload (.finished failedCalls)) →
        good payload failedCalls)
    (taken : bus.step move = some next) : ReportedOk good next.pipe := by
  cases move with
  | receives callMeta =>
      cases taken
      exact h
  | goesOn place event =>
      obtain ⟨handler, _, -, -, -, ⟨-, rfl⟩ | ⟨-, rfl⟩⟩ :=
        MessageBus.goesOn_cases taken
      · exact h
      · exact @ReportedOk.step _ bus.pipe _
          (.addJob handler.callMeta.toJob) h ok.pipe
          (fun _ _ hsame => by cases hsame) rfl
  | moves event =>
      obtain ⟨pipe, hpipe, rfl⟩ := MessageBus.moves_cases taken
      exact h.step ok.pipe (fun payload failedCalls hends =>
        reports payload failedCalls (by rw [hends])) hpipe

theorem jobsOk_step :
    (jobsMachine api).Preserves Trade.itemized JobsOk := by
  intro jobs event after hguard h taken
  rcases TradedJobs.step_cases taken with
    ⟨move, hother, hbus, hruns⟩ | ⟨run, hevent, hbus, hruns⟩
  · refine { messageBusOk_step h.toMessageBusOk hbus with
      reported := ?_, itemized := ?_ }
    · rw [hruns]
      exact h.reported.bus h.toMessageBusOk
        (fun payload failedCalls hends => absurd hends (hother payload _)) hbus
    · rw [hruns]
      exact h.itemized
  · have hgrown : ReportedOk (Reported after.runs) jobs.bus.pipe := by
      refine h.reported.mono fun payload failedCalls hreported => ?_
      obtain ⟨other, hmember, hpayload, hfinished⟩ := hreported
      refine ⟨other, ?_, hpayload, hfinished⟩
      rw [hruns]
      exact List.mem_append_left _ hmember
    refine { messageBusOk_step h.toMessageBusOk hbus with
      reported := hgrown.bus h.toMessageBusOk ?_ hbus, itemized := ?_ }
    · intro payload failedCalls hends
      obtain ⟨hpayload, hfinished⟩ :=
        Event.processBatchEnds.inj (BusEvent.moves.inj hends)
      refine ⟨run, ?_, hpayload, hfinished⟩
      rw [hruns]
      exact List.mem_append_right _ (List.mem_singleton.mpr rfl)
    · intro other hmember
      rw [hruns] at hmember
      rcases List.mem_append.mp hmember with hold | hnew
      · exact h.itemized other hold
      · rw [List.mem_singleton.mp hnew]
        exact hguard run hevent

theorem jobsOk_reachable (h : (jobsMachine api).Reaches Trade.itemized jobs) :
    JobsOk jobs :=
  jobsOk_step.reaches
    { pipe := PipeOk.start
      handlers := fun _ member => by cases member
      reported := ReportedOk.start
      itemized := fun _ member => by cases member } h

/-- Whatever the jobs, the trader and their promises do, what a batch is told of
its end was seen in a block that holds the transaction of its execution, and its
jobs make their own failures of it.  Each handler is a run of `jobMachine`,
every attempt is made in a batch of its own, and there are at most as many as
the job may be retried.  A job fails before its first attempt or behind the last
that it has.  When it is reported finished, the block of its last attempt says
that every call of the job has succeeded. -/
theorem jobs_carried_out (api : Api Value) (jobs : TradedJobs api)
    (h : (jobsMachine api).Reaches itemized jobs) :
    (∀ ref ∈ jobs.bus.pipe.created, ∀ result,
      (jobs.bus.pipe.batches ref.id).finishedPromise = .resolved result →
      ∃ parts, jobs.InBlock ref parts ∧
        ((parts.map (·.job.id)).Nodup → Attributed parts result)) ∧
    ∀ handler ∈ jobs.bus.handlers,
      (jobMachine handler.callMeta).Reachable (handler.job jobs.bus.pipe) ∧
      (handler.batches.map BatchRef.id).Nodup ∧
      handler.batches.length ≤ 1 + handler.callMeta.retries ∧
      (∀ error, handler.proc = .failed error → handler.batches = [] ∨
        handler.batches.length = 1 + handler.callMeta.retries) ∧
      (handler.proc = .reportsFinished ∨ handler.proc = .done →
        ∃ ref parts, handler.batches.getLast? = some ref ∧
          jobs.InBlock ref parts ∧
          (∃ part ∈ parts, part.job = handler.callMeta.toJob) ∧
          ∀ part ∈ parts, part.job.id = handler.callMeta.id →
            ∀ outcome ∈ part.outcomes, outcome = none) := by
  have hok := jobsOk_reachable h
  refine ⟨fun ref created result hresult => ?_, fun handler member => ?_⟩
  · obtain ⟨parts, hblock, rfl⟩ := hok.inBlock created hresult
    exact ⟨parts, hblock, attributed_resultOf⟩
  have hhandler := hok.handlers handler member
  obtain ⟨hjob, houtcome⟩ := outcomeOk_reachable hhandler.runs
  refine ⟨hhandler.runs, hhandler.distinct, ?_, fun error hfailed => ?_,
    fun hends => ?_⟩
  · rcases Nat.eq_zero_or_pos handler.batches.length with hnone | hpos
    · omega
    · have hbudget : handler.batches.length + handler.remainingRetries =
          1 + handler.callMeta.retries := houtcome.budget hpos
      omega
  · rcases List.eq_nil_or_concat' handler.batches with hnone | ⟨_, _, hsome⟩
    · exact Or.inl hnone
    · have hpos : 0 < handler.batches.length := by
        rw [hsome]
        simp
      have hbudget : handler.batches.length + handler.remainingRetries =
          1 + handler.callMeta.retries := houtcome.budget hpos
      have hleft : handler.remainingRetries = 0 :=
        houtcome.failed error hfailed hpos
      exact Or.inr (by omega)
  · obtain ⟨result, hresult, hwaited⟩ := houtcome.finished hends
    cases hlast : handler.batches.getLast? with
    | none =>
        rw [List.getLast?_eq_none_iff] at hlast
        simp [JobState.current, JobHandler.job, JobHandler.attempts, hlast,
          Attempt.fresh] at hresult
    | some ref =>
        have hmember : ref ∈ handler.batches := List.mem_of_getLast? hlast
        rw [JobHandler.current_of_getLast hlast] at hresult
        obtain ⟨parts, hblock, rfl⟩ :=
          hok.inBlock (hhandler.created ref hmember) hresult
        refine ⟨ref, parts, rfl, hblock, ?_, fun part hpart hid =>
          unfailed_of_wait hwaited hpart hid⟩
        have hheld := hhandler.holds ref hmember
        rw [← hblock.1] at hheld
        exact List.mem_map.mp hheld

def transferBatch (id : Nat) : Payload where
  id
  pid := 1
  calls := transfer.calls

/-- What brings a committed batch into the execution that reports it working. -/
def executes (payload : Payload) : List BusEvent :=
  [.moves (.timeout payload.ref), .moves (.dequeue payload.pid),
    .moves .addBatch, .moves .deliverToTrader, .moves .deliverToManager,
    .moves (.doAddJobSettles payload), .moves (.reportWorking payload)]

def transferSteps (sending : List TxEvent) : Steps where
  findOne := .ok (some
    { id := 1, pid := 1, proxiedAccountSs58 := none, operator := .ok "alice" })
  unlock := .ok ()
  accountNextIndex := .ok 3
  sending

def transferBlock : TxResult where
  status := .inBlock
  statusText := "InBlock"
  dispatchError := none
  events := [.itemCompleted, .batchCompleted]

/-- The transaction is never seen again. -/
def transferTimesOut : BatchRun plainApi where
  payload := transferBatch 0
  poolNonces _ := none
  steps := transferSteps [.signed, .timeout]
  execution :=
    { messages := [.working 0, .failed 0 txTimeOutError.report]
      poolNonces := Function.update (fun _ => none) 1 (some .nan)
      submission := some ((), -1) }
  ran := rfl

def transferIncluded : BatchRun plainApi where
  payload := transferBatch 1
  poolNonces := Function.update (fun _ => none) 1 (some .nan)
  steps := transferSteps [.signed, .status transferBlock]
  execution :=
    { messages := [.working 1, .finished 1 []]
      poolNonces := Function.update
        (Function.update (fun _ => none) 1 (some .nan)) 1 (some (.number 4))
      submission := some ((), 3) }
  ran := rfl

def onBus (events : List BusEvent) : List (JobsEvent plainApi) :=
  events.map .moves

/-- The transaction of the first batch times out, that of the second gets into a
block. -/
def transferRun : List (JobsEvent plainApi) :=
  onBus [.moves .traderBoots, .moves .deliverToManager, .receives transfer,
    .goesOn 0 .reportResolves, .goesOn 0 (.preprocessed (.ok ())),
    .goesOn 0 .reportResolves] ++
  onBus (executes (transferBatch 0)) ++
  [.executes transferTimesOut] ++
  onBus [.moves (.sendSlotFreed (transferBatch 0)), .moves .deliverToManager,
    .moves .deliverToManager, .goesOn 0 .continues, .goesOn 0 .reportResolves,
    .goesOn 0 .continues] ++
  onBus (executes (transferBatch 1)) ++
  [.executes transferIncluded] ++
  onBus [.moves .deliverToManager, .moves .deliverToManager,
    .goesOn 0 .continues, .goesOn 0 .reportResolves, .goesOn 0 .continues,
    .goesOn 0 .reportResolves]

theorem itemized_transferRun (jobs : TradedJobs plainApi) :
    ∀ event ∈ transferRun, itemized jobs event := by
  intro event member run hexecutes
  subst hexecutes
  simp only [transferRun, onBus, executes, List.cons_append, List.nil_append,
    List.map_cons, List.map_nil, List.mem_cons, List.not_mem_nil, or_false,
    false_or, reduceCtorEq, JobsEvent.executes.injEq] at member
  rcases member with rfl | rfl
  · rintro pool result failed - hmember - -
    simp [transferTimesOut, transferSteps] at hmember
  · rintro pool result failed hfind hmember - -
    cases hfind
    simp only [transferIncluded, transferSteps, List.mem_cons, reduceCtorEq,
      List.not_mem_nil, or_false, false_or, TxEvent.status.injEq] at hmember
    subst hmember
    exact ⟨[none], rfl,
      { status := rfl
        dispatchError := rfl
        proxy := nofun
        items := rfl
        completedWithErrors := rfl
        completed := fun _ => rfl
        decoded := by
          intro error herror
          simp at herror }⟩

theorem jobs_carried_out_retried :
    let jobs := (jobsMachine plainApi).ended transferRun
    jobs.bus.handlers.map
        (fun handler => (handler.proc, handler.batches.length)) =
          [(.done, 2)] ∧
      ∀ handler ∈ jobs.bus.handlers,
        handler.proc = .reportsFinished ∨ handler.proc = .done →
          ∃ ref parts, handler.batches.getLast? = some ref ∧
            jobs.InBlock ref parts ∧
            (∃ part ∈ parts, part.job = handler.callMeta.toJob) ∧
            ∀ part ∈ parts, part.job.id = handler.callMeta.id →
              ∀ outcome ∈ part.outcomes, outcome = none := by
  refine ⟨by decide, fun handler member => ?_⟩
  exact ((jobs_carried_out plainApi _
    (Machine.reaches_ended itemized_transferRun (by decide))).2
      handler member).2.2.2.2

end RuntimeBridge.Trade
