import RuntimeBridge.Trade.Preprocess
import RuntimeBridge.Trade.SendOrder

/-! What the requests of the lifecycle manager become: the transactions of a
pool make the calls of its requests, in the order of the requests. -/

namespace RuntimeBridge.Trade

open Library

/-- The job is what `preprocess` makes of the request. -/
def Asked (createType : String → Arg → Except Thrown String)
    (request : Request) (job : Job) : Prop :=
  ∃ shouldRetry,
    preprocess createType job.id request = .ok { job with shouldRetry }

def asksFor (createType : String → Arg → Except Thrown String) (_ : State)
    (event : Event) : Prop :=
  ∀ job, event = .addJob job → ∃ request, Asked createType request job

/-- A call of the stake pools is about this pool. -/
def NamesPool (pid : Nat) (call : Call) : Prop :=
  ∀ rest, call = .property "tx" :: .property "phalaStakePoolv2" :: rest →
    ∃ name args, rest = [.property name, .apply (toString pid :: args)]

/-- The transaction that makes the calls of the actions on the API itself. -/
def submits {Value : Type} (api : Api Value)
    (createType : String → Arg → Except Thrown String) (pool : Pool)
    (requests : List Request) : Except Thrown Value := do
  let wrapped ← requests.mapM (Request.run createType api.invoke)
  let batchTx ← api.forceBatch (wrapped.flatMap (·.calls))
  if pool.isProxy then
    api.proxy pool.proxiedAccountSs58 batchTx
  else
    return batchTx

/-- A batch of whole jobs.  Its transaction is the one that their requests ask
for, and the operator of the pool signs nothing about another pool. -/
structure Submitted (createType : String → Arg → Except Thrown String)
    (payload : Payload) (group : List Job) : Prop where
  nonempty : group ≠ []
  calls : payload.calls = group.flatMap (·.calls)
  names : ∀ call ∈ payload.calls, NamesPool payload.pid call
  submits : ∀ {Value : Type} (api : Api Value) (poolNonces steps)
    (execution : Execution Value) (tx nonce),
    processBatch api poolNonces payload steps = some execution →
    execution.submission = some (tx, nonce) →
    ∀ requests, List.Forall₂ (Asked createType) requests group →
      ∃ pool, steps.findOne = .ok (some pool) ∧
        submits api createType pool requests = .ok tx

structure RequestsOk (createType : String → Arg → Except Thrown String)
    (state : State) : Prop extends ManagerOk state where
  asked : ∀ job ∈ state.jobs, ∃ request, Asked createType request job

variable {Value : Type} {createType : String → Arg → Except Thrown String}
  {request : Request} {requests : List Request} {job : Job} {group : List Job}
  {state after : State} {event : Event} {payload : Payload} {pid : Nat}

theorem Asked.run (h : Asked createType request job) :
    job.pid = request.payload.pid ∧
      ∃ shouldRetry, request.run createType apiProxy =
        .ok { shouldRetry, calls := job.calls } := by
  obtain ⟨shouldRetry, h⟩ := h
  obtain ⟨jobMeta, hrun, h⟩ := bind_eq_ok.mp h
  cases job
  cases h
  exact ⟨rfl, _, hrun⟩

theorem Asked.replay (h : Asked createType request job) (api : Api Value) :
    ∃ shouldRetry, request.run createType api.invoke =
      (job.calls.mapM api.replay).map
        fun calls => { shouldRetry, calls } := by
  obtain ⟨-, shouldRetry, hrun⟩ := h.run
  refine ⟨shouldRetry, ?_⟩
  unfold Request.run at hrun ⊢
  split at hrun
  · exact run_replay hrun api
  · cases hrun

theorem replay_requests (h : List.Forall₂ (Asked createType) requests group)
    (api : Api Value) :
    (group.flatMap (·.calls)).mapM api.replay =
      (requests.mapM (Request.run createType api.invoke)).map
        fun wrapped => wrapped.flatMap (·.calls) := by
  induction h with
  | nil => rfl
  | @cons request job later jobs hfirst _ ih =>
      obtain ⟨shouldRetry, hrun⟩ := hfirst.replay api
      rw [List.flatMap_cons, List.mapM_append, List.mapM_cons, hrun, ih]
      cases job.calls.mapM api.replay with
      | error e => rfl
      | ok calls =>
          cases later.mapM (Request.run createType api.invoke) <;> rfl

theorem formTx_requests (h : List.Forall₂ (Asked createType) requests group)
    (api : Api Value) (pool : Pool) :
    formTx api pool (group.flatMap (·.calls)) =
      submits api createType pool requests := by
  have hreplay := replay_requests h api
  unfold Api.replay at hreplay
  unfold formTx submits
  rw [hreplay]
  cases requests.mapM (Request.run createType api.invoke) <;> rfl

theorem formTx_of_submission {api : Api Value}
    {poolNonces : Nat → Option PoolNonce} {steps : Steps}
    {execution : Execution Value} {tx : Value} {nonce : Int}
    (h : processBatch api poolNonces payload steps = some execution)
    (hsubmission : execution.submission = some (tx, nonce)) :
    ∃ pool, steps.findOne = .ok (some pool) ∧
      formTx api pool payload.calls = .ok tx := by
  unfold processBatch at h
  split at h
  · cases h
    cases hsubmission
  · next pool prepared hprepare =>
      split at h
      · cases h
        cases hsubmission
      · obtain ⟨sent, -, rfl⟩ := Option.map_eq_some_iff.mp h
        cases hsubmission
        exact ⟨pool, prepareBatch_eq_ok hprepare⟩

theorem namesPool_other {pallet method : String} {args : List Arg} {call : Call}
    (hother : pallet ≠ "phalaStakePoolv2")
    (h : apiProxy "tx" [pallet, method] args = .ok call) :
    NamesPool pid call := by
  obtain ⟨texts, -, rfl⟩ := apiProxy_eq_ok h
  intro rest hcall
  exact absurd (Segment.property.inj (List.cons.inj (List.cons.inj hcall).2).1)
    hother

theorem namesPool_pid {payload : RequestPayload} {method : String}
    {args : List Arg} {call : Call}
    (h : apiProxy "tx" ["phalaStakePoolv2", method] (payload.pidArg :: args) =
      .ok call) :
    NamesPool payload.pid call := by
  obtain ⟨texts, htexts, rfl⟩ := apiProxy_eq_ok h
  rw [List.mapM_cons] at htexts
  obtain ⟨first, hfirst, htexts⟩ := bind_eq_ok.mp htexts
  obtain ⟨others, -, htexts⟩ := bind_eq_ok.mp htexts
  cases hfirst
  cases htexts
  intro rest hcall
  exact ⟨method, others, (List.cons.inj (List.cons.inj hcall).2).2.symm⟩

theorem namesPool_wrapCall {call : Except Thrown Call} {wrapped : Wrapped Call}
    (h : wrapCall call = .ok wrapped)
    (names : ∀ made, call = .ok made → NamesPool pid made) :
    ∀ made ∈ wrapped.calls, NamesPool pid made := by
  obtain ⟨made, hmade, h⟩ := bind_eq_ok.mp h
  cases h
  intro other hmember
  rw [List.mem_singleton.mp hmember]
  exact names made hmade

theorem namesPool_run {action : Action} {payload : RequestPayload}
    {wrapped : Wrapped Call}
    (h : action.run createType apiProxy payload = .ok wrapped) :
    ∀ call ∈ wrapped.calls, NamesPool payload.pid call := by
  cases action with
  | batchSyncMqMessage =>
      simp only [Action.run, BATCH_SYNC_MQ_MESSAGE] at h
      split at h
      · cases h
      · obtain ⟨calls, hcalls, h⟩ := bind_eq_ok.mp h
        cases h
        intro call hmember
        obtain ⟨msg, -, hcall⟩ := mem_of_mapM hcalls hmember
        obtain ⟨message, -, hcall⟩ := bind_eq_ok.mp hcall
        exact namesPool_other (by decide) hcall
  | registerWorker =>
      exact namesPool_wrapCall h fun _ => namesPool_other (by decide)
  | addWorker => exact namesPool_wrapCall h fun _ => namesPool_pid
  | stopComputing => exact namesPool_wrapCall h fun _ => namesPool_pid
  | startComputing =>
      obtain ⟨balance, -, h⟩ := bind_eq_ok.mp h
      exact namesPool_wrapCall h fun _ => namesPool_pid
  | restartComputing =>
      obtain ⟨balance, -, h⟩ := bind_eq_ok.mp h
      exact namesPool_wrapCall h fun _ => namesPool_pid

theorem Asked.names (h : Asked createType request job) :
    ∀ call ∈ job.calls, NamesPool job.pid call := by
  obtain ⟨hpid, shouldRetry, hrun⟩ := h.run
  rw [hpid]
  unfold Request.run at hrun
  split at hrun
  · exact namesPool_run hrun
  · cases hrun

theorem requestsOk_step :
    pipeline.Preserves (asksFor createType) (RequestsOk createType) := by
  intro state event after hguard h taken
  have hmanager : ManagerOk after :=
    managerOk_step state event after True.intro h.toManagerOk taken
  refine { hmanager with asked := ?_ }
  cases event with
  | addJob job =>
      cases taken
      intro other hmember
      rcases List.mem_append.mp hmember with hold | hnew
      · exact h.asked other hold
      · rw [List.mem_singleton.mp hnew]
        exact hguard job rfl
  | timeout ref =>
      obtain ⟨-, rfl⟩ := State.timeout_cases taken
      exact h.asked
  | dequeue pid =>
      obtain ⟨item, rest, -, -, rfl⟩ := State.dequeue_cases taken
      exact h.asked
  | addBatch =>
      obtain ⟨ref, payload, -, -, -, -, -, rfl⟩ :=
        State.addBatch_cases h.toManagerOk taken
      exact h.asked
  | deliverToTrader =>
      obtain ⟨payload, rest, -, -, rfl⟩ := State.deliverToTrader_cases taken
      obtain ⟨_, _, _, _, _, hframe⟩ := State.traderAddBatchJob_frame
        { state with toTrader := rest } payload
      rw [hframe]
      exact h.asked
  | doAddJobSettles payload =>
      obtain ⟨-, ⟨started, -, rfl⟩ | ⟨-, rfl⟩⟩ :=
        State.doAddJobSettles_cases taken
      · obtain ⟨_, _, _, hframe⟩ := State.enterProcess_frame { state with
          traderAddQueue := (state.traderAddQueue.finish payload).1
          toManager := state.toManager ++ [.added started.id] } started
        simp only [State.doAddJob, hframe]
        exact h.asked
      · exact h.asked
  | reportWorking payload =>
      obtain ⟨-, rfl⟩ := State.reportWorking_cases taken
      exact h.asked
  | processBatchEnds payload outcome =>
      obtain ⟨-, rfl⟩ := State.processBatchEnds_cases taken
      exact h.asked
  | sendSlotFreed payload =>
      obtain ⟨-, ⟨_, -, rfl⟩ | ⟨-, rfl⟩⟩ := State.sendSlotFreed_cases taken
      · exact h.asked
      · exact h.asked
  | deliverToManager =>
      obtain ⟨message, rest, -, rfl⟩ := State.deliverToManager_cases taken
      obtain ⟨_, _, _, _, _, hframe⟩ := State.handleProcessMessage_frame
        { state with toManager := rest } message
      rw [hframe]
      exact h.asked
  | traderBoots =>
      obtain ⟨-, rfl⟩ := State.traderBoots_cases taken
      exact h.asked
  | exit kept =>
      cases taken
      rw [State.processExits_eq h.toManagerOk]
      exact h.asked

theorem RequestsOk.submitted (h : RequestsOk createType state)
    (member : payload ∈ state.sent) :
    Submitted createType payload (state.batches payload.id).jobs := by
  have hcreated := h.created_of_committed (h.committed_of_sent member)
  have hbatch : BatchOk payload.ref (state.batches payload.id) :=
    h.contents payload.ref hcreated
  have hcalls : payload.calls =
      (state.batches payload.id).jobs.flatMap (·.calls) :=
    (h.sentCalls payload member).trans hbatch.calls
  have hasked : ∀ job ∈ (state.batches payload.id).jobs, job ∈ state.jobs := by
    intro job hjob
    have hpool : job ∈ state.jobs.filter fun job => job.pid = payload.pid := by
      rw [h.jobs]
      exact List.mem_flatMap.mpr
        ⟨payload.ref, mem_ofPool.mpr ⟨hcreated, rfl⟩, hjob⟩
    exact (List.mem_filter.mp hpool).1
  exact
    { nonempty := hbatch.nonempty
      calls := hcalls
      names := fun call hcall => by
        rw [hcalls] at hcall
        obtain ⟨job, hjob, hcall⟩ := List.mem_flatMap.mp hcall
        obtain ⟨request, hrequest⟩ := h.asked job (hasked job hjob)
        have hpid : job.pid = payload.pid := hbatch.pids job hjob
        rw [← hpid]
        exact hrequest.names call hcall
      submits := fun api poolNonces steps execution tx nonce hrun hsubmission
          requests hrequests => by
        obtain ⟨pool, hfind, hformed⟩ := formTx_of_submission hrun hsubmission
        rw [hcalls, formTx_requests hrequests] at hformed
        exact ⟨pool, hfind, hformed⟩ }

/-- In every run the batches that a pool is sent hold its jobs one behind the
other, and their transactions make the calls of the requests. -/
theorem requests_submitted
    (createType : String → Arg → Except Thrown String) (state : State)
    (h : pipeline.Reaches (asksFor createType) state) (pid : Nat) :
    (∀ job ∈ state.jobs, ∃ request, Asked createType request job) ∧
      ∃ groups : List (List Job),
        groups.flatten <+: state.jobs.filter (fun job => job.pid = pid) ∧
        List.Forall₂ (Submitted createType) (ofPid pid state.sent) groups := by
  have hok : RequestsOk createType state := requestsOk_step.reaches
    { managerOk_start with asked := fun _ member => by cases member } h
  refine ⟨hok.asked, (ofPid pid state.sent).map
    fun payload => (state.batches payload.id).jobs, ?_, ?_⟩
  · rw [hok.jobs, hok.order, hok.sentOrder]
    simp only [List.append_assoc, List.flatMap_append, List.flatMap_map]
    rw [← List.flatMap_def]
    exact List.prefix_append _ _
  · refine List.forall₂_map_right_iff.mpr (List.forall₂_same.mpr ?_)
    intro payload hmember
    exact hok.submitted (List.mem_filter.mp hmember).1

def plainTypes (_ : String) : Arg → Except Thrown String := fun _ => .ok "0x00"

def poolRequest (action : String) : Request where
  action
  payload :=
    { pid := 7
      messages := some [.string "0x01", .string "0x02"]
      runtimeInfo := .undefined
      attestation := .undefined
      publicKey := .string "0xff"
      stake := .null }

/-- Two requests of one pool share a batch. -/
def requestsRun : List Event :=
  let adds : Job :=
    { id := 1
      pid := 7
      calls := [[.property "tx", .property "phalaStakePoolv2",
        .property "addWorker", .apply ["7", "0xff"]]] }
  let message : Call := [.property "tx", .property "phalaMq",
    .property "syncOffchainMessage", .apply ["0x00"]]
  [.traderBoots, .deliverToManager, .addJob adds,
    .addJob { id := 2, pid := 7, calls := [message, message] },
    .timeout { id := 0, pid := 7 }, .dequeue 7, .addBatch]

theorem requests_submitted_added :
    let state := pipeline.ended requestsRun
    state.sent.map (·.calls.length) = [3] ∧
      ∃ groups : List (List Job),
        groups.flatten <+: state.jobs.filter (fun job => job.pid = 7) ∧
        List.Forall₂ (Submitted plainTypes) (ofPid 7 state.sent) groups := by
  refine ⟨by decide, (requests_submitted plainTypes _
    (Machine.reaches_ended ?_ (by decide)) 7).2⟩
  intro _ event member job hadds
  subst hadds
  simp only [requestsRun, List.mem_cons, Event.addJob.injEq, reduceCtorEq,
    List.not_mem_nil, or_false, false_or] at member
  rcases member with rfl | rfl
  · exact ⟨poolRequest "ADD_WORKER", true, rfl⟩
  · exact ⟨poolRequest "BATCH_SYNC_MQ_MESSAGE", false, rfl⟩

end RuntimeBridge.Trade
