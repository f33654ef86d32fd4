import RuntimeBridge.Library.Outcome
import RuntimeBridge.Trade.BatchOrder
import RuntimeBridge.Trade.ProcessJob
import RuntimeBridge.Trade.SendTx

/-! Which jobs of a batch are told of a failed call: from the items of the
transaction through `callToJobId` to `waitUntilFinished`. -/

namespace RuntimeBridge.Trade

open Library

/-- A job and what becomes of each of its calls on the chain. -/
structure JobRun where
  job : Job
  outcomes : List (Option DispatchError)
  complete : outcomes.length = job.calls.length

def addAll (runs : List JobRun) : Batch :=
  runs.foldl (fun batch run => batch.addCalls run.job) .fresh

def itemEvent : Option DispatchError → ChainEvent
  | none => .itemCompleted
  | some error => .itemFailed error

/-- `forceBatch` in a block: one event for every item, in their order, and one
for the whole.  The metadata names the errors of the runtime. -/
structure Included (isProxy : Bool) (outcomes : List (Option DispatchError))
    (result : TxResult) : Prop where
  status : result.status = .inBlock
  dispatchError : result.dispatchError.isNone = true
  proxy : isProxy = true →
    result.events.findSome? ChainEvent.proxyResult = some (.ok ())
  items : result.events.filter ChainEvent.isItem = outcomes.map itemEvent
  completedWithErrors :
    result.events.any ChainEvent.isBatchCompletedWithErrors =
      outcomes.any Option.isSome
  completed : outcomes.any Option.isSome = false →
    result.events.any ChainEvent.isBatchCompleted = true
  decoded : ∀ error, some error ∈ outcomes →
    ∃ reason, resolveDispatchError error = .ok reason

def reasonOf (error : DispatchError) : String :=
  match resolveDispatchError error with
  | .ok reason => reason
  | .error _ => ""

def failedFrom (first : Nat) (outcomes : List (Option DispatchError)) :
    List FailedCall :=
  (outcomes.zipIdx first).filterMap fun item =>
    item.1.map fun error => { index := item.2, reason := reasonOf error }

/-- What the jobs of a batch in a block wait for. -/
def resultOf (runs : List JobRun) : BatchResult where
  indexes := (failedFrom 0 (runs.flatMap (·.outcomes))).map
    fun call => (addAll runs).callToJobId[call.index]?
  reasons := failedFrom 0 (runs.flatMap (·.outcomes))

variable {isProxy : Bool} {outcomes : List (Option DispatchError)}
  {result : TxResult} {runs : List JobRun} {callMeta : CallMeta}

theorem resolve_reasonOf {error : DispatchError}
    (h : ∃ reason, resolveDispatchError error = .ok reason) :
    resolveDispatchError error = .ok (reasonOf error) := by
  obtain ⟨reason, hreason⟩ := h
  rw [reasonOf, hreason]

theorem failedCalls_eq {events : List ChainEvent}
    (items : events.filter ChainEvent.isItem = outcomes.map itemEvent)
    (decoded : ∀ error, some error ∈ outcomes →
      ∃ reason, resolveDispatchError error = .ok reason) :
    failedCalls events = .ok (failedFrom 0 outcomes) := by
  have hfailed : (events.filter ChainEvent.isItem).zipIdx.filterMap
        (fun item => item.1.itemError.map fun error => (error, item.2)) =
      outcomes.zipIdx.filterMap
        fun item => item.1.map fun error => (error, item.2) := by
    rw [items, List.zipIdx_map, List.filterMap_map]
    refine congrArg (List.filterMap · _) (funext fun item => ?_)
    obtain ⟨outcome, index⟩ := item
    cases outcome <;> rfl
  unfold failedCalls
  simp only [hfailed]
  rw [mapM_eq_ok_map fun item =>
    { index := item.2, reason := reasonOf item.1 }]
  · rw [List.map_filterMap, failedFrom]
    refine congrArg (Except.ok <| List.filterMap · _)
      (funext fun item => ?_)
    cases item.1 <;> rfl
  · intro item hitem
    obtain ⟨⟨outcome, index⟩, hmem, heq⟩ := List.mem_filterMap.mp hitem
    obtain ⟨error, rfl, rfl⟩ := Option.map_eq_some_iff.mp heq
    have hresolved := resolve_reasonOf
      (decoded error (List.fst_mem_of_mem_zipIdx hmem))
    exact bind_eq_ok.mpr ⟨_, hresolved, rfl⟩

theorem failedFrom_cons (first : Nat) (outcome : Option DispatchError)
    (rest : List (Option DispatchError)) :
    failedFrom first (outcome :: rest) =
      (outcome.map fun error =>
        ({ index := first, reason := reasonOf error } : FailedCall)).toList ++
        failedFrom (first + 1) rest := by
  cases outcome <;> rfl

theorem failedFrom_eq_nil (first : Nat)
    (h : outcomes.any Option.isSome = false) : failedFrom first outcomes = [] := by
  induction outcomes generalizing first with
  | nil => rfl
  | cons outcome rest ih =>
      rw [List.any_cons, Bool.or_eq_false_iff] at h
      cases outcome with
      | some error => cases h.1
      | none => exact ih (first + 1) h.2

theorem onInBlock_eq (h : Included isProxy outcomes result) :
    onInBlock isProxy result = .ok (failedFrom 0 outcomes) := by
  have hbatch :
      (if result.events.any ChainEvent.isBatchCompletedWithErrors = true then
        failedCalls result.events
      else if result.events.any ChainEvent.isBatchCompleted = true then pure []
      else throw (.error "Error" "Batch failed with no reason!")) =
        .ok (failedFrom 0 outcomes) := by
    rw [h.completedWithErrors]
    cases hfailed : outcomes.any Option.isSome with
    | true =>
        rw [if_pos rfl]
        exact failedCalls_eq h.items h.decoded
    | false =>
        rw [if_neg Bool.false_ne_true, if_pos (h.completed hfailed),
          failedFrom_eq_nil 0 hfailed]
        rfl
  unfold onInBlock
  rw [Option.isNone_iff_eq_none.mp h.dispatchError]
  simp only
  split
  · next hisProxy =>
      rw [h.proxy hisProxy]
      exact hbatch
  · exact hbatch

theorem idxOf?_owner (owner : Nat → Option Nat) (id : Nat)
    (failed : List FailedCall) :
    (((failed.map fun call => owner call.index).idxOf? (some id)).map
        fun reasonId => failed[reasonId]?) =
      (failed.find? fun call => owner call.index = some id).map some := by
  induction failed with
  | nil => rfl
  | cons call rest ih =>
      rw [List.map_cons, List.idxOf?_cons, List.find?_cons]
      by_cases howner : owner call.index = some id
      · simp [howner]
      · simp only [howner, beq_iff_eq, if_false, decide_false, Option.map_map]
        rw [← ih]
        rfl

theorem waitUntilFinished_eq (owner : Nat → Option Nat)
    (failed : List FailedCall) :
    waitUntilFinished callMeta
        { indexes := failed.map fun call => owner call.index
          reasons := failed } =
      match failed.find? fun call => owner call.index = some callMeta.id with
      | none => .ok ()
      | some call => .error ("Tx failed: " ++ call.reason) := by
  have hfound := idxOf?_owner owner callMeta.id failed
  unfold waitUntilFinished
  simp only
  cases hfirst : (failed.map fun call => owner call.index).idxOf?
      (some callMeta.id) with
  | none =>
      rw [hfirst] at hfound
      rw [Option.map_eq_none_iff.mp hfound.symm]
  | some reasonId =>
      rw [hfirst] at hfound
      obtain ⟨call, hcall, hreason⟩ := Option.map_eq_some_iff.mp hfound.symm
      have hget : failed[reasonId]? = some call := hreason.symm
      simp only [hcall, hget]

/-- The first failed call of a job, among the calls of the whole batch. -/
theorem find_failedFrom (id : Nat) (earlier owners : List Nat)
    (hlength : outcomes.length = owners.length) :
    ((failedFrom earlier.length outcomes).find? fun call =>
        (earlier ++ owners)[call.index]? = some id).map (·.reason) =
      (owners.zip outcomes).findSome? fun item =>
        if item.1 = id then item.2.map reasonOf else none := by
  induction outcomes generalizing earlier owners with
  | nil => simp [failedFrom]
  | cons outcome rest ih =>
      cases owners with
      | nil => cases hlength
      | cons owner others =>
          have hrest := ih (earlier ++ [owner]) others (Nat.succ.inj hlength)
          rw [List.append_assoc, List.singleton_append, List.length_append,
            List.length_singleton] at hrest
          rw [failedFrom_cons, List.find?_append, List.zip_cons_cons,
            List.findSome?_cons]
          cases outcome with
          | none =>
              simp only [Option.map_none, Option.toList_none, List.find?_nil,
                Option.none_or, ite_self]
              exact hrest
          | some error =>
              rcases eq_or_ne owner id with rfl | hne
              · simp
              · simp only [Option.map_some, Option.toList_some, hne, if_false]
                rw [← hrest]
                simp [hne]

theorem zip_owner {calls : List Call} (id : Nat)
    (h : outcomes.length = calls.length) :
    (calls.map fun _ => id).zip outcomes =
      outcomes.map fun outcome => (id, outcome) := by
  induction outcomes generalizing calls with
  | nil => exact List.zip_nil_right
  | cons outcome rest ih =>
      cases calls with
      | nil => cases h
      | cons call others =>
          rw [List.map_cons, List.zip_cons_cons, ih (Nat.succ.inj h),
            List.map_cons]

theorem zip_owners (runs : List JobRun) :
    (runs.flatMap fun run => run.job.calls.map fun _ => run.job.id).zip
        (runs.flatMap (·.outcomes)) =
      runs.flatMap fun run =>
        run.outcomes.map fun outcome => (run.job.id, outcome) := by
  induction runs with
  | nil => rfl
  | cons run rest ih =>
      rw [List.flatMap_cons, List.flatMap_cons, List.flatMap_cons,
        List.zip_append, ih, zip_owner run.job.id run.complete]
      rw [List.length_map, run.complete]

theorem findSome?_owned (id owner : Nat)
    (outcomes : List (Option DispatchError)) :
    (outcomes.map fun outcome => (owner, outcome)).findSome? (fun item =>
        if item.1 = id then item.2.map reasonOf else none) =
      if owner = id then outcomes.findSome? (·.map reasonOf) else none := by
  rw [List.findSome?_map]
  split
  · next howner =>
      refine congrArg (List.findSome? · outcomes) (funext fun outcome => ?_)
      exact if_pos howner
  · next hother =>
      rw [List.findSome?_eq_none_iff]
      exact fun outcome _ => if_neg hother

theorem findSome?_runs (distinct : (runs.map (·.job.id)).Nodup) {run : JobRun}
    (hrun : run ∈ runs) :
    (runs.flatMap fun run =>
        run.outcomes.map fun outcome => (run.job.id, outcome)).findSome?
        (fun item =>
          if item.1 = run.job.id then item.2.map reasonOf else none) =
      run.outcomes.findSome? (·.map reasonOf) := by
  induction runs with
  | nil => cases hrun
  | cons head rest ih =>
      rw [List.map_cons, List.nodup_cons] at distinct
      rw [List.flatMap_cons, List.findSome?_append, findSome?_owned]
      rcases List.mem_cons.mp hrun with rfl | hlater
      · have hothers : (rest.flatMap fun other =>
            other.outcomes.map fun outcome =>
              (other.job.id, outcome)).findSome? (fun item =>
                if item.1 = run.job.id then item.2.map reasonOf else none) =
            none := by
          rw [List.findSome?_eq_none_iff]
          intro item hitem
          obtain ⟨other, hother, hmem⟩ := List.mem_flatMap.mp hitem
          obtain ⟨outcome, -, rfl⟩ := List.mem_map.mp hmem
          refine if_neg fun hsame => distinct.1 ?_
          rw [← hsame]
          exact List.mem_map_of_mem hother
        rw [if_pos rfl, hothers, Option.or_none]
      · have hne : head.job.id ≠ run.job.id := by
          intro hsame
          rw [hsame] at distinct
          exact distinct.1 (List.mem_map_of_mem hlater)
        rw [if_neg hne, Option.none_or]
        exact ih distinct.2 hlater

theorem addAll_callToJobId (runs : List JobRun) :
    (addAll runs).callToJobId =
      runs.flatMap fun run => run.job.calls.map fun _ => run.job.id := by
  have hadded : ∀ batch : Batch,
      (runs.foldl (fun batch run => batch.addCalls run.job) batch).callToJobId =
        batch.callToJobId ++
          runs.flatMap fun run => run.job.calls.map fun _ => run.job.id := by
    induction runs with
    | nil => exact fun batch => (List.append_nil _).symm
    | cons run rest ih =>
        intro batch
        rw [List.foldl_cons, ih, List.flatMap_cons, ← List.append_assoc]
        rfl
  exact hadded .fresh

/-- The index of every batch of the pipeline is the one that its jobs make. -/
theorem BatchOk.addAll {ref : BatchRef} {batch : Batch} (h : BatchOk ref batch)
    (hjobs : runs.map (·.job) = batch.jobs) :
    batch.callToJobId = (addAll runs).callToJobId := by
  rw [h.callToJobId, ← hjobs, addAll_callToJobId, List.flatMap_map]

/-- A job looks for the first failed call of its own in the whole batch. -/
theorem waitUntilFinished_resultOf (callMeta : CallMeta) (runs : List JobRun) :
    waitUntilFinished callMeta (resultOf runs) =
      match (runs.flatMap fun run =>
          run.outcomes.map fun outcome => (run.job.id, outcome)).findSome?
        (fun item =>
          if item.1 = callMeta.id then item.2.map reasonOf else none) with
      | none => .ok ()
      | some reason => .error ("Tx failed: " ++ reason) := by
  have hlength : (runs.flatMap (·.outcomes)).length =
      (addAll runs).callToJobId.length := by
    rw [addAll_callToJobId, List.length_flatMap, List.length_flatMap]
    refine congrArg List.sum (List.map_congr_left fun run _ => ?_)
    rw [List.length_map, run.complete]
  have hfirst := find_failedFrom callMeta.id [] (addAll runs).callToJobId hlength
  rw [addAll_callToJobId, zip_owners, ← addAll_callToJobId] at hfirst
  rw [resultOf,
    waitUntilFinished_eq fun index => (addAll runs).callToJobId[index]?,
    ← hfirst]
  simp only [List.nil_append, List.length_nil]
  split
  · next hnone => rw [hnone, Option.map_none]
  · next call hcall => rw [hcall, Option.map_some]

theorem waitUntilFinished_run (distinct : (runs.map (·.job.id)).Nodup)
    {run : JobRun} (hrun : run ∈ runs) (shouldRetry : Bool) :
    waitUntilFinished { run.job with shouldRetry } (resultOf runs) =
      match run.outcomes.findSome? (·.map reasonOf) with
      | none => .ok ()
      | some reason => .error ("Tx failed: " ++ reason) := by
  rw [waitUntilFinished_resultOf, findSome?_runs distinct hrun]

/-- No call of a job that is told of no failure has failed. -/
theorem unfailed_of_wait (h : waitUntilFinished callMeta (resultOf runs) = .ok ())
    {run : JobRun} (hrun : run ∈ runs) (hid : run.job.id = callMeta.id) :
    ∀ outcome ∈ run.outcomes, outcome = none := by
  intro outcome houtcome
  rw [waitUntilFinished_resultOf] at h
  split at h
  · next hnone =>
      have hitem := List.findSome?_eq_none_iff.mp hnone (run.job.id, outcome)
        (List.mem_flatMap.mpr ⟨run, hrun, List.mem_map_of_mem houtcome⟩)
      rw [if_pos hid] at hitem
      exact Option.map_eq_none_iff.mp hitem
  · cases h

/-- What has become of the calls of a batch is divided among its jobs. -/
theorem exists_runs (jobs : List Job)
    (hlength : outcomes.length = (jobs.flatMap (·.calls)).length) :
    ∃ runs : List JobRun, runs.map (·.job) = jobs ∧
      runs.flatMap (·.outcomes) = outcomes := by
  induction jobs generalizing outcomes with
  | nil => exact ⟨[], rfl, (List.eq_nil_of_length_eq_zero hlength).symm⟩
  | cons job rest ih =>
      rw [List.flatMap_cons, List.length_append] at hlength
      obtain ⟨runs, hjobs, houtcomes⟩ := @ih (outcomes.drop job.calls.length)
        (by rw [List.length_drop]; omega)
      refine ⟨{ job, outcomes := outcomes.take job.calls.length
                complete := ?_ } :: runs, ?_, ?_⟩
      · rw [List.length_take]
        omega
      · rw [List.map_cons, hjobs]
      · rw [List.flatMap_cons, houtcomes, List.take_append_drop]

theorem findSome?_reason (outcomes : List (Option DispatchError)) :
    outcomes.findSome? (·.map reasonOf) =
      (outcomes.findSome? id).map reasonOf := by
  induction outcomes with
  | nil => rfl
  | cons outcome rest ih =>
      cases outcome with
      | none => exact ih
      | some error => rfl

/-- A job fails exactly when one of its own calls has failed, with the reason of
the first of them. -/
def Attributed (runs : List JobRun) (batchResult : BatchResult) : Prop :=
  ∀ run ∈ runs, ∀ shouldRetry,
    ((∃ error, waitUntilFinished { run.job with shouldRetry } batchResult =
        .error error) ↔ ∃ error, some error ∈ run.outcomes) ∧
    ∀ error reason, run.outcomes.findSome? id = some error →
      resolveDispatchError error = .ok reason →
      waitUntilFinished { run.job with shouldRetry } batchResult =
        .error ("Tx failed: " ++ reason)

theorem attributed_resultOf (distinct : (runs.map (·.job.id)).Nodup) :
    Attributed runs (resultOf runs) := by
  intro run hrun shouldRetry
  have htold := waitUntilFinished_run distinct hrun shouldRetry
  rw [findSome?_reason] at htold
  constructor
  · rw [htold]
    cases hfailed : run.outcomes.findSome? id with
    | none =>
        refine iff_of_false ?_ ?_
        · rintro ⟨error, heq⟩
          cases heq
        · rintro ⟨error, herror⟩
          cases List.findSome?_eq_none_iff.mp hfailed _ herror
    | some error =>
        obtain ⟨outcome, hmem, houtcome⟩ :=
          List.exists_of_findSome?_eq_some hfailed
        exact iff_of_true ⟨_, rfl⟩ ⟨error, houtcome ▸ hmem⟩
  · intro error reason hfailed hreason
    rw [htold, hfailed, Option.map_some, reasonOf, hreason]

/-- A batch that is included in a block is reported finished.  Then a job fails
exactly when one of its own calls has failed, with the reason of the first of
them. -/
theorem failures_attributed (before after : List TxEvent) {state : State}
    {batchId : Nat} (distinct : (runs.map (·.job.id)).Nodup)
    (included : Included isProxy (runs.flatMap (·.outcomes)) result)
    (first : ∀ event ∈ before, event.outcome isProxy = none)
    (registered : batchId ∈ state.batchJobs)
    (unsettled : (state.batches batchId).finishedPromise = .pending)
    (added : (state.batches batchId).callToJobId =
      (addAll runs).callToJobId) :
    ∃ failed batchResult,
      sendTx isProxy (before ++ .status result :: after) = some (.ok failed) ∧
        ((state.handleProcessMessage (.finished batchId failed)).batches
          batchId).finishedPromise = .resolved batchResult ∧
        ∀ run ∈ runs, ∀ shouldRetry,
          ((∃ error, waitUntilFinished { run.job with shouldRetry }
              batchResult = .error error) ↔
            ∃ error, some error ∈ run.outcomes) ∧
          ∀ error reason, run.outcomes.findSome? id = some error →
            resolveDispatchError error = .ok reason →
            waitUntilFinished { run.job with shouldRetry } batchResult =
              .error ("Tx failed: " ++ reason) := by
  have hsent : sendTx isProxy (before ++ .status result :: after) =
      some (.ok (failedFrom 0 (runs.flatMap (·.outcomes)))) := by
    have hsettles : (TxEvent.status result).outcome isProxy =
        some (.ok (failedFrom 0 (runs.flatMap (·.outcomes)))) := by
      simp only [TxEvent.outcome, onStatus, included.status,
        onInBlock_eq included]
    rw [sendTx, List.findSome?_append, List.findSome?_eq_none_iff.mpr first,
      Option.none_or, List.findSome?_cons, hsettles]
  refine ⟨_, resultOf runs, hsent, ?_, attributed_resultOf distinct⟩
  simp only [State.handleProcessMessage, State.onBatchJobFinished,
    if_pos registered, State.setBatch, Function.update_self, unsettled, added]
  rfl

/-- Two jobs share a batch.  The second call of the second job fails, behind the
three calls of the first and the first of the second. -/
def sharedBatch : List JobRun :=
  [{ job := { id := 1, pid := 7, calls := [[], [], []] }
     outcomes := [none, none, none], complete := rfl },
    { job := { id := 2, pid := 7, calls := [[], []] }
      outcomes := [none, some (.other "BadOrigin")], complete := rfl }]

def sharedResult : TxResult where
  status := .inBlock
  statusText := "InBlock"
  dispatchError := none
  events := [.itemCompleted, .itemCompleted, .itemCompleted, .itemCompleted,
    .itemFailed (.other "BadOrigin"), .batchCompletedWithErrors, .other]

def sharedState : State :=
  { State.initial with
    batches := fun _ => addAll sharedBatch
    batchJobs := [0] }

theorem failures_attributed_shared :
    ∃ failed batchResult,
      sendTx false [.signed, .status sharedResult] = some (.ok failed) ∧
        ((sharedState.handleProcessMessage (.finished 0 failed)).batches
          0).finishedPromise = .resolved batchResult ∧
        ∀ run ∈ sharedBatch, ∀ shouldRetry,
          ((∃ error, waitUntilFinished { run.job with shouldRetry }
              batchResult = .error error) ↔
            ∃ error, some error ∈ run.outcomes) ∧
          ∀ error reason, run.outcomes.findSome? id = some error →
            resolveDispatchError error = .ok reason →
            waitUntilFinished { run.job with shouldRetry } batchResult =
              .error ("Tx failed: " ++ reason) :=
  failures_attributed [.signed] [] (by decide)
    { status := rfl
      dispatchError := rfl
      proxy := nofun
      items := rfl
      completedWithErrors := rfl
      completed := nofun
      decoded := by
        intro error herror
        simp [sharedBatch] at herror
        subst herror
        exact ⟨_, rfl⟩ }
    (by simp [TxEvent.outcome]) (by decide) rfl rfl

end RuntimeBridge.Trade
