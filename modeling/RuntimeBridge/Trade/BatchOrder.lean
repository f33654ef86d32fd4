import Mathlib.Data.List.Nodup
import RuntimeBridge.Trade.TraderOrder

/-! The manager process keeps the batches of each pool in the order in which
they were created, from the current batch of the pool to the send. -/

namespace RuntimeBridge.Trade

open Library

def ofPool (pid : Nat) (refs : List BatchRef) : List BatchRef :=
  refs.filter fun ref => ref.pid = pid

@[simp] theorem ofPool_nil (pid : Nat) : ofPool pid [] = [] := rfl

@[simp] theorem ofPool_append (pid : Nat) (left right : List BatchRef) :
    ofPool pid (left ++ right) = ofPool pid left ++ ofPool pid right :=
  List.filter_append _ _

theorem ofPool_singleton (ref : BatchRef) : ofPool ref.pid [ref] = [ref] := by
  simp [ofPool]

theorem ofPool_other {pid : Nat} {ref : BatchRef} (h : ref.pid ≠ pid) :
    ofPool pid [ref] = [] := by
  simp [ofPool, h]

theorem mem_ofPool {pid : Nat} {refs : List BatchRef} {ref : BatchRef} :
    ref ∈ ofPool pid refs ↔ ref ∈ refs ∧ ref.pid = pid := by
  simp [ofPool]

/-- The batch holds whole jobs of its pool, one behind the other. -/
structure BatchOk (ref : BatchRef) (batch : Batch) : Prop where
  nonempty : batch.jobs ≠ []
  pids : ∀ job ∈ batch.jobs, job.pid = ref.pid
  calls : batch.calls = batch.jobs.flatMap (·.calls)
  callToJobId : batch.callToJobId =
    batch.jobs.flatMap fun job => job.calls.map fun _ => job.id

/-- The batches that `#addBatch` has taken up but not sent. -/
def State.unsent (state : State) : List BatchRef :=
  if state.awaitingAdded then [] else state.addQueue.running

structure BusOk (state : State) : Prop where
  order : ∀ pid, ofPool pid state.created =
    ofPool pid state.committed ++ (state.pools pid).currentBatch.toList
  fresh : ∀ ref ∈ state.created, ref.id < state.nextId
  nodup : (state.created.map (·.id)).Nodup
  timer : ∀ ref ∈ state.created,
    ((state.batches ref.id).commitTimeout = true ↔
      (state.pools ref.pid).currentBatch = some ref)
  contents : ∀ ref ∈ state.created, BatchOk ref (state.batches ref.id)
  jobs : ∀ pid, (state.jobs.filter fun job => job.pid = pid) =
    (ofPool pid state.created).flatMap fun ref => (state.batches ref.id).jobs

structure ManagerOk (state : State) : Prop extends BusOk state where
  sentOrder : ∀ pid, ofPool pid state.committed =
    (ofPid pid state.sent).map Payload.ref ++ ofPool pid state.unsent ++
      ofPool pid state.addQueue.waiting ++ (state.pools pid).queue
  sentCalls : ∀ payload ∈ state.sent,
    payload.calls = (state.batches payload.id).calls
  single : state.addQueue.concurrency = 1
  awaiting : state.awaitingAdded = true → state.addQueue.running ≠ []
  up : state.status = .starting ∨ state.status = .upIdle
  /-- No handler ever registers a batch as active. -/
  inactive : state.activeBatchJobIds = []

variable {state after : State} {ref other : BatchRef} {pid : Nat}
  {payload : Payload}

structure SamePromises (batch other : Batch) : Prop where
  added : batch.addedPromise = other.addedPromise
  started : batch.startedPromise = other.startedPromise
  finished : batch.finishedPromise = other.finishedPromise

theorem SamePromises.refl (batch : Batch) : SamePromises batch batch where
  added := rfl
  started := rfl
  finished := rfl

theorem SamePromises.trans {first second third : Batch}
    (h : SamePromises first second) (hnext : SamePromises second third) :
    SamePromises first third where
  added := h.added.trans hnext.added
  started := h.started.trans hnext.started
  finished := h.finished.trans hnext.finished

namespace State

theorem commit_frame (state : State) (ref : BatchRef) :
    ∃ batches pools committed,
      state.commit ref = { state with batches, pools, committed } ∧
      (∀ pid, (pools pid).adding = (state.pools pid).adding) ∧
      ∀ id, SamePromises (batches id) (state.batches id) := by
  refine ⟨_, _, _, rfl, ?_, ?_⟩
  · exact update_field PoolQueue.adding rfl
  · exact update_relates SamePromises .refl
      { added := rfl, started := rfl, finished := rfl }

theorem createBatch_frame (state : State) (pid : Nat) :
    ∃ nextId batches pools created,
      (state.createBatch pid).1 =
        { state with nextId, batches, pools, created } ∧
      (∀ other, (pools other).adding = (state.pools other).adding) ∧
      ∀ id, SamePromises (batches id) (state.batches id) ∨
        (id = state.nextId ∧ (batches id).finishedPromise = .pending) := by
  refine ⟨_, _, _, _, rfl, ?_, ?_⟩
  · exact update_field PoolQueue.adding rfl
  · intro number
    by_cases heq : number = state.nextId
    · subst heq
      simp [setBatch, setPool, Batch.fresh]
    · simp only [setBatch, setPool, Function.update_of_ne heq]
      exact Or.inl (.refl _)

theorem setCalls_frame (state : State) (id : Nat) (job : Job) :
    ∃ batches,
      state.setBatch id ((state.batches id).addCalls job) =
        { state with batches } ∧
      ∀ other, SamePromises (batches other) (state.batches other) := by
  refine ⟨_, rfl, ?_⟩
  exact update_relates SamePromises .refl
    { added := rfl, started := rfl, finished := rfl }

theorem findBatch_frame (state : State) (pid : Nat) :
    ∃ nextId batches pools created committed,
      (state.findBatch pid).1 =
        { state with nextId, batches, pools, created, committed } ∧
      (∀ other, (pools other).adding = (state.pools other).adding) ∧
      ∀ id, SamePromises (batches id) (state.batches id) ∨
        (id = state.nextId ∧ (batches id).finishedPromise = .pending) := by
  simp only [findBatch]
  split
  · obtain ⟨_, _, _, _, hframe, hadding, hkept⟩ := state.createBatch_frame pid
    rw [hframe]
    exact ⟨_, _, _, _, _, rfl, hadding, hkept⟩
  · next ref _ =>
      split
      · obtain ⟨_, _, _, hcommit, hcommitted, hsame⟩ := state.commit_frame ref
        obtain ⟨_, _, _, _, hframe, hadding, hkept⟩ :=
          (state.commit ref).createBatch_frame pid
        rw [hframe]
        rw [hcommit] at hadding hkept ⊢
        exact ⟨_, _, _, _, _, rfl,
          fun other => (hadding other).trans (hcommitted other),
          fun number => (hkept number).imp_left fun h => h.trans (hsame number)⟩
      · exact ⟨_, _, _, _, _, rfl, fun _ => rfl, fun _ => Or.inl (.refl _)⟩

theorem addJob_frame (state : State) (job : Job) :
    ∃ nextId batches pools jobs created committed,
      state.addJob job =
        { state with nextId, batches, pools, jobs, created, committed } ∧
      (∀ pid, (pools pid).adding = (state.pools pid).adding) ∧
      ∀ id, SamePromises (batches id) (state.batches id) ∨
        (id = state.nextId ∧ (batches id).finishedPromise = .pending) := by
  simp only [addJob]
  obtain ⟨_, _, _, _, _, hfound, hadding, hkept⟩ := state.findBatch_frame job.pid
  obtain ⟨_, hset, hsame⟩ := (state.findBatch job.pid).1.setCalls_frame
    (state.findBatch job.pid).2.id job
  rw [hset]
  rw [hfound] at hsame ⊢
  refine ⟨_, _, _, _, _, _, rfl, hadding, fun number => ?_⟩
  rcases hkept number with hold | ⟨hnew, hpending⟩
  · exact Or.inl ((hsame number).trans hold)
  · exact Or.inr ⟨hnew, (hsame number).finished.trans hpending⟩

end State

namespace BusOk

theorem created_of_committed (h : BusOk state)
    (member : ref ∈ state.committed) : ref ∈ state.created := by
  have hpool : ref ∈ ofPool ref.pid state.created := by
    rw [h.order]
    exact List.mem_append_left _ (mem_ofPool.mpr ⟨member, rfl⟩)
  exact (mem_ofPool.mp hpool).1

theorem created_of_current (h : BusOk state)
    (current : (state.pools pid).currentBatch = some ref) :
    ref ∈ state.created ∧ ref.pid = pid := by
  have hpool : ref ∈ ofPool pid state.created := by
    rw [h.order, current]
    simp
  exact mem_ofPool.mp hpool

theorem eq_of_id (h : BusOk state) (member : ref ∈ state.created)
    (memberOther : other ∈ state.created) (same : ref.id = other.id) :
    ref = other :=
  List.inj_on_of_nodup_map h.nodup member memberOther same

theorem current_uncommitted (h : BusOk state)
    (current : (state.pools pid).currentBatch = some ref)
    (member : other ∈ state.committed) : other.id ≠ ref.id := by
  intro same
  obtain ⟨hcreated, rfl⟩ := h.created_of_current current
  have heq := h.eq_of_id (h.created_of_committed member) hcreated same
  subst heq
  have hnodup : (ofPool other.pid state.created).Nodup :=
    (List.Nodup.of_map _ h.nodup).filter _
  rw [h.order, current] at hnodup
  have hmember : other ∈ ofPool other.pid state.committed :=
    mem_ofPool.mpr ⟨member, rfl⟩
  exact (List.nodup_append.mp hnodup).2.2 other hmember other (by simp) rfl

end BusOk

namespace ManagerOk

theorem committed_of_sent (h : ManagerOk state)
    (member : payload ∈ state.sent) : payload.ref ∈ state.committed := by
  have hpool : payload.ref ∈ ofPool payload.pid state.committed := by
    rw [h.sentOrder]
    have hsent : payload ∈ ofPid payload.pid state.sent := by
      simp [ofPid, member]
    simp only [List.append_assoc]
    exact List.mem_append_left _ (List.mem_map_of_mem hsent)
  exact (mem_ofPool.mp hpool).1

theorem committed_of_queued (h : ManagerOk state)
    (member : ref ∈ (state.pools pid).queue) :
    ref ∈ state.committed ∧ ref.pid = pid := by
  have hpool : ref ∈ ofPool pid state.committed := by
    rw [h.sentOrder]
    exact List.mem_append_right _ member
  exact mem_ofPool.mp hpool

theorem committed_of_unsent (h : ManagerOk state)
    (member : ref ∈ state.unsent) : ref ∈ state.committed := by
  have hpool : ref ∈ ofPool ref.pid state.committed := by
    rw [h.sentOrder]
    exact List.mem_append_left _ (List.mem_append_left _
      (List.mem_append_right _ (mem_ofPool.mpr ⟨member, rfl⟩)))
  exact (mem_ofPool.mp hpool).1

theorem sent_lt (h : ManagerOk state) (member : payload ∈ state.sent) :
    payload.id < state.nextId :=
  h.fresh payload.ref (h.created_of_committed (h.committed_of_sent member))

theorem nodup_committed (h : ManagerOk state) (pid : Nat) :
    (ofPool pid state.committed).Nodup := by
  have hnodup : (ofPool pid state.created).Nodup :=
    (List.Nodup.of_map _ h.nodup).filter _
  rw [h.order] at hnodup
  exact (List.nodup_append.mp hnodup).1

/-- What `#addBatch` is about to send was not sent before. -/
theorem ne_of_unsent (h : ManagerOk state) (member : ref ∈ state.unsent)
    (sent : payload ∈ state.sent) : payload.id ≠ ref.id := by
  intro same
  have heq : payload.ref = ref :=
    h.eq_of_id (h.created_of_committed (h.committed_of_sent sent))
      (h.created_of_committed (h.committed_of_unsent member)) same
  have hpid : payload.pid = ref.pid := by
    rw [← heq]
    rfl
  have hnodup := h.nodup_committed ref.pid
  rw [h.sentOrder, List.append_assoc, List.append_assoc] at hnodup
  have hsent : ref ∈ (ofPid ref.pid state.sent).map Payload.ref := by
    rw [← heq]
    exact List.mem_map_of_mem (by simp [ofPid, sent, Payload.ref])
  have hunsent : ref ∈ ofPool ref.pid state.unsent :=
    mem_ofPool.mpr ⟨member, rfl⟩
  exact (List.nodup_append.mp hnodup).2.2 ref hsent ref
    (List.mem_append_left _ hunsent) rfl

theorem setBatch (h : ManagerOk state) (id : Nat) {batch : Batch}
    (jobs : batch.jobs = (state.batches id).jobs)
    (calls : batch.calls = (state.batches id).calls)
    (callToJobId : batch.callToJobId = (state.batches id).callToJobId)
    (commitTimeout :
      batch.commitTimeout = (state.batches id).commitTimeout) :
    ManagerOk (state.setBatch id batch) := by
  have hjobs : ∀ other, ((state.setBatch id batch).batches other).jobs =
      (state.batches other).jobs := update_field Batch.jobs jobs
  have hcalls : ∀ other, ((state.setBatch id batch).batches other).calls =
      (state.batches other).calls := update_field Batch.calls calls
  have hcallToJobId : ∀ other,
      ((state.setBatch id batch).batches other).callToJobId =
        (state.batches other).callToJobId :=
    update_field Batch.callToJobId callToJobId
  have htimer : ∀ other,
      ((state.setBatch id batch).batches other).commitTimeout =
        (state.batches other).commitTimeout :=
    update_field Batch.commitTimeout commitTimeout
  exact
    { order := h.order
      fresh := h.fresh
      nodup := h.nodup
      timer := fun ref member => by
        rw [htimer]
        exact h.timer ref member
      contents := fun ref member =>
        { nonempty := by rw [hjobs]; exact (h.contents ref member).nonempty
          pids := by rw [hjobs]; exact (h.contents ref member).pids
          calls := by
            rw [hjobs, hcalls]
            exact (h.contents ref member).calls
          callToJobId := by
            rw [hjobs, hcallToJobId]
            exact (h.contents ref member).callToJobId }
      jobs := fun pid => by
        apply (h.jobs pid).trans
        exact congrArg ((ofPool pid state.created).flatMap ·)
          (funext fun ref => (hjobs ref.id).symm)
      sentOrder := h.sentOrder
      sentCalls := fun payload member => by
        rw [hcalls]
        exact h.sentCalls payload member
      single := h.single
      awaiting := h.awaiting
      up := h.up
      inactive := h.inactive }

end ManagerOk

namespace ManagerOk

theorem commit (h : ManagerOk state)
    (current : (state.pools ref.pid).currentBatch = some ref) :
    ManagerOk (state.commit ref) where
  order := fun pid => by
    apply (h.order pid).trans
    simp only [State.commit, State.setPool, State.setBatch, ofPool_append]
    by_cases heq : pid = ref.pid
    · subst heq
      rw [Function.update_self, current, ofPool_singleton]
      simp
    · rw [Function.update_of_ne heq, ofPool_other (Ne.symm heq),
        List.append_nil]
  fresh := h.fresh
  nodup := h.nodup
  timer := fun other member => by
    have hcreated := (h.created_of_current current).1
    have htimer := h.timer other member
    by_cases hid : other.id = ref.id
    · cases h.eq_of_id member hcreated hid
      simp [State.commit, State.setPool, State.setBatch]
    · have hne : (state.pools ref.pid).currentBatch ≠ some other := by
        rw [current]
        intro hsame
        exact hid (congrArg BatchRef.id (Option.some.inj hsame).symm)
      by_cases hpid : other.pid = ref.pid
      · rw [hpid] at htimer
        simp only [State.commit, State.setPool, State.setBatch,
          Function.update_of_ne hid, hpid, Function.update_self]
        rw [htimer]
        exact ⟨fun hsame => absurd hsame hne, fun hnone => by cases hnone⟩
      · simpa [State.commit, State.setPool, State.setBatch, hid, hpid]
          using htimer
  contents := fun other member => by
    have hok := h.contents other member
    by_cases hid : other.id = ref.id
    · rw [hid] at hok
      simp only [State.commit, State.setPool, State.setBatch, hid,
        Function.update_self]
      exact { nonempty := hok.nonempty, pids := hok.pids, calls := hok.calls,
              callToJobId := hok.callToJobId }
    · simpa [State.commit, State.setPool, State.setBatch, hid] using hok
  jobs := fun pid => by
    apply (h.jobs pid).trans
    refine congrArg ((ofPool pid state.created).flatMap ·) (funext fun other => ?_)
    by_cases hid : other.id = ref.id
    · simp [State.commit, State.setPool, State.setBatch, hid]
    · simp [State.commit, State.setPool, State.setBatch, hid]
  sentOrder := fun pid => by
    simp only [State.commit, State.setPool, State.setBatch, ofPool_append]
    rw [h.sentOrder pid]
    by_cases heq : pid = ref.pid
    · subst heq
      rw [Function.update_self, ofPool_singleton, List.append_assoc]
      rfl
    · rw [Function.update_of_ne heq, ofPool_other (Ne.symm heq),
        List.append_nil]
      rfl
  sentCalls := fun payload member => by
    have hcalls := h.sentCalls payload member
    by_cases hid : payload.id = ref.id
    · rw [hid] at hcalls
      simpa [State.commit, State.setPool, State.setBatch, hid] using hcalls
    · simpa [State.commit, State.setPool, State.setBatch, hid] using hcalls
  single := h.single
  awaiting := h.awaiting
  up := h.up
  inactive := h.inactive

theorem addJob_create (h : ManagerOk state) (job : Job)
    (current : (state.pools job.pid).currentBatch = none) :
    ManagerOk { (state.createBatch job.pid).1.setBatch state.nextId
        (Batch.fresh.addCalls job) with jobs := state.jobs ++ [job] } := by
  have hfresh : ∀ other ∈ state.created, other.id ≠ state.nextId :=
    fun other member => Nat.ne_of_lt (h.fresh other member)
  have hbatches : ∀ id, id ≠ state.nextId →
      Function.update (Function.update state.batches state.nextId .fresh)
        state.nextId (Batch.fresh.addCalls job) id = state.batches id :=
    fun id hne => by simp [hne]
  refine
    { order := ?_, fresh := ?_, nodup := ?_, timer := ?_, contents := ?_,
      jobs := ?_, sentOrder := ?_, sentCalls := ?_, single := h.single,
      awaiting := h.awaiting, up := h.up, inactive := h.inactive }
  · intro pid
    have horder := h.order pid
    simp only [State.createBatch, State.setPool, State.setBatch,
      ofPool_append]
    by_cases heq : pid = job.pid
    · subst heq
      rw [Function.update_self, horder, current]
      simp [ofPool]
    · rw [Function.update_of_ne heq, ofPool_other (Ne.symm heq),
        List.append_nil, horder]
  · intro other member
    rcases List.mem_append.mp member with hold | hnew
    · exact Nat.lt_succ_of_lt (h.fresh other hold)
    · cases List.mem_singleton.mp hnew
      exact Nat.lt_succ_self _
  · simp only [State.createBatch, State.setPool, State.setBatch]
    rw [List.map_append, List.nodup_append]
    refine ⟨h.nodup, by simp, ?_⟩
    intro left hleft right hright
    obtain ⟨other, hother, rfl⟩ := List.mem_map.mp hleft
    simp only [List.map_singleton, List.mem_singleton] at hright
    subst hright
    exact hfresh other hother
  · intro other member
    simp only [State.createBatch, State.setPool, State.setBatch]
    rcases List.mem_append.mp member with hold | hnew
    · have htimer := h.timer other hold
      have hne := hfresh other hold
      rw [hbatches _ hne, htimer]
      by_cases heq : other.pid = job.pid
      · rw [heq, Function.update_self, current]
        constructor
        · intro hnone
          cases hnone
        · intro hsame
          exact absurd (congrArg BatchRef.id (Option.some.inj hsame)).symm hne
      · rw [Function.update_of_ne heq]
    · cases List.mem_singleton.mp hnew
      simp [Batch.addCalls]
  · intro other member
    simp only [State.createBatch, State.setPool, State.setBatch]
    rcases List.mem_append.mp member with hold | hnew
    · rw [hbatches _ (hfresh other hold)]
      exact h.contents other hold
    · cases List.mem_singleton.mp hnew
      rw [Function.update_self]
      exact { nonempty := by simp [Batch.addCalls]
              pids := by simp [Batch.addCalls, Batch.fresh]
              calls := by simp [Batch.addCalls, Batch.fresh]
              callToJobId := by simp [Batch.addCalls, Batch.fresh] }
  · intro pid
    have hold : ((ofPool pid state.created).flatMap fun ref =>
        (Function.update (Function.update state.batches state.nextId .fresh)
          state.nextId (Batch.fresh.addCalls job) ref.id).jobs) =
        (ofPool pid state.created).flatMap fun ref =>
          (state.batches ref.id).jobs :=
      List.flatMap_congr fun ref member => by
        rw [hbatches _ (hfresh ref (mem_ofPool.mp member).1)]
    simp only [State.createBatch, State.setPool, State.setBatch,
      ofPool_append, List.flatMap_append, List.filter_append]
    rw [hold, h.jobs pid]
    by_cases heq : job.pid = pid
    · simp [ofPool, heq, Batch.addCalls, Batch.fresh]
    · simp [ofPool, heq]
  · intro pid
    have hqueue : (Function.update state.pools job.pid
        { state.pools job.pid with
          currentBatch := some { id := state.nextId, pid := job.pid } }
        pid).queue = (state.pools pid).queue := by
      by_cases heq : pid = job.pid
      · subst heq
        rw [Function.update_self]
      · rw [Function.update_of_ne heq]
    simp only [State.createBatch, State.setPool, State.setBatch]
    rw [hqueue]
    exact h.sentOrder pid
  · intro payload member
    have hcreated := h.created_of_committed (h.committed_of_sent member)
    simp only [State.createBatch, State.setPool, State.setBatch]
    rw [hbatches payload.id (hfresh payload.ref hcreated)]
    exact h.sentCalls payload member

theorem addJob_current (h : ManagerOk state) (job : Job)
    (current : (state.pools job.pid).currentBatch = some ref) :
    ManagerOk { state.setBatch ref.id
        ((state.batches ref.id).addCalls job) with
      jobs := state.jobs ++ [job] } := by
  obtain ⟨hcreated, hpid⟩ := h.created_of_current current
  have hok := h.contents ref hcreated
  refine
    { order := h.order, fresh := h.fresh, nodup := h.nodup, timer := ?_,
      contents := ?_, jobs := ?_, sentOrder := h.sentOrder, sentCalls := ?_,
      single := h.single, awaiting := h.awaiting, up := h.up, inactive := h.inactive }
  · intro other member
    by_cases hid : other.id = ref.id
    · cases h.eq_of_id member hcreated hid
      simp [State.setBatch, Batch.addCalls, hpid, current]
    · simpa [State.setBatch, hid] using h.timer other member
  · intro other member
    by_cases hid : other.id = ref.id
    · cases h.eq_of_id member hcreated hid
      simp only [State.setBatch, Function.update_self]
      exact
        { nonempty := by simp [Batch.addCalls]
          pids := fun inner hinner => by
            rcases List.mem_append.mp hinner with hold | hnew
            · exact hok.pids inner hold
            · rw [List.mem_singleton.mp hnew, hpid]
          calls := by simp [Batch.addCalls, hok.calls]
          callToJobId := by simp [Batch.addCalls, hok.callToJobId] }
    · simpa [State.setBatch, hid] using h.contents other member
  · intro pid
    have hjobs : ∀ other : BatchRef, other.id ≠ ref.id →
        ((state.setBatch ref.id ((state.batches ref.id).addCalls
          job)).batches other.id).jobs = (state.batches other.id).jobs :=
      fun other hne => by simp [State.setBatch, hne]
    simp only [List.filter_append]
    rw [h.jobs pid]
    by_cases heq : job.pid = pid
    · subst heq
      have hold : ((ofPool job.pid state.committed).flatMap fun other =>
          ((state.setBatch ref.id ((state.batches ref.id).addCalls
            job)).batches other.id).jobs) =
          (ofPool job.pid state.committed).flatMap fun other =>
            (state.batches other.id).jobs :=
        List.flatMap_congr fun other member =>
          hjobs other (h.current_uncommitted current (mem_ofPool.mp member).1)
      change _ = (ofPool job.pid state.created).flatMap _
      rw [h.order, current, List.flatMap_append, List.flatMap_append, hold]
      simp [State.setBatch, Batch.addCalls]
    · have hold : ((ofPool pid state.created).flatMap fun other =>
          ((state.setBatch ref.id ((state.batches ref.id).addCalls
            job)).batches other.id).jobs) =
          (ofPool pid state.created).flatMap fun other =>
            (state.batches other.id).jobs :=
        List.flatMap_congr fun other member => by
          obtain ⟨hother, hotherPid⟩ := mem_ofPool.mp member
          refine hjobs other fun hid => heq ?_
          cases h.eq_of_id hother hcreated hid
          exact hpid.symm.trans hotherPid
      have hnone : [job].filter (fun job => job.pid = pid) = [] := by
        simp [heq]
      rw [hnone, List.append_nil]
      exact hold.symm
  · intro payload member
    have hne := h.current_uncommitted current (h.committed_of_sent member)
    have hid : payload.id ≠ ref.id := hne
    simpa [State.setBatch, hid] using h.sentCalls payload member

theorem addJob (h : ManagerOk state) (job : Job) :
    ManagerOk (state.addJob job) := by
  cases current : (state.pools job.pid).currentBatch with
  | none =>
      have hcreate := h.addJob_create job current
      simpa [State.addJob, State.findBatch, current, State.createBatch,
        State.setBatch, State.setPool] using hcreate
  | some ref =>
      obtain ⟨-, hpid⟩ := h.created_of_current current
      by_cases hfull : TX_BATCH_SIZE < (state.batches ref.id).calls.length
      · have hcommit := h.commit (by rw [hpid]; exact current)
        have hnone : ((state.commit ref).pools job.pid).currentBatch = none := by
          simp [State.commit, State.setPool, State.setBatch, hpid]
        have hcreate := hcommit.addJob_create job hnone
        have hsame : (state.commit ref).jobs = state.jobs := rfl
        rw [hsame] at hcreate
        simpa [State.addJob, State.findBatch, current, hfull,
          State.createBatch, State.setBatch, State.setPool] using hcreate
      · have hadd := h.addJob_current job current
        simpa [State.addJob, State.findBatch, current, hfull] using hadd

theorem timeout (h : ManagerOk state)
    (taken : state.timeout ref = some after) : ManagerOk after := by
  obtain ⟨hguard, rfl⟩ := State.timeout_cases taken
  exact h.commit ((h.timer ref hguard.1).mp hguard.2)

/-- A sent batch holds the only slot of the manager. -/
theorem full (h : ManagerOk state) (awaiting : state.awaitingAdded = true) :
    state.addQueue.running.length = state.addQueue.concurrency := by
  have hbounded := state.addQueue.bounded
  have hpositive := List.length_pos_iff.mpr (h.awaiting awaiting)
  rw [h.single] at hbounded ⊢
  omega

theorem dequeue (h : ManagerOk state)
    (taken : state.dequeue pid = some after) : ManagerOk after := by
  obtain ⟨item, rest, -, hqueue, rfl⟩ := State.dequeue_cases taken
  have hpid : item.pid = pid :=
    (h.committed_of_queued (by rw [hqueue]; simp)).2
  have hmoved : ∀ other,
      ofPool other (State.unsent { state with
          addQueue := (state.addQueue.add item).1 }) ++
        ofPool other (state.addQueue.add item).1.waiting =
      ofPool other state.unsent ++ ofPool other state.addQueue.waiting ++
        ofPool other [item] := by
    intro other
    have hfifo := congrArg (ofPool other) (state.addQueue.add_fifo item)
    rw [ofPool_append, ofPool_append] at hfifo
    have hrunning := state.addQueue.add_running item
    simp only [State.unsent]
    cases hwait : state.awaitingAdded with
    | true =>
        rw [PQueue.add_of_full (h.full hwait)] at hfifo
        simpa using hfifo
    | false =>
        simp only [Bool.false_eq_true, if_false]
        rw [hrunning, ofPool_append, List.append_assoc, List.append_assoc,
          hfifo]
  refine
    { order := ?_, fresh := h.fresh, nodup := h.nodup, timer := ?_,
      contents := h.contents, jobs := h.jobs, sentOrder := ?_,
      sentCalls := h.sentCalls, single := ?_, awaiting := ?_,
      up := h.up, inactive := h.inactive }
  · intro other
    apply (h.order other).trans
    by_cases heq : other = pid
    · subst heq
      simp [State.addBatchJob, State.setPool]
    · simp [State.addBatchJob, State.setPool, heq]
  · intro other member
    apply (h.timer other member).trans
    by_cases heq : other.pid = pid
    · simp [State.addBatchJob, State.setPool, heq]
    · simp [State.addBatchJob, State.setPool, heq]
  · intro other
    have horder := h.sentOrder other
    have hother := hmoved other
    simp only [State.addBatchJob, State.setPool]
    have hqueueOther : ofPool other [item] ++ (Function.update state.pools
        pid { state.pools pid with queue := rest, adding := some item }
        other).queue = (state.pools other).queue := by
      by_cases heq : other = pid
      · subst heq
        have hitem : ofPool other [item] = [item] := by
          rw [← hpid]
          exact ofPool_singleton item
        rw [Function.update_self, hitem, hqueue]
        rfl
      · have hitem : ofPool other [item] = [] :=
          ofPool_other (by rw [hpid]; exact Ne.symm heq)
        rw [Function.update_of_ne heq, hitem, List.nil_append]
    apply horder.trans
    rw [← hqueueOther, ← List.append_assoc]
    apply congrArg (· ++ _)
    rw [List.append_assoc, List.append_assoc, ← List.append_assoc (ofPool
      other state.unsent), ← hother, ← List.append_assoc]
    rfl
  · simpa [State.addBatchJob, State.setPool] using h.single
  · intro hwait
    simp only [State.addBatchJob, State.setPool, PQueue.add_running]
    exact List.append_ne_nil_of_left_ne_nil (h.awaiting hwait) _

end ManagerOk

end RuntimeBridge.Trade
