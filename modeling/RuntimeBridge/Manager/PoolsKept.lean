import RuntimeBridge.Library.Machine
import RuntimeBridge.Manager.Db

/-! The pool of every stored worker, over runs of requests. -/

namespace RuntimeBridge.Manager

open Library

inductive DbRequest where
  | createPool (pools : List CreatePoolItem)
  | updatePool (items : List UpdatePoolItem)
  | createWorker (workers : List CreateWorkerItem)
  | updateWorker (items : List UpdateWorkerItem)
  deriving DecidableEq, Repr

/-- The database that a request leaves, whether it succeeds or fails. -/
def DbRequest.leaves (keyring : Keyring) (db : LocalDb) : DbRequest → LocalDb
  | .createPool pools => (Manager.createPool keyring db pools).2
  | .updatePool items => (Manager.updatePool keyring db items).2
  | .createWorker workers => (Manager.createWorker db workers).2
  | .updateWorker items => (Manager.updateWorker db items).2

def requestMachine (keyring : Keyring) : Machine LocalDb DbRequest where
  start := .empty
  step db request := some (request.leaves keyring db)

def BN_1PHA : Nat := 1000000000000

/-- What `createWorkerContext` makes of the rows.  `stakeBn` is how `BN` reads a
stake. -/
def createWorkerContext (keyring : Keyring) (stakeBn : String → Nat)
    (db : LocalDb) (worker : Worker) :
    Except HandlerError (PoolPb × WorkerPb) :=
  if stakeBn worker.stake < BN_1PHA then
    .error (.error "Stake amount should be at least > 1PHA!")
  else
    match db.poolOf worker with
    | none => .error (cannotRead "pid")
    | some pool => do
        let poolSnapshot ← PoolObject.toPbInterface keyring
          { row := pool, decryptedOperatorKey := none }
        let snapshotBrief ← worker.toPbInterface pool
        return (poolSnapshot, snapshotBrief)

def startWorkers (keyring : Keyring) (stakeBn : String → Nat) (db : LocalDb)
    (ids : List String) : Except HandlerError (List (PoolPb × WorkerPb)) :=
  (db.workers.rows.filter (·.id ∈ ids)).mapM
    (createWorkerContext keyring stakeBn db)

def PoolsKept (db : LocalDb) : Prop :=
  ∀ worker ∈ db.workers.rows, ∃ pool ∈ db.pools.rows,
    worker.poolId = some pool.id

variable {keyring : Keyring} {stakeBn : String → Nat}
  {db committed current after : LocalDb}

theorem poolOf_isSome_iff {worker : Worker} :
    (db.poolOf worker).isSome = true ↔
      ∃ pool ∈ db.pools.rows, worker.poolId = some pool.id := by
  unfold LocalDb.poolOf
  cases worker.poolId with
  | none => simp
  | some id =>
      rw [Option.bind_some, List.find?_isSome]
      refine exists_congr fun pool => and_congr_right fun _ => ?_
      rw [decide_eq_true_eq, Option.some.injEq, eq_comm]

/-- Listing the workers fails on the first one without a pool. -/
theorem listWorker_ok_iff :
    (∃ rows, listWorker db = .ok rows) ↔ PoolsKept db := by
  rw [listWorker, mapM_eq_ok_iff]
  refine forall₂_congr fun worker _ => ?_
  rw [← poolOf_isSome_iff]
  cases db.poolOf worker with
  | none => exact iff_of_false (by rintro ⟨_, h⟩; cases h) Bool.false_ne_true
  | some pool => exact iff_of_true ⟨_, rfl⟩ rfl

/-- A worker whose pool is stored starts, unless its stake is too small or the
operator of the pool cannot be decrypted. -/
theorem startWorkers_error (h : PoolsKept db) {ids : List String}
    {e : HandlerError} (hstart : startWorkers keyring stakeBn db ids = .error e) :
    e = .error "Stake amount should be at least > 1PHA!" ∨
      ∃ pool ∈ db.pools.rows,
        keyring.decrypt pool.encryptedOperator = .error e := by
  obtain ⟨worker, hmem, hworker⟩ := mapM_eq_error hstart
  obtain ⟨pool, hpool⟩ := Option.isSome_iff_exists.mp
    (poolOf_isSome_iff.mpr (h worker (List.mem_of_mem_filter hmem)))
  rw [createWorkerContext, hpool] at hworker
  split at hworker
  · cases hworker
    exact Or.inl rfl
  · refine Or.inr ⟨pool, ?_, ?_⟩
    · obtain ⟨id, -, hfound⟩ := Option.bind_eq_some_iff.mp hpool
      exact List.mem_of_find?_eq_some hfound
    · cases hdecrypt : keyring.decrypt pool.encryptedOperator with
      | error other =>
          simp only [PoolObject.toPbInterface, PoolObject.operator,
            hdecrypt] at hworker
          cases hworker
          rfl
      | ok operator =>
          simp only [PoolObject.toPbInterface, PoolObject.operator,
            hdecrypt] at hworker
          cases hworker

/-- The workers of a pool that is destroyed go with it. -/
theorem destroyPool_kept (hkept : PoolsKept db) (id : String) :
    PoolsKept (db.destroyPool id) := by
  intro worker hworker
  obtain ⟨hstored, hother⟩ := List.mem_filter.mp hworker
  obtain ⟨pool, hpool, hid⟩ := hkept worker hstored
  have hne : pool.id ≠ id := by
    rintro rfl
    exact of_decide_eq_true hother hid
  exact ⟨pool, List.mem_filter.mpr ⟨hpool, decide_eq_true hne⟩, hid⟩

theorem savePool_kept {loaded assigned : Pool} (hkept : PoolsKept db)
    (h : savePool db loaded assigned = .ok after) : PoolsKept after := by
  obtain ⟨hrows, hworkers⟩ := LocalDb.writePools_eq_ok.mp h
  intro worker hworker
  rw [hworkers] at hworker
  obtain ⟨pool, hpool, hid⟩ := hkept worker hworker
  refine ⟨if pool.id = loaded.id then Pool.save loaded assigned pool else pool,
    ?_, ?_⟩
  · rw [hrows]
    exact List.mem_map_of_mem hpool
  · rw [hid]
    split <;> rfl

theorem updatePool_kept {items : List UpdatePoolItem} (hkept : PoolsKept db) :
    PoolsKept (updatePool keyring db items).2 := by
  refine inTransaction_preserves PoolsKept
    (fun current item after outs hbefore hitem => ?_) hkept
  obtain ⟨pool, loaded, -, -, ⟨-, rfl, -⟩ | ⟨-, ret, -, hsaved, -⟩⟩ :=
    updatePoolItem_eq_ok.mp hitem
  · exact destroyPool_kept hbefore loaded.id
  · exact savePool_kept hbefore hsaved

theorem createPool_kept {pools : List CreatePoolItem} (hkept : PoolsKept db) :
    PoolsKept (createPool keyring db pools).2 := by
  refine inTransaction_preserves PoolsKept
    (fun current item after outs hbefore hitem => ?_) hkept
  obtain ⟨⟨row, hrows⟩, hworkers⟩ := createPoolItem_eq_ok hitem
  intro worker hworker
  rw [hworkers] at hworker
  obtain ⟨pool, hpool, hid⟩ := hbefore worker hworker
  refine ⟨pool, ?_, hid⟩
  rw [hrows]
  exact List.mem_append_left _ hpool

theorem createWorker_kept {workers : List CreateWorkerItem}
    (hkept : PoolsKept db) : PoolsKept (createWorker db workers).2 := by
  have hend : (createWorker db workers).2.pools = db.pools ∧
      PoolsKept (createWorker db workers).2 := by
    refine inTransaction_preserves
      (fun current => current.pools = db.pools ∧ PoolsKept current)
      (fun current item after outs hbefore hitem => ?_) ⟨rfl, hkept⟩
    obtain ⟨row, pool, hrows, hpools, hpool, hid⟩ := createWorkerItem_eq_ok hitem
    refine ⟨hpools.trans hbefore.1, fun worker hworker => ?_⟩
    rw [hpools]
    rw [hrows] at hworker
    rcases List.mem_append.mp hworker with hold | hnew
    · exact hbefore.2 worker hold
    · rw [List.mem_singleton.mp hnew, hbefore.1]
      exact ⟨pool, hpool, hid⟩
  exact hend.2

theorem updateWorkerItem_poolId {item : UpdateWorkerItem}
    {outs : List (Worker × Pool)} {row : Worker}
    (h : updateWorkerItem committed current item = .ok (after, outs))
    (hrow : row ∈ after.workers.rows) :
    (∃ stored ∈ current.workers.rows, row.poolId = stored.poolId) ∨
      ∃ pool ∈ committed.pools.rows, row.poolId = some pool.id := by
  obtain ⟨worker, loaded, -, -, ⟨-, rfl, -⟩ | ⟨-, pool, hpool, hsaved, -⟩⟩ :=
    updateWorkerItem_eq_ok.mp h
  · exact Or.inl ⟨row, List.mem_of_mem_filter hrow, rfl⟩
  · rw [(LocalDb.writeWorkers_eq_ok.mp hsaved).1] at hrow
    obtain ⟨stored, hstored, rfl⟩ := List.mem_map.mp hrow
    split
    · simp only [Worker.save, written]
      split
      · exact Or.inl ⟨stored, hstored, rfl⟩
      · exact Or.inr ⟨pool, List.mem_of_find?_eq_some hpool, rfl⟩
    · exact Or.inl ⟨stored, hstored, rfl⟩

theorem updateWorker_kept {items : List UpdateWorkerItem}
    (hkept : PoolsKept db) : PoolsKept (updateWorker db items).2 := by
  have hend : (updateWorker db items).2.pools = db.pools ∧
      PoolsKept (updateWorker db items).2 := by
    refine inTransaction_preserves
      (fun current => current.pools = db.pools ∧ PoolsKept current)
      (fun current item after outs hbefore hitem => ?_) ⟨rfl, hkept⟩
    have hpools := updateWorkerItem_pools hitem
    refine ⟨hpools.trans hbefore.1, fun row hrow => ?_⟩
    rw [hpools]
    rcases updateWorkerItem_poolId hitem hrow with ⟨stored, hstored, hid⟩ |
      hpool
    · rw [hid]
      exact hbefore.2 stored hstored
    · rw [hbefore.1]
      exact hpool
  exact hend.2

/-- Every request keeps the pools, whether it succeeds or fails. -/
theorem request_kept (hkept : PoolsKept db) (request : DbRequest) :
    PoolsKept (request.leaves keyring db) := by
  cases request with
  | createPool pools => exact createPool_kept hkept
  | updatePool items => exact updatePool_kept hkept
  | createWorker workers => exact createWorker_kept hkept
  | updateWorker items => exact updateWorker_kept hkept

/-- Every worker has its pool, so that the workers can be listed and started. -/
theorem pools_kept (keyring : Keyring) (stakeBn : String → Nat) (db : LocalDb)
    (h : (requestMachine keyring).Reachable db) :
    PoolsKept db ∧ (∃ rows, listWorker db = .ok rows) ∧
      ∀ ids e, startWorkers keyring stakeBn db ids = .error e →
        e = .error "Stake amount should be at least > 1PHA!" ∨
          ∃ pool ∈ db.pools.rows,
            keyring.decrypt pool.encryptedOperator = .error e := by
  have hpreserved : (requestMachine keyring).Preserves Machine.anyEvent
      PoolsKept := by
    intro before request after _ hbefore taken
    cases taken
    exact request_kept hbefore request
  have hkept : PoolsKept db := hpreserved.reaches nofun h
  exact ⟨hkept, listWorker_ok_iff.mpr hkept, fun ids e => startWorkers_error hkept⟩

def createsRows : List DbRequest :=
  [.createPool [
      { uuid := "p", pool := poolNamed 1 "first" },
      { uuid := "q", pool := poolNamed 2 "second" }],
    .createWorker [
      { uuid := "w"
        worker :=
          { pid := 1, name := "worker", endpoint := "http://w", enabled := true
            deleted := false, stake := "1", syncOnly := false } },
      { uuid := "x"
        worker :=
          { pid := 2, name := "other", endpoint := "http://x", enabled := true
            deleted := false, stake := "1", syncOnly := false } }]]

def deletesPool (uuid : String) : DbRequest :=
  .updatePool [
    { id := { uuid, name := "", pid := 0, json := "" }
      pool := some { poolNamed 0 "" with deleted := true } }]

/-- The first pool is deleted with its worker. -/
theorem pools_kept_deleted :
    ((requestMachine plainKeyring).ended
        (createsRows ++ [deletesPool "p"])).workers.rows.map (·.id) = ["x"] ∧
      PoolsKept ((requestMachine plainKeyring).ended
        (createsRows ++ [deletesPool "p"])) :=
  ⟨by decide +kernel, (pools_kept plainKeyring (fun _ => 0) _
    (Machine.reachable_ended (by decide +kernel))).1⟩

end RuntimeBridge.Manager
