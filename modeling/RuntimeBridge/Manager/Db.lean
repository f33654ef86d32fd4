import RuntimeBridge.Library.Outcome
import RuntimeBridge.Manager.LocalDb

/-! The handlers of `ptp/db.ts`.  Their writes go through a transaction, and
their lookups do not. -/

namespace RuntimeBridge.Manager

open Library

structure Keypair where
  address : String
  /-- `keyring.encodeAddress(publicKey, 0)` -/
  ss58Polkadot : String
  deriving DecidableEq, Repr

/-- The keyring, and the encryption for the key of this peer. -/
structure Keyring where
  addFromMnemonic : String → Except HandlerError Keypair
  encrypt : (random : List UInt8) → Keypair → List UInt8
  decrypt : List UInt8 → Except HandlerError Keypair

/-- A `Pool` object, with the key pair that it has decrypted or been given. -/
structure PoolObject where
  row : Pool
  decryptedOperatorKey : Option Keypair

/-- `prb.db.IPool` -/
structure PoolPb where
  uuid : String
  polkadotJson : List UInt8
  ss58Phala : String
  ss58Polkadot : String
  pid : Nat
  name : String
  enabled : Bool
  deleted : Bool
  realPhalaSs58 : String
  syncOnly : Bool
  deriving DecidableEq, Repr

/-- `prb.db.IWorker` -/
structure WorkerPb where
  uuid : String
  pid : Nat
  name : String
  endpoint : String
  enabled : Bool
  deleted : Bool
  stake : String
  syncOnly : Bool
  deriving DecidableEq, Repr

/-- What a request says about a pool.  An owner without a mnemonic has the empty
one, and `random` is what `set operator` draws. -/
structure PoolData where
  owner : Option String
  pid : Nat
  name : String
  enabled : Bool
  deleted : Bool
  realPhalaSs58 : String
  syncOnly : Bool
  random : List UInt8
  deriving DecidableEq, Repr

structure WorkerData where
  pid : Nat
  name : String
  endpoint : String
  enabled : Bool
  deleted : Bool
  stake : String
  syncOnly : Bool
  deriving DecidableEq, Repr

/-- The empty string and the empty `uuid` count as missing.  `json` is what
`JSON.stringify` makes of the identity. -/
structure PoolIdentity where
  uuid : String
  name : String
  pid : Nat
  json : String
  deriving DecidableEq, Repr

structure WorkerIdentity where
  uuid : String
  name : String
  json : String
  deriving DecidableEq, Repr

structure CreatePoolItem where
  /-- The default of the column `id`. -/
  uuid : String
  pool : PoolData
  deriving DecidableEq, Repr

structure UpdatePoolItem where
  id : PoolIdentity
  pool : Option PoolData
  deriving DecidableEq, Repr

structure CreateWorkerItem where
  uuid : String
  worker : WorkerData
  deriving DecidableEq, Repr

structure UpdateWorkerItem where
  id : WorkerIdentity
  worker : Option WorkerData
  deriving DecidableEq, Repr

def PoolObject.operator (keyring : Keyring) (pool : PoolObject) :
    Except HandlerError Keypair :=
  match pool.decryptedOperatorKey with
  | some pair => .ok pair
  | none => keyring.decrypt pool.row.encryptedOperator

def PoolObject.toPbInterface (keyring : Keyring) (pool : PoolObject) :
    Except HandlerError PoolPb := do
  let operator ← pool.operator keyring
  return {
    uuid := pool.row.id
    polkadotJson := pool.row.encryptedOperator
    ss58Phala := operator.address
    ss58Polkadot := operator.ss58Polkadot
    pid := pool.row.pid
    name := pool.row.name
    enabled := pool.row.enabled
    deleted := false
    realPhalaSs58 := pool.row.proxiedAccountSs58
    syncOnly := pool.row.syncOnly }

def cannotRead (property : String) : HandlerError :=
  .typeError ("Cannot read properties of null (reading '" ++ property ++ "')")

def cannotSet (property : String) : HandlerError :=
  .typeError ("Cannot set properties of null (setting '" ++ property ++ "')")

def Worker.toPbInterface (worker : Worker) (pool : Option Pool) :
    Except HandlerError WorkerPb :=
  match pool with
  | some pool => .ok {
      uuid := worker.id
      pid := pool.pid
      name := worker.name
      endpoint := worker.endpoint
      enabled := worker.enabled
      deleted := false
      stake := worker.stake
      syncOnly := worker.syncOnly }
  | none => .error (cannotRead "pid")

/-- The error of `rollback` once the transaction has been committed. -/
def rollbackError : HandlerError :=
  .error ("Transaction cannot be rolled back because it has been finished " ++
    "with state: commit")

/-- The `try` of a handler.  It commits before it makes up its response. -/
def inTransaction {Item Out Response : Type}
    (apply : LocalDb → LocalDb → Item →
      Except HandlerError (LocalDb × List Out))
    (respond : Out → Except HandlerError Response) (db : LocalDb)
    (items : List Item) : Except HandlerError (List Response) × LocalDb :=
  match transact apply db db items with
  | .error e => (.error e, db)
  | .ok (after, outs) =>
      match outs.mapM respond with
      | .ok response => (.ok response, after)
      | .error _ => (.error rollbackError, after)

def createPoolItem (keyring : Keyring) (_committed current : LocalDb)
    (item : CreatePoolItem) :
    Except HandlerError (LocalDb × List PoolObject) :=
  match item.pool.owner with
  | none => .error (cannotRead "mnemonic")
  | some mnemonic => do
      let operator ← keyring.addFromMnemonic mnemonic
      let row : Pool :=
        { id := item.uuid
          pid := item.pool.pid
          name := item.pool.name
          proxiedAccountSs58 := item.pool.realPhalaSs58
          encryptedOperator := keyring.encrypt item.pool.random operator
          enabled := item.pool.enabled
          syncOnly := item.pool.syncOnly }
      let next ← current.writePools (current.pools.rows ++ [row])
      return (next, [{ row, decryptedOperatorKey := some operator }])

def createPool (keyring : Keyring) (db : LocalDb)
    (pools : List CreatePoolItem) :
    Except HandlerError (List PoolPb) × LocalDb :=
  inTransaction (createPoolItem keyring) (·.toPbInterface keyring) db pools

def findPool (db : LocalDb) (id : PoolIdentity) : Option Pool :=
  if id.uuid ≠ "" then db.pools.rows.find? (·.id = id.uuid)
  else if id.name ≠ "" then db.pools.rows.find? (·.name = id.name)
  else db.poolByPid id.pid

/-- `ret.operatorMnemonic = ...` -/
def assignOperator (keyring : Keyring) (ret : PoolObject) (pool : PoolData) :
    Except HandlerError PoolObject :=
  match pool.owner with
  | none => .ok ret
  | some mnemonic =>
      if mnemonic = "" then .ok ret
      else do
        let operator ← keyring.addFromMnemonic mnemonic
        return {
          row := { ret.row with
            encryptedOperator := keyring.encrypt pool.random operator }
          decryptedOperatorKey := some operator }

def assignPool (row : Pool) (pool : PoolData) : Pool :=
  { row with
    pid := pool.pid
    name := pool.name
    enabled := pool.enabled
    proxiedAccountSs58 := pool.realPhalaSs58
    syncOnly := pool.syncOnly }

/-- What `save` makes of a stored row. -/
def Pool.save (loaded assigned stored : Pool) : Pool where
  id := stored.id
  pid := written loaded.pid assigned.pid stored.pid
  name := written loaded.name assigned.name stored.name
  proxiedAccountSs58 := written loaded.proxiedAccountSs58
    assigned.proxiedAccountSs58 stored.proxiedAccountSs58
  encryptedOperator := written loaded.encryptedOperator
    assigned.encryptedOperator stored.encryptedOperator
  enabled := written loaded.enabled assigned.enabled stored.enabled
  syncOnly := written loaded.syncOnly assigned.syncOnly stored.syncOnly

/-- An update of a row that is gone changes nothing. -/
def savePool (db : LocalDb) (loaded assigned : Pool) :
    Except HandlerError LocalDb :=
  db.writePools (db.pools.rows.map fun stored =>
    if stored.id = loaded.id then Pool.save loaded assigned stored else stored)

/-- The first attribute that is assigned. -/
def PoolData.firstAssigned (pool : PoolData) : String :=
  match pool.owner with
  | some mnemonic => if mnemonic = "" then "pid" else "operatorMnemonic"
  | none => "pid"

def updatePoolItem (keyring : Keyring) (committed current : LocalDb)
    (item : UpdatePoolItem) :
    Except HandlerError (LocalDb × List PoolObject) :=
  match item.pool, findPool committed item.id with
  | none, _ => .error (.notFound ("Can't find pool: " ++ item.id.json))
  | some pool, none =>
      .error (if pool.deleted then cannotRead "destroy"
        else cannotSet pool.firstAssigned)
  | some pool, some loaded =>
      if pool.deleted then
        .ok (current.destroyPool loaded.id, [])
      else do
        let ret ← assignOperator keyring
          { row := loaded, decryptedOperatorKey := none } pool
        let assigned := assignPool ret.row pool
        let next ← savePool current loaded assigned
        return (next, [{ ret with row := assigned }])

def updatePool (keyring : Keyring) (db : LocalDb)
    (items : List UpdatePoolItem) :
    Except HandlerError (List PoolPb) × LocalDb :=
  inTransaction (updatePoolItem keyring) (·.toPbInterface keyring) db items

def poolNotFound (pid : Nat) : HandlerError :=
  .notFound ("Pool \x7bpid:" ++ toString pid ++ " not found!")

def createWorkerItem (committed current : LocalDb) (item : CreateWorkerItem) :
    Except HandlerError (LocalDb × List (Worker × Pool)) :=
  match committed.poolByPid item.worker.pid with
  | none => .error (poolNotFound item.worker.pid)
  | some pool => do
      let row : Worker :=
        { id := item.uuid
          name := item.worker.name
          endpoint := item.worker.endpoint
          stake := item.worker.stake
          enabled := item.worker.enabled
          syncOnly := item.worker.syncOnly
          poolId := some pool.id }
      let next ← current.writeWorkers (current.workers.rows ++ [row])
      return (next, [(row, pool)])

/-- `poolLookupTable` only spares lookups, whose results do not change before
the commit. -/
def createWorker (db : LocalDb) (workers : List CreateWorkerItem) :
    Except HandlerError (List WorkerPb) × LocalDb :=
  inTransaction createWorkerItem (fun ret => ret.1.toPbInterface ret.2) db
    workers

/-- With neither a `uuid` nor a name nothing is looked up. -/
def lookUpWorker (db : LocalDb) (id : WorkerIdentity) : Option Worker :=
  if id.uuid ≠ "" then db.findWorker id.uuid
  else if id.name ≠ "" then db.workers.rows.find? (·.name = id.name)
  else none

def assignWorker (row : Worker) (worker : WorkerData) (pool : Pool) : Worker :=
  { row with
    poolId := some pool.id
    name := worker.name
    endpoint := worker.endpoint
    enabled := worker.enabled
    stake := worker.stake
    syncOnly := worker.syncOnly }

def Worker.save (loaded assigned stored : Worker) : Worker where
  id := stored.id
  name := written loaded.name assigned.name stored.name
  endpoint := written loaded.endpoint assigned.endpoint stored.endpoint
  stake := written loaded.stake assigned.stake stored.stake
  enabled := written loaded.enabled assigned.enabled stored.enabled
  syncOnly := written loaded.syncOnly assigned.syncOnly stored.syncOnly
  poolId := written loaded.poolId assigned.poolId stored.poolId

def saveWorker (db : LocalDb) (loaded assigned : Worker) :
    Except HandlerError LocalDb :=
  db.writeWorkers (db.workers.rows.map fun stored =>
    if stored.id = loaded.id then Worker.save loaded assigned stored
    else stored)

/-- A row that is not looked up is `undefined`, one that is not found `null`. -/
def missingWorker (id : WorkerIdentity) (access property : String) :
    HandlerError :=
  let missing := if id.uuid = "" ∧ id.name = "" then "undefined" else "null"
  .typeError ("Cannot " ++ (if access = "reading" then "read" else "set") ++
    " properties of " ++ missing ++ " (" ++ access ++ " '" ++ property ++ "')")

def updateWorkerItem (committed current : LocalDb) (item : UpdateWorkerItem) :
    Except HandlerError (LocalDb × List (Worker × Pool)) :=
  match item.worker with
  | none => .error (.notFound ("Can't find worker: " ++ item.id.json))
  | some worker =>
      if worker.deleted then
        match lookUpWorker committed item.id with
        | none => .error (missingWorker item.id "reading" "destroy")
        | some loaded => .ok (current.destroyWorker loaded.id, [])
      else
        match committed.poolByPid worker.pid, lookUpWorker committed item.id with
        | none, _ => .error (poolNotFound worker.pid)
        | some _, none => .error (missingWorker item.id "setting" "pool")
        | some pool, some loaded => do
            let assigned := assignWorker loaded worker pool
            let next ← saveWorker current loaded assigned
            return (next, [(assigned, pool)])

def updateWorker (db : LocalDb) (items : List UpdateWorkerItem) :
    Except HandlerError (List WorkerPb) × LocalDb :=
  inTransaction updateWorkerItem (fun ret => ret.1.toPbInterface ret.2) db items

def listWorker (db : LocalDb) : Except HandlerError (List WorkerPb) :=
  db.workers.rows.mapM fun worker => worker.toPbInterface (db.poolOf worker)

variable {keyring : Keyring} {db committed current next after : LocalDb}

theorem createPoolItem_eq_ok {item : CreatePoolItem} {outs : List PoolObject}
    (h : createPoolItem keyring committed current item = .ok (next, outs)) :
    (∃ row, next.pools.rows = current.pools.rows ++ [row]) ∧
      next.workers = current.workers := by
  unfold createPoolItem at h
  split at h
  · cases h
  · obtain ⟨operator, -, h⟩ := bind_eq_ok.mp h
    obtain ⟨written, hwritten, h⟩ := bind_eq_ok.mp h
    cases h
    obtain ⟨hrows, hworkers⟩ := LocalDb.writePools_eq_ok.mp hwritten
    exact ⟨⟨_, hrows⟩, hworkers⟩

theorem updatePoolItem_eq_ok {item : UpdatePoolItem} {outs : List PoolObject} :
    updatePoolItem keyring committed current item = .ok (next, outs) ↔
      ∃ pool loaded, item.pool = some pool ∧
        findPool committed item.id = some loaded ∧
        (pool.deleted = true ∧ next = current.destroyPool loaded.id ∧
            outs = [] ∨
          pool.deleted = false ∧ ∃ ret,
            assignOperator keyring { row := loaded, decryptedOperatorKey := none }
              pool = .ok ret ∧
            savePool current loaded (assignPool ret.row pool) = .ok next ∧
            outs = [{ ret with row := assignPool ret.row pool }]) := by
  unfold updatePoolItem
  constructor
  · intro h
    split at h
    · cases h
    · cases h
    · next pool loaded hpool hloaded =>
        refine ⟨pool, loaded, hpool, hloaded, ?_⟩
        split at h
        · next hdeleted =>
            cases h
            exact Or.inl ⟨hdeleted, rfl, rfl⟩
        · next hkept =>
            obtain ⟨ret, hret, h⟩ := bind_eq_ok.mp h
            obtain ⟨saved, hsaved, h⟩ := bind_eq_ok.mp h
            cases h
            exact Or.inr ⟨Bool.eq_false_iff.mpr hkept, ret, hret, hsaved, rfl⟩
  · rintro ⟨pool, loaded, hpool, hloaded,
      ⟨hdeleted, rfl, rfl⟩ | ⟨hkept, ret, hret, hsaved, rfl⟩⟩
    · simp only [hpool, hloaded, hdeleted, if_pos]
    · simp only [hpool, hloaded, hkept, Bool.false_eq_true, if_neg,
        not_false_eq_true]
      exact bind_eq_ok.mpr ⟨ret, hret, bind_eq_ok.mpr ⟨next, hsaved, rfl⟩⟩

theorem createWorkerItem_eq_ok {item : CreateWorkerItem}
    {outs : List (Worker × Pool)}
    (h : createWorkerItem committed current item = .ok (next, outs)) :
    ∃ row pool, next.workers.rows = current.workers.rows ++ [row] ∧
      next.pools = current.pools ∧ pool ∈ committed.pools.rows ∧
      row.poolId = some pool.id := by
  unfold createWorkerItem at h
  split at h
  · cases h
  · next pool hpool =>
      obtain ⟨written, hwritten, h⟩ := bind_eq_ok.mp h
      cases h
      obtain ⟨hrows, hpools⟩ := LocalDb.writeWorkers_eq_ok.mp hwritten
      exact ⟨_, pool, hrows, hpools, List.mem_of_find?_eq_some hpool, rfl⟩

theorem updateWorkerItem_eq_ok {item : UpdateWorkerItem}
    {outs : List (Worker × Pool)} :
    updateWorkerItem committed current item = .ok (next, outs) ↔
      ∃ worker loaded, item.worker = some worker ∧
        lookUpWorker committed item.id = some loaded ∧
        (worker.deleted = true ∧ next = current.destroyWorker loaded.id ∧
            outs = [] ∨
          worker.deleted = false ∧ ∃ pool,
            committed.poolByPid worker.pid = some pool ∧
            saveWorker current loaded (assignWorker loaded worker pool) =
              .ok next ∧
            outs = [(assignWorker loaded worker pool, pool)]) := by
  unfold updateWorkerItem
  constructor
  · intro h
    split at h
    · cases h
    · next worker hworker =>
        split at h
        · next hdeleted =>
            split at h
            · cases h
            · next loaded hloaded =>
                cases h
                exact ⟨worker, loaded, hworker, hloaded,
                  Or.inl ⟨hdeleted, rfl, rfl⟩⟩
        · next hkept =>
            split at h
            · cases h
            · cases h
            · next pool loaded hpool hloaded =>
                obtain ⟨saved, hsaved, h⟩ := bind_eq_ok.mp h
                cases h
                exact ⟨worker, loaded, hworker, hloaded,
                  Or.inr ⟨Bool.eq_false_iff.mpr hkept, pool, hpool, hsaved, rfl⟩⟩
  · rintro ⟨worker, loaded, hworker, hloaded,
      ⟨hdeleted, rfl, rfl⟩ | ⟨hkept, pool, hpool, hsaved, rfl⟩⟩
    · simp only [hworker, hloaded, hdeleted, if_pos]
    · simp only [hworker, hloaded, hkept, hpool, Bool.false_eq_true, if_neg,
        not_false_eq_true]
      exact bind_eq_ok.mpr ⟨next, hsaved, rfl⟩

theorem updateWorkerItem_pools {item : UpdateWorkerItem}
    {outs : List (Worker × Pool)}
    (h : updateWorkerItem committed current item = .ok (next, outs)) :
    next.pools = current.pools := by
  obtain ⟨worker, loaded, -, -, ⟨-, rfl, -⟩ | ⟨-, pool, -, hsaved, -⟩⟩ :=
    updateWorkerItem_eq_ok.mp h
  · rfl
  · exact (LocalDb.writeWorkers_eq_ok.mp hsaved).2

/-- A request whose items do not all go through is rolled back. -/
theorem inTransaction_leaves {Item Out Response : Type}
    (apply : LocalDb → LocalDb → Item →
      Except HandlerError (LocalDb × List Out))
    (respond : Out → Except HandlerError Response) (db : LocalDb)
    (items : List Item) :
    (∃ outs, transact apply db db items =
        .ok ((inTransaction apply respond db items).2, outs)) ∨
      (∃ e, transact apply db db items = .error e) ∧
        (inTransaction apply respond db items).2 = db := by
  unfold inTransaction
  cases htransact : transact apply db db items with
  | error e => exact Or.inr ⟨⟨e, rfl⟩, rfl⟩
  | ok result =>
      obtain ⟨after, outs⟩ := result
      refine Or.inl ⟨outs, ?_⟩
      simp only
      split <;> rfl

theorem inTransaction_preserves {Item Out Response : Type}
    {apply : LocalDb → LocalDb → Item →
      Except HandlerError (LocalDb × List Out)}
    {respond : Out → Except HandlerError Response} {items : List Item}
    (property : LocalDb → Prop)
    (preserved : ∀ current item after outs, property current →
      apply db current item = .ok (after, outs) → property after)
    (holds : property db) :
    property (inTransaction apply respond db items).2 := by
  rcases inTransaction_leaves apply respond db items with
    ⟨outs, htransact⟩ | ⟨-, hsame⟩
  · exact transact_preserves property
      (fun current item after outs _ => preserved current item after outs)
      holds htransact
  · rw [hsame]
    exact holds

def plainKeyring : Keyring where
  addFromMnemonic _ := .ok { address := "alice", ss58Polkadot := "alice" }
  encrypt random _ := random
  decrypt _ := .ok { address := "alice", ss58Polkadot := "alice" }

def poolNamed (pid : Nat) (name : String) : PoolData where
  owner := some "mnemonic"
  pid
  name
  enabled := true
  deleted := false
  realPhalaSs58 := ""
  syncOnly := false
  random := []

end RuntimeBridge.Manager
