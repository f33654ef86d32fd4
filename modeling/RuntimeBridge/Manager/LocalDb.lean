import Mathlib.Data.List.Nodup
import RuntimeBridge.Library.Table

/-! The two tables of `local_db`.  The columns `createdAt` and `updatedAt` are
left out. -/

namespace RuntimeBridge.Manager

open Library

inductive HandlerError where
  /-- A `PrbError` of type `NOT_FOUND`. -/
  | notFound (message : String)
  | typeError (message : String)
  | error (message : String)
  deriving DecidableEq, Repr

structure Pool where
  id : String
  pid : Nat
  name : String
  proxiedAccountSs58 : String
  encryptedOperator : List UInt8
  enabled : Bool
  syncOnly : Bool
  deriving DecidableEq, Repr

structure Worker where
  id : String
  name : String
  endpoint : String
  stake : String
  enabled : Bool
  syncOnly : Bool
  poolId : Option String
  deriving DecidableEq, Repr

/-- The primary key and the unique columns. -/
structure PoolConstraint (rows : List Pool) : Prop where
  id : (rows.map (·.id)).Nodup
  pid : (rows.map (·.pid)).Nodup
  name : (rows.map (·.name)).Nodup

structure WorkerConstraint (rows : List Worker) : Prop where
  id : (rows.map (·.id)).Nodup
  name : (rows.map (·.name)).Nodup

instance : DecidablePred PoolConstraint := fun rows =>
  decidable_of_iff ((rows.map (·.id)).Nodup ∧ (rows.map (·.pid)).Nodup ∧
      (rows.map (·.name)).Nodup)
    ⟨fun h => ⟨h.1, h.2.1, h.2.2⟩, fun h => ⟨h.id, h.pid, h.name⟩⟩

instance : DecidablePred WorkerConstraint := fun rows =>
  decidable_of_iff ((rows.map (·.id)).Nodup ∧ (rows.map (·.name)).Nodup)
    ⟨fun h => ⟨h.1, h.2⟩, fun h => ⟨h.id, h.name⟩⟩

structure LocalDb where
  pools : Table Pool PoolConstraint
  workers : Table Worker WorkerConstraint

/-- `SequelizeUniqueConstraintError` -/
def uniqueConstraintError : HandlerError := .error "Validation error"

theorem PoolConstraint.sublist {rows kept : List Pool}
    (h : PoolConstraint rows) (hsub : kept.Sublist rows) :
    PoolConstraint kept where
  id := h.id.sublist (hsub.map _)
  pid := h.pid.sublist (hsub.map _)
  name := h.name.sublist (hsub.map _)

theorem WorkerConstraint.sublist {rows kept : List Worker}
    (h : WorkerConstraint rows) (hsub : kept.Sublist rows) :
    WorkerConstraint kept where
  id := h.id.sublist (hsub.map _)
  name := h.name.sublist (hsub.map _)

namespace LocalDb

def empty : LocalDb where
  pools := { rows := [], sound := by decide }
  workers := { rows := [], sound := by decide }

def writePools (db : LocalDb) (rows : List Pool) :
    Except HandlerError LocalDb :=
  match Table.write rows with
  | some pools => .ok { db with pools }
  | none => .error uniqueConstraintError

def writeWorkers (db : LocalDb) (rows : List Worker) :
    Except HandlerError LocalDb :=
  match Table.write rows with
  | some workers => .ok { db with workers }
  | none => .error uniqueConstraintError

/-- `destroy` of a pool.  The foreign key of a worker has no `allowNull`, so
that it is created `ON DELETE CASCADE`. -/
def destroyPool (db : LocalDb) (id : String) : LocalDb where
  pools :=
    { rows := db.pools.rows.filter (·.id ≠ id)
      sound := db.pools.sound.sublist List.filter_sublist }
  workers :=
    { rows := db.workers.rows.filter (·.poolId ≠ some id)
      sound := db.workers.sound.sublist List.filter_sublist }

def destroyWorker (db : LocalDb) (id : String) : LocalDb :=
  { db with
    workers :=
      { rows := db.workers.rows.filter (·.id ≠ id)
        sound := db.workers.sound.sublist List.filter_sublist } }

def poolByPid (db : LocalDb) (pid : Nat) : Option Pool :=
  db.pools.rows.find? (·.pid = pid)

/-- `include: [Pool]` -/
def poolOf (db : LocalDb) (worker : Worker) : Option Pool :=
  worker.poolId.bind fun id => db.pools.rows.find? (·.id = id)

/-- `Worker.findByPk` -/
def findWorker (db : LocalDb) (id : String) : Option Worker :=
  db.workers.rows.find? (·.id = id)

variable {db after : LocalDb}

theorem writePools_eq_ok {rows : List Pool} :
    db.writePools rows = .ok after ↔
      after.pools.rows = rows ∧ after.workers = db.workers := by
  unfold writePools
  constructor
  · intro h
    split at h
    · next pools hpools =>
        cases h
        exact ⟨Table.write_eq_some.mp hpools, rfl⟩
    · cases h
  · rintro ⟨hrows, hworkers⟩
    rw [Table.write_eq_some.mpr hrows, ← hworkers]

theorem writeWorkers_eq_ok {rows : List Worker} :
    db.writeWorkers rows = .ok after ↔
      after.workers.rows = rows ∧ after.pools = db.pools := by
  unfold writeWorkers
  constructor
  · intro h
    split at h
    · next workers hworkers =>
        cases h
        exact ⟨Table.write_eq_some.mp hworkers, rfl⟩
    · cases h
  · rintro ⟨hrows, hpools⟩
    rw [Table.write_eq_some.mpr hrows, ← hpools]

end LocalDb

/-- `save` writes the attributes that differ from the loaded ones. -/
def written [DecidableEq α] (loaded assigned stored : α) : α :=
  if assigned = loaded then stored else assigned

theorem written_eq_assigned_iff [DecidableEq α] {loaded assigned stored : α} :
    written loaded assigned stored = assigned ↔
      (assigned = loaded → stored = loaded) := by
  unfold written
  split
  · next h =>
      constructor
      · rintro hstored -
        rw [hstored, h]
      · intro hstored
        rw [hstored h, h]
  · next h => exact iff_of_true rfl fun heq => absurd heq h

theorem written_self [DecidableEq α] (assigned stored : α) :
    written stored assigned stored = assigned := by
  unfold written
  split
  · next h => exact h.symm
  · rfl

end RuntimeBridge.Manager
