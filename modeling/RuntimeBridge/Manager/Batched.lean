import RuntimeBridge.Manager.Db

/-! `UpdatePool` and `UpdateWorker`, against their items applied one by one. -/

namespace RuntimeBridge.Manager

open Library

/-- A request that succeeds leaves what its items make one after another, each
looking up what the earlier ones have left, and one that fails leaves
everything as it was. -/
def AsOneByOne {Item Out Response : Type}
    (apply : LocalDb → LocalDb → Item →
      Except HandlerError (LocalDb × List Out))
    (respond : Out → Except HandlerError Response) (db : LocalDb)
    (items : List Item) : Prop :=
  match inTransaction apply respond db items with
  | (.ok _, after) => oneByOne apply db items = .ok after
  | (.error _, after) => after = db

/-- The mnemonic that an item gives. -/
def PoolData.mnemonic (pool : PoolData) : Option String :=
  pool.owner.filter (· ≠ "")

/-- The pool can be sent back: the item gives its operator, or the stored one can
be decrypted. -/
def UpdatePoolItem.answers (keyring : Keyring) (db : LocalDb)
    (item : UpdatePoolItem) : Prop :=
  ∀ pool loaded, item.pool = some pool → findPool db item.id = some loaded →
    pool.deleted = false → pool.mnemonic = none →
      ∃ operator, keyring.decrypt loaded.encryptedOperator = .ok operator

def UpdatePoolItem.idle (keyring : Keyring) (db : LocalDb)
    (item : UpdatePoolItem) : Prop :=
  ∀ pool loaded, item.pool = some pool → findPool db item.id = some loaded →
    pool.deleted = false ∧ ∀ ret,
      assignOperator keyring { row := loaded, decryptedOperatorKey := none }
        pool = .ok ret → assignPool ret.row pool = loaded

/-- Where an item assigns what is committed, no earlier item has stored anything
else. -/
structure Pool.Fresh (pool : PoolData) (loaded assigned found : Pool) :
    Prop where
  pid : assigned.pid = loaded.pid → found.pid = loaded.pid
  name : assigned.name = loaded.name → found.name = loaded.name
  proxiedAccountSs58 :
    assigned.proxiedAccountSs58 = loaded.proxiedAccountSs58 →
      found.proxiedAccountSs58 = loaded.proxiedAccountSs58
  encryptedOperator : pool.mnemonic ≠ none →
    assigned.encryptedOperator = loaded.encryptedOperator →
      found.encryptedOperator = loaded.encryptedOperator
  enabled : assigned.enabled = loaded.enabled → found.enabled = loaded.enabled
  syncOnly :
    assigned.syncOnly = loaded.syncOnly → found.syncOnly = loaded.syncOnly

/-- The item finds the committed pool where the earlier items have left it, and
its values are fresh there.  It may also find another pool, if it then writes
nothing into either. -/
def UpdatePoolItem.seen (keyring : Keyring) (committed current : LocalDb)
    (item : UpdatePoolItem) : Prop :=
  ∀ pool loaded, item.pool = some pool →
    findPool committed item.id = some loaded →
      ∃ found, findPool current item.id = some found ∧
        (pool.deleted = true → found.id = loaded.id) ∧
        (pool.deleted = false → ∀ ret again,
          assignOperator keyring { row := loaded, decryptedOperatorKey := none }
            pool = .ok ret →
          assignOperator keyring { row := found, decryptedOperatorKey := none }
            pool = .ok again →
          found.id = loaded.id ∧
              Pool.Fresh pool loaded (assignPool ret.row pool) found ∨
            found.id ≠ loaded.id ∧ assignPool again.row pool = found ∧
              ∀ stored ∈ current.pools.rows, stored.id = loaded.id →
                Pool.save loaded (assignPool ret.row pool) stored = stored)

structure Worker.Fresh (loaded assigned found : Worker) : Prop where
  name : assigned.name = loaded.name → found.name = loaded.name
  endpoint : assigned.endpoint = loaded.endpoint →
    found.endpoint = loaded.endpoint
  stake : assigned.stake = loaded.stake → found.stake = loaded.stake
  enabled : assigned.enabled = loaded.enabled → found.enabled = loaded.enabled
  syncOnly :
    assigned.syncOnly = loaded.syncOnly → found.syncOnly = loaded.syncOnly
  poolId : assigned.poolId = loaded.poolId → found.poolId = loaded.poolId

def UpdateWorkerItem.seen (committed current : LocalDb)
    (item : UpdateWorkerItem) : Prop :=
  ∀ worker loaded, item.worker = some worker →
    lookUpWorker committed item.id = some loaded →
      ∃ found, lookUpWorker current item.id = some found ∧
        (worker.deleted = true → found.id = loaded.id) ∧
        (worker.deleted = false → ∀ pool,
          committed.poolByPid worker.pid = some pool →
          found.id = loaded.id ∧
              Worker.Fresh loaded (assignWorker loaded worker pool) found ∨
            found.id ≠ loaded.id ∧ assignWorker found worker pool = found ∧
              ∀ stored ∈ current.workers.rows, stored.id = loaded.id →
                Worker.save loaded (assignWorker loaded worker pool) stored =
                  stored)

/-- Every item that goes through finds what the earlier ones have left.  From
the first one on whose pool cannot be sent back, no item writes anything. -/
def poolItemsSeen (keyring : Keyring) (db : LocalDb)
    (items : List UpdatePoolItem) : Prop :=
  ∀ earlier item later, items = earlier ++ item :: later →
    ∀ current outs next others,
      transact (updatePoolItem keyring) db db earlier = .ok (current, outs) →
      updatePoolItem keyring db current item = .ok (next, others) →
        ((∀ one ∈ earlier ++ [item], one.answers keyring db) →
          item.seen keyring db current) ∧
        ((¬ ∀ one ∈ earlier ++ [item], one.answers keyring db) →
          ∀ one ∈ earlier ++ [item], one.idle keyring db)

def workerItemsSeen (db : LocalDb) (items : List UpdateWorkerItem) : Prop :=
  ∀ earlier item later, items = earlier ++ item :: later →
    ∀ current outs next others,
      transact updateWorkerItem db db earlier = .ok (current, outs) →
      updateWorkerItem db current item = .ok (next, others) →
        item.seen db current

section

variable {Item Out Response : Type}
  {apply : LocalDb → LocalDb → Item →
    Except HandlerError (LocalDb × List Out)}
  {respond : Out → Except HandlerError Response}
  {db after : LocalDb} {outs : List Out} {items : List Item}

theorem asOneByOne_of_error {e : HandlerError}
    (h : transact apply db db items = .error e) :
    AsOneByOne apply respond db items := by
  simp only [AsOneByOne, inTransaction, h]

/-- A response that cannot be made comes too late to roll anything back. -/
theorem asOneByOne_of_ok (h : transact apply db db items = .ok (after, outs)) :
    AsOneByOne apply respond db items ↔
      ((∀ out ∈ outs, ∃ response, respond out = .ok response) →
        oneByOne apply db items = .ok after) ∧
      ((¬ ∀ out ∈ outs, ∃ response, respond out = .ok response) →
        after = db) := by
  unfold AsOneByOne inTransaction
  rw [h]
  simp only
  cases hrespond : outs.mapM respond with
  | ok responses =>
      have hall := mapM_eq_ok_iff.mp ⟨responses, hrespond⟩
      constructor
      · intro hsame
        exact ⟨fun _ => hsame, fun hnot => absurd hall hnot⟩
      · intro hsame
        exact hsame.1 hall
  | error e =>
      have hsome : ¬ ∀ out ∈ outs, ∃ response, respond out = .ok response := by
        intro hall
        obtain ⟨responses, hresponses⟩ := mapM_eq_ok_iff.mpr hall
        rw [hrespond] at hresponses
        cases hresponses
      constructor
      · intro hsame
        exact ⟨fun hall => absurd hall hsome, fun _ => hsame⟩
      · intro hsame
        exact hsame.2 hsome

theorem asOneByOne_iff :
    (∀ earlier later, items = earlier ++ later →
        AsOneByOne apply respond db earlier) ↔
      ∀ earlier item later, items = earlier ++ item :: later →
        ∀ current outs next others,
          transact apply db db earlier = .ok (current, outs) →
          apply db current item = .ok (next, others) →
            ((∀ out ∈ outs ++ others, ∃ response, respond out = .ok response) →
              ∃ seen, apply current current item = .ok (next, seen)) ∧
            ((¬ ∀ out ∈ outs ++ others,
                ∃ response, respond out = .ok response) → next = db) := by
  have hsteps := transact_oneByOne_iff apply db items
    (fun outs => ∀ out ∈ outs, ∃ response, respond out = .ok response)
    fun _ _ hall out hout => hall out (List.mem_append_left _ hout)
  constructor
  · intro h earlier item later hitems current outs next others hearlier hitem
    constructor
    · refine hsteps.mp (fun earlier later hitems after outs htransact => ?_)
        earlier item later hitems current outs next others hearlier hitem
      exact ((asOneByOne_of_ok htransact).mp (h earlier later hitems)).1
    · have hboth := transact_concat.mpr
        ⟨current, outs, others, hearlier, hitem, rfl⟩
      exact ((asOneByOne_of_ok hboth).mp
        (h (earlier ++ [item]) later (by simp [hitems]))).2
  · intro h earlier later hitems
    cases htransact : transact apply db db earlier with
    | error e => exact asOneByOne_of_error htransact
    | ok result =>
        obtain ⟨after, outs⟩ := result
        refine (asOneByOne_of_ok htransact).mpr ⟨?_, fun hsome => ?_⟩
        · exact hsteps.mpr
            (fun earlier item later hitems current outs next others hearlier
                hitem =>
              (h earlier item later hitems current outs next others hearlier
                hitem).1)
            earlier later hitems after outs htransact
        · rcases List.eq_nil_or_concat earlier with rfl | ⟨before, item, rfl⟩
          · cases htransact
            rfl
          · rw [List.concat_eq_append] at htransact hitems
            obtain ⟨current, first, others, hbefore, hitem, rfl⟩ :=
              transact_concat.mp htransact
            exact (h before item later (by simp [hitems]) current first after
              others hbefore hitem).2 hsome

end

variable {keyring : Keyring} {db committed current next : LocalDb}

theorem mem_of_findPool {id : PoolIdentity} {found : Pool}
    (h : findPool db id = some found) : found ∈ db.pools.rows := by
  unfold findPool at h
  split at h
  · exact List.mem_of_find?_eq_some h
  · split at h
    · exact List.mem_of_find?_eq_some h
    · exact List.mem_of_find?_eq_some h

theorem mem_of_lookUpWorker {id : WorkerIdentity} {found : Worker}
    (h : lookUpWorker db id = some found) : found ∈ db.workers.rows := by
  unfold lookUpWorker at h
  split at h
  · exact List.mem_of_find?_eq_some h
  · split at h
    · exact List.mem_of_find?_eq_some h
    · cases h

theorem pool_eq_of_id {one other : Pool} (hone : one ∈ db.pools.rows)
    (hother : other ∈ db.pools.rows) (h : one.id = other.id) : one = other :=
  List.inj_on_of_nodup_map db.pools.sound.id hone hother h

/-- Only the operator depends on what the item says of its owner. -/
theorem assignOperator_eq_ok {row : Pool} {pool : PoolData} {ret : PoolObject} :
    assignOperator keyring { row, decryptedOperatorKey := none } pool =
        .ok ret ↔
      pool.mnemonic = none ∧ ret = { row, decryptedOperatorKey := none } ∨
        ∃ mnemonic operator, pool.mnemonic = some mnemonic ∧
          keyring.addFromMnemonic mnemonic = .ok operator ∧
          ret = {
            row := { row with
              encryptedOperator := keyring.encrypt pool.random operator }
            decryptedOperatorKey := some operator } := by
  unfold assignOperator PoolData.mnemonic
  cases pool.owner with
  | none =>
      constructor
      · rintro ⟨⟩
        exact Or.inl ⟨rfl, rfl⟩
      · rintro (⟨-, rfl⟩ | ⟨_, _, hsome, -⟩)
        · rfl
        · cases hsome
  | some mnemonic =>
      rcases eq_or_ne mnemonic "" with rfl | hgiven
      · constructor
        · rintro ⟨⟩
          exact Or.inl ⟨rfl, rfl⟩
        · rintro (⟨-, rfl⟩ | ⟨_, _, hsome, -⟩)
          · rfl
          · cases hsome
      · have hfilter : (some mnemonic).filter (· ≠ "") = some mnemonic :=
          Option.filter_some_pos (decide_eq_true hgiven)
        simp only [hfilter, if_neg hgiven, reduceCtorEq, false_and, false_or,
          Option.some.injEq]
        constructor
        · intro h
          obtain ⟨operator, hoperator, h⟩ := bind_eq_ok.mp h
          cases h
          exact ⟨mnemonic, operator, rfl, hoperator, rfl⟩
        · rintro ⟨_, operator, rfl, hoperator, rfl⟩
          exact bind_eq_ok.mpr ⟨operator, hoperator, rfl⟩

theorem assignOperator_again (other : Pool) {row : Pool} {pool : PoolData}
    {ret : PoolObject}
    (h : assignOperator keyring { row, decryptedOperatorKey := none } pool =
      .ok ret) :
    ∃ again, assignOperator keyring
      { row := other, decryptedOperatorKey := none } pool = .ok again := by
  rcases assignOperator_eq_ok.mp h with ⟨hnone, -⟩ |
    ⟨mnemonic, operator, hsome, hoperator, -⟩
  · exact ⟨_, assignOperator_eq_ok.mpr (Or.inl ⟨hnone, rfl⟩)⟩
  · exact ⟨_, assignOperator_eq_ok.mpr
      (Or.inr ⟨mnemonic, operator, hsome, hoperator, rfl⟩)⟩

theorem assignOperator_id {row : Pool} {pool : PoolData} {ret : PoolObject}
    (h : assignOperator keyring { row, decryptedOperatorKey := none } pool =
      .ok ret) : ret.row.id = row.id := by
  rcases assignOperator_eq_ok.mp h with ⟨-, rfl⟩ | ⟨_, _, -, -, rfl⟩ <;> rfl

theorem Pool.save_self {found assigned : Pool} (h : assigned.id = found.id) :
    Pool.save found assigned found = assigned := by
  simp only [Pool.save, written_self]
  rw [← h]

theorem Worker.save_self {found assigned : Worker}
    (h : assigned.id = found.id) : Worker.save found assigned found = assigned := by
  simp only [Worker.save, written_self]
  rw [← h]

/-- A stale save makes of the stored pool what a fresh one would make of it. -/
theorem Pool.save_eq_iff_fresh {pool : PoolData} {loaded found : Pool}
    {ret again : PoolObject}
    (hret : assignOperator keyring
      { row := loaded, decryptedOperatorKey := none } pool = .ok ret)
    (hagain : assignOperator keyring
      { row := found, decryptedOperatorKey := none } pool = .ok again) :
    Pool.save loaded (assignPool ret.row pool) found =
        assignPool again.row pool ↔
      Pool.Fresh pool loaded (assignPool ret.row pool) found := by
  have hid : again.row.id = found.id := assignOperator_id hagain
  have hoperator : written loaded.encryptedOperator
        ret.row.encryptedOperator found.encryptedOperator =
          again.row.encryptedOperator ↔
      (pool.mnemonic ≠ none →
        ret.row.encryptedOperator = loaded.encryptedOperator →
          found.encryptedOperator = loaded.encryptedOperator) := by
    rcases assignOperator_eq_ok.mp hret with ⟨hnone, rfl⟩ |
      ⟨mnemonic, operator, hsome, hoperator, rfl⟩
    · rcases assignOperator_eq_ok.mp hagain with ⟨-, rfl⟩ | ⟨_, _, hsome, -⟩
      · simp [written, hnone]
      · rw [hnone] at hsome
        cases hsome
    · rcases assignOperator_eq_ok.mp hagain with ⟨hnone, -⟩ |
        ⟨_, _, hsome', hoperator', rfl⟩
      · rw [hnone] at hsome
        cases hsome
      · cases hsome.symm.trans hsome'
        cases hoperator.symm.trans hoperator'
        rw [written_eq_assigned_iff]
        simp [hsome]
  simp only [Pool.save, assignPool, Pool.mk.injEq, hid,
    written_eq_assigned_iff, hoperator, true_and]
  constructor
  · rintro ⟨hpid, hname, hproxied, hop, henabled, hsync⟩
    exact ⟨hpid, hname, hproxied, hop, henabled, hsync⟩
  · rintro ⟨hpid, hname, hproxied, hop, henabled, hsync⟩
    exact ⟨hpid, hname, hproxied, hop, henabled, hsync⟩

theorem Worker.save_eq_iff_fresh {worker : WorkerData} {pool : Pool}
    {loaded found : Worker} :
    Worker.save loaded (assignWorker loaded worker pool) found =
        assignWorker found worker pool ↔
      Worker.Fresh loaded (assignWorker loaded worker pool) found := by
  simp only [Worker.save, assignWorker, Worker.mk.injEq,
    written_eq_assigned_iff, true_and]
  constructor
  · rintro ⟨hname, hendpoint, hstake, henabled, hsync, hpool⟩
    exact ⟨hname, hendpoint, hstake, henabled, hsync, hpool⟩
  · rintro ⟨hname, hendpoint, hstake, henabled, hsync, hpool⟩
    exact ⟨hname, hendpoint, hstake, henabled, hsync, hpool⟩

/-- Two saves leave the same pools if they write the same into one pool, or
nothing at all. -/
theorem savePool_eq_iff {loaded found assigned assignedFound : Pool}
    (hfound : found ∈ current.pools.rows)
    (hid : assignedFound.id = found.id)
    (h : savePool current loaded assigned = .ok next) :
    savePool current found assignedFound = .ok next ↔
      found.id = loaded.id ∧ Pool.save loaded assigned found = assignedFound ∨
        found.id ≠ loaded.id ∧ assignedFound = found ∧
          ∀ stored ∈ current.pools.rows, stored.id = loaded.id →
            Pool.save loaded assigned stored = stored := by
  obtain ⟨hrows, hworkers⟩ := LocalDb.writePools_eq_ok.mp h
  rw [savePool, LocalDb.writePools_eq_ok, hrows, and_iff_left hworkers,
    map_write_found_iff (·.id) current.pools.sound.id hfound,
    Pool.save_self hid]

theorem destroyPool_eq_iff {found : Pool} {id : String}
    (hfound : found ∈ current.pools.rows) :
    current.destroyPool id = current.destroyPool found.id ↔ found.id = id := by
  rw [eq_comm]
  constructor
  · intro h
    have hrows := congrArg (·.pools.rows) h
    exact ((filter_key_eq_iff hfound).mp hrows.symm).symm
  · rintro rfl
    rfl

theorem updatePoolItem_deletes_iff {item : UpdatePoolItem} {pool : PoolData}
    (hpool : item.pool = some pool) (hdeleted : pool.deleted = true) :
    (∃ outs, updatePoolItem keyring committed current item = .ok (next, outs)) ↔
      ∃ loaded, findPool committed item.id = some loaded ∧
        next = current.destroyPool loaded.id := by
  constructor
  · rintro ⟨outs, h⟩
    obtain ⟨_, loaded, hsame, hloaded, ⟨-, hnext, -⟩ | ⟨hkept, -⟩⟩ :=
      updatePoolItem_eq_ok.mp h
    · exact ⟨loaded, hloaded, hnext⟩
    · cases hpool.symm.trans hsame
      cases hdeleted.symm.trans hkept
  · rintro ⟨loaded, hloaded, rfl⟩
    exact ⟨[], updatePoolItem_eq_ok.mpr
      ⟨pool, loaded, hpool, hloaded, Or.inl ⟨hdeleted, rfl, rfl⟩⟩⟩

theorem updatePoolItem_saves_iff {item : UpdatePoolItem} {pool : PoolData}
    (hpool : item.pool = some pool) (hkept : pool.deleted = false) :
    (∃ outs, updatePoolItem keyring committed current item = .ok (next, outs)) ↔
      ∃ loaded, findPool committed item.id = some loaded ∧ ∃ ret,
        assignOperator keyring { row := loaded, decryptedOperatorKey := none }
          pool = .ok ret ∧
        savePool current loaded (assignPool ret.row pool) = .ok next := by
  constructor
  · rintro ⟨outs, h⟩
    obtain ⟨_, loaded, hsame, hloaded, ⟨hdeleted, -⟩ |
      ⟨-, ret, hret, hsaved, -⟩⟩ := updatePoolItem_eq_ok.mp h
    · cases hpool.symm.trans hsame
      cases hkept.symm.trans hdeleted
    · cases hpool.symm.trans hsame
      exact ⟨loaded, hloaded, ret, hret, hsaved⟩
  · rintro ⟨loaded, hloaded, ret, hret, hsaved⟩
    exact ⟨_, updatePoolItem_eq_ok.mpr
      ⟨pool, loaded, hpool, hloaded, Or.inr ⟨hkept, ret, hret, hsaved, rfl⟩⟩⟩

/-- What an item does to the rows, it does as well if it sees the earlier items,
exactly when it finds the same. -/
theorem updatePoolItem_seen_iff {item : UpdatePoolItem}
    {outs : List PoolObject}
    (h : updatePoolItem keyring committed current item = .ok (next, outs)) :
    (∃ seen, updatePoolItem keyring current current item = .ok (next, seen)) ↔
      item.seen keyring committed current := by
  obtain ⟨pool, loaded, hpool, hloaded, -⟩ := updatePoolItem_eq_ok.mp h
  simp only [UpdatePoolItem.seen, hpool, hloaded, Option.some.injEq,
    forall_eq', forall_apply_eq_imp_iff]
  cases hdeleted : pool.deleted with
  | true =>
      obtain ⟨_, hsame, rfl⟩ :=
        (updatePoolItem_deletes_iff hpool hdeleted).mp ⟨outs, h⟩
      cases hloaded.symm.trans hsame
      rw [updatePoolItem_deletes_iff hpool hdeleted]
      refine exists_congr fun found => and_congr_right fun hfound => ?_
      rw [destroyPool_eq_iff (mem_of_findPool hfound)]
      exact ⟨fun hid => ⟨fun _ => hid, fun hkept => by cases hkept⟩,
        fun hseen => hseen.1 rfl⟩
  | false =>
      obtain ⟨_, hsame, ret, hret, hsaved⟩ :=
        (updatePoolItem_saves_iff hpool hdeleted).mp ⟨outs, h⟩
      cases hloaded.symm.trans hsame
      rw [updatePoolItem_saves_iff hpool hdeleted]
      refine exists_congr fun found => and_congr_right fun hfound => ?_
      have hmem := mem_of_findPool hfound
      constructor
      · rintro ⟨again, hagain, hresaved⟩
        refine ⟨fun hkept => (by cases hkept), fun _ one other hone hother => ?_⟩
        cases hret.symm.trans hone
        cases hagain.symm.trans hother
        have hid : (assignPool again.row pool).id = found.id :=
          assignOperator_id hagain
        rw [← Pool.save_eq_iff_fresh hret hagain]
        exact (savePool_eq_iff hmem hid hsaved).mp hresaved
      · rintro ⟨-, hfresh⟩
        obtain ⟨again, hagain⟩ := assignOperator_again found hret
        have hid : (assignPool again.row pool).id = found.id :=
          assignOperator_id hagain
        refine ⟨again, hagain, ?_⟩
        rw [savePool_eq_iff hmem hid hsaved,
          Pool.save_eq_iff_fresh hret hagain]
        exact hfresh rfl ret again hret hagain

theorem toPbInterface_ok_iff {pool : PoolObject} :
    (∃ response, pool.toPbInterface keyring = .ok response) ↔
      ∃ operator, pool.operator keyring = .ok operator := by
  constructor
  · rintro ⟨response, hresponse⟩
    obtain ⟨operator, hoperator, -⟩ := bind_eq_ok.mp hresponse
    exact ⟨operator, hoperator⟩
  · rintro ⟨operator, hoperator⟩
    exact ⟨_, bind_eq_ok.mpr ⟨operator, hoperator, rfl⟩⟩

theorem updatePoolItem_answers_iff {item : UpdatePoolItem}
    {outs : List PoolObject}
    (h : updatePoolItem keyring committed current item = .ok (next, outs)) :
    (∀ out ∈ outs, ∃ response, out.toPbInterface keyring = .ok response) ↔
      item.answers keyring committed := by
  obtain ⟨pool, loaded, hpool, hloaded, ⟨hdeleted, -, rfl⟩ |
    ⟨hkept, ret, hret, -, rfl⟩⟩ := updatePoolItem_eq_ok.mp h
  · refine iff_of_true nofun fun other _ hother _ hkept => ?_
    cases hpool.symm.trans hother
    rw [hdeleted] at hkept
    cases hkept
  · rw [List.forall_mem_singleton, toPbInterface_ok_iff]
    rcases assignOperator_eq_ok.mp hret with ⟨hnone, rfl⟩ |
      ⟨mnemonic, operator, hsome, -, rfl⟩
    · constructor
      · intro hoperator other _ hother hsame _ _
        cases hpool.symm.trans hother
        cases hloaded.symm.trans hsame
        exact hoperator
      · intro hanswers
        exact hanswers pool loaded hpool hloaded hkept hnone
    · refine iff_of_true ⟨operator, rfl⟩ fun other _ hother _ _ hnone => ?_
      cases hpool.symm.trans hother
      rw [hsome] at hnone
      cases hnone

def Moved (committed current : LocalDb) : Prop :=
  ∃ row ∈ committed.pools.rows, row ∉ current.pools.rows

/-- A save writes no committed value back. -/
theorem Pool.save_ne {loaded assigned stored : Pool} (h : stored ≠ loaded)
    (hid : stored.id = loaded.id) : Pool.save loaded assigned stored ≠ loaded := by
  have hwritten : ∀ {α : Type} [DecidableEq α] {loaded assigned stored : α},
      written loaded assigned stored = loaded → stored = loaded := by
    intro α _ loaded assigned stored
    unfold written
    split
    · exact fun h => h
    · next hne => exact fun heq => absurd heq hne
  intro hsame
  refine h ?_
  cases stored
  cases loaded
  simp only [Pool.save, Pool.mk.injEq] at hsame hid ⊢
  exact ⟨hid, hwritten hsame.2.1, hwritten hsame.2.2.1, hwritten hsame.2.2.2.1,
    hwritten hsame.2.2.2.2.1, hwritten hsame.2.2.2.2.2.1,
    hwritten hsame.2.2.2.2.2.2⟩

theorem moved_updatePoolItem {item : UpdatePoolItem} {outs : List PoolObject}
    (hmoved : Moved committed current)
    (h : updatePoolItem keyring committed current item = .ok (next, outs)) :
    Moved committed next := by
  obtain ⟨row, hrow, hgone⟩ := hmoved
  refine ⟨row, hrow, ?_⟩
  obtain ⟨pool, loaded, -, hloaded, ⟨-, rfl, -⟩ | ⟨-, ret, -, hsaved, -⟩⟩ :=
    updatePoolItem_eq_ok.mp h
  · exact fun hmem => hgone (List.mem_of_mem_filter hmem)
  · rw [(LocalDb.writePools_eq_ok.mp hsaved).1]
    intro hmem
    obtain ⟨stored, hstored, hsame⟩ := List.mem_map.mp hmem
    split at hsame
    · next hid =>
        have hloadedRow : loaded = row :=
          pool_eq_of_id (mem_of_findPool hloaded) hrow
            (hid.symm.trans (congrArg (·.id) hsame))
        subst hloadedRow
        refine Pool.save_ne (fun heq => hgone ?_) hid hsame
        rw [← heq]
        exact hstored
    · exact hgone (hsame ▸ hstored)

theorem not_moved_self (db : LocalDb) : ¬ Moved db db := by
  rintro ⟨row, hrow, hgone⟩
  exact hgone hrow

/-- The first item that writes something moves the pools. -/
theorem updatePoolItem_idle_or_moved {item : UpdatePoolItem}
    {outs : List PoolObject}
    (h : updatePoolItem keyring db db item = .ok (next, outs)) :
    item.idle keyring db ∧ next = db ∨
      ¬ item.idle keyring db ∧ Moved db next := by
  obtain ⟨pool, loaded, hpool, hloaded, ⟨hdeleted, rfl, -⟩ |
    ⟨hkept, ret, hret, hsaved, -⟩⟩ := updatePoolItem_eq_ok.mp h
  · refine Or.inr ⟨fun hidle => ?_, loaded, mem_of_findPool hloaded, ?_⟩
    · have hkept := (hidle pool loaded hpool hloaded).1
      rw [hdeleted] at hkept
      cases hkept
    · intro hmem
      exact of_decide_eq_true (List.mem_filter.mp hmem).2 rfl
  · have hmem := mem_of_findPool hloaded
    have hid : (assignPool ret.row pool).id = loaded.id := assignOperator_id hret
    obtain ⟨hrows, hworkers⟩ := LocalDb.writePools_eq_ok.mp hsaved
    rcases eq_or_ne (assignPool ret.row pool) loaded with hsame | hne
    · refine Or.inl ⟨fun other _ hother hfound => ?_, ?_⟩
      · cases hpool.symm.trans hother
        cases hloaded.symm.trans hfound
        refine ⟨hkept, fun again hagain => ?_⟩
        cases hret.symm.trans hagain
        exact hsame
      · have hstays : savePool db loaded (assignPool ret.row pool) = .ok db := by
          refine LocalDb.writePools_eq_ok.mpr ⟨?_, rfl⟩
          refine ((List.map_congr_left fun stored hstored => ?_).trans
            (List.map_id _)).symm
          split
          · next hkey =>
              cases pool_eq_of_id hstored hmem hkey
              rw [Pool.save_self hid, hsame, id]
          · rfl
        cases hsaved.symm.trans hstays
        rfl
    · refine Or.inr ⟨fun hidle => ?_, loaded, hmem, ?_⟩
      · exact hne ((hidle pool loaded hpool hloaded).2 ret hret)
      · rw [hrows]
        intro hback
        obtain ⟨stored, hstored, heq⟩ := List.mem_map.mp hback
        split at heq
        · next hkey =>
            cases pool_eq_of_id hstored hmem hkey
            rw [Pool.save_self hid] at heq
            exact hne heq
        · next hkey => exact hkey (congrArg (·.id) heq)

theorem updatePool_asOneByOne_iff {items : List UpdatePoolItem} :
    (∀ earlier later, items = earlier ++ later →
        AsOneByOne (updatePoolItem keyring) (·.toPbInterface keyring) db
          earlier) ↔
      poolItemsSeen keyring db items := by
  rw [asOneByOne_iff]
  unfold poolItemsSeen
  refine forall_congr' fun earlier => forall_congr' fun item =>
    forall₂_congr fun later hitems => forall₂_congr fun current outs =>
      forall₂_congr fun next others => forall₂_congr fun hearlier hitem => ?_
  have hboth := transact_concat.mpr
    ⟨current, outs, others, hearlier, hitem, rfl⟩
  have hanswers := transact_outs_iff
    (fun _ _ _ _ hone => updatePoolItem_answers_iff hone) hboth
  have hidle := transact_eq_committed_iff (Moved db) (not_moved_self db)
    (fun _ _ _ _ hmoved hone => moved_updatePoolItem hmoved hone)
    (fun _ _ _ hone => updatePoolItem_idle_or_moved hone) hboth
  rw [hanswers, hidle, updatePoolItem_seen_iff hitem]

theorem saveWorker_eq_iff {loaded found assigned assignedFound : Worker}
    (hfound : found ∈ current.workers.rows)
    (hid : assignedFound.id = found.id)
    (h : saveWorker current loaded assigned = .ok next) :
    saveWorker current found assignedFound = .ok next ↔
      found.id = loaded.id ∧ Worker.save loaded assigned found = assignedFound ∨
        found.id ≠ loaded.id ∧ assignedFound = found ∧
          ∀ stored ∈ current.workers.rows, stored.id = loaded.id →
            Worker.save loaded assigned stored = stored := by
  obtain ⟨hrows, hpools⟩ := LocalDb.writeWorkers_eq_ok.mp h
  rw [saveWorker, LocalDb.writeWorkers_eq_ok, hrows, and_iff_left hpools,
    map_write_found_iff (·.id) current.workers.sound.id hfound,
    Worker.save_self hid]

theorem destroyWorker_eq_iff {found : Worker} {id : String}
    (hfound : found ∈ current.workers.rows) :
    current.destroyWorker id = current.destroyWorker found.id ↔
      found.id = id := by
  rw [eq_comm]
  constructor
  · intro h
    have hrows := congrArg (·.workers.rows) h
    exact ((filter_key_eq_iff hfound).mp hrows.symm).symm
  · rintro rfl
    rfl

theorem updateWorkerItem_deletes_iff {item : UpdateWorkerItem}
    {worker : WorkerData} (hworker : item.worker = some worker)
    (hdeleted : worker.deleted = true) :
    (∃ outs, updateWorkerItem committed current item = .ok (next, outs)) ↔
      ∃ loaded, lookUpWorker committed item.id = some loaded ∧
        next = current.destroyWorker loaded.id := by
  constructor
  · rintro ⟨outs, h⟩
    obtain ⟨_, loaded, hsame, hloaded, ⟨-, hnext, -⟩ | ⟨hkept, -⟩⟩ :=
      updateWorkerItem_eq_ok.mp h
    · exact ⟨loaded, hloaded, hnext⟩
    · cases hworker.symm.trans hsame
      cases hdeleted.symm.trans hkept
  · rintro ⟨loaded, hloaded, rfl⟩
    exact ⟨[], updateWorkerItem_eq_ok.mpr
      ⟨worker, loaded, hworker, hloaded, Or.inl ⟨hdeleted, rfl, rfl⟩⟩⟩

theorem updateWorkerItem_saves_iff {item : UpdateWorkerItem}
    {worker : WorkerData} (hworker : item.worker = some worker)
    (hkept : worker.deleted = false) :
    (∃ outs, updateWorkerItem committed current item = .ok (next, outs)) ↔
      ∃ loaded, lookUpWorker committed item.id = some loaded ∧ ∃ pool,
        committed.poolByPid worker.pid = some pool ∧
        saveWorker current loaded (assignWorker loaded worker pool) =
          .ok next := by
  constructor
  · rintro ⟨outs, h⟩
    obtain ⟨_, loaded, hsame, hloaded, ⟨hdeleted, -⟩ |
      ⟨-, pool, hpool, hsaved, -⟩⟩ := updateWorkerItem_eq_ok.mp h
    · cases hworker.symm.trans hsame
      cases hkept.symm.trans hdeleted
    · cases hworker.symm.trans hsame
      exact ⟨loaded, hloaded, pool, hpool, hsaved⟩
  · rintro ⟨loaded, hloaded, pool, hpool, hsaved⟩
    exact ⟨_, updateWorkerItem_eq_ok.mpr ⟨worker, loaded, hworker, hloaded,
      Or.inr ⟨hkept, pool, hpool, hsaved, rfl⟩⟩⟩

theorem updateWorkerItem_seen_iff {item : UpdateWorkerItem}
    {outs : List (Worker × Pool)} (hpools : current.pools = committed.pools)
    (h : updateWorkerItem committed current item = .ok (next, outs)) :
    (∃ seen, updateWorkerItem current current item = .ok (next, seen)) ↔
      item.seen committed current := by
  have hbyPid : ∀ pid, current.poolByPid pid = committed.poolByPid pid := by
    intro pid
    rw [LocalDb.poolByPid, hpools, LocalDb.poolByPid]
  obtain ⟨worker, loaded, hworker, hloaded, -⟩ := updateWorkerItem_eq_ok.mp h
  simp only [UpdateWorkerItem.seen, hworker, hloaded, Option.some.injEq,
    forall_eq', forall_apply_eq_imp_iff]
  cases hdeleted : worker.deleted with
  | true =>
      obtain ⟨_, hsame, rfl⟩ :=
        (updateWorkerItem_deletes_iff hworker hdeleted).mp ⟨outs, h⟩
      cases hloaded.symm.trans hsame
      rw [updateWorkerItem_deletes_iff hworker hdeleted]
      refine exists_congr fun found => and_congr_right fun hfound => ?_
      rw [destroyWorker_eq_iff (mem_of_lookUpWorker hfound)]
      exact ⟨fun hid => ⟨fun _ => hid, fun hkept => by cases hkept⟩,
        fun hseen => hseen.1 rfl⟩
  | false =>
      obtain ⟨_, hsame, pool, hpool, hsaved⟩ :=
        (updateWorkerItem_saves_iff hworker hdeleted).mp ⟨outs, h⟩
      cases hloaded.symm.trans hsame
      rw [updateWorkerItem_saves_iff hworker hdeleted]
      refine exists_congr fun found => and_congr_right fun hfound => ?_
      have hmem := mem_of_lookUpWorker hfound
      have hid : (assignWorker found worker pool).id = found.id := rfl
      constructor
      · rintro ⟨other, hother, hresaved⟩
        rw [hbyPid] at hother
        cases hpool.symm.trans hother
        refine ⟨fun hkept => (by cases hkept), fun _ one hone => ?_⟩
        cases hpool.symm.trans hone
        rw [← Worker.save_eq_iff_fresh]
        exact (saveWorker_eq_iff hmem hid hsaved).mp hresaved
      · rintro ⟨-, hfresh⟩
        refine ⟨pool, (hbyPid _).trans hpool, ?_⟩
        rw [saveWorker_eq_iff hmem hid hsaved, Worker.save_eq_iff_fresh]
        exact hfresh rfl pool hpool

theorem updateWorker_asOneByOne_iff {items : List UpdateWorkerItem} :
    (∀ earlier later, items = earlier ++ later →
        AsOneByOne updateWorkerItem (fun ret => ret.1.toPbInterface ret.2) db
          earlier) ↔
      workerItemsSeen db items := by
  rw [asOneByOne_iff]
  unfold workerItemsSeen
  refine forall_congr' fun earlier => forall_congr' fun item =>
    forall₂_congr fun later hitems => forall₂_congr fun current outs =>
      forall₂_congr fun next others => forall₂_congr fun hearlier hitem => ?_
  have hpools : current.pools = db.pools :=
    transact_preserves (·.pools = db.pools)
      (fun _ _ _ _ _ hbefore hone =>
        (updateWorkerItem_pools hone).trans hbefore) rfl hearlier
  have hanswers : ∀ out ∈ outs ++ others,
      ∃ response, out.1.toPbInterface (some out.2) = .ok response :=
    fun out _ => ⟨_, rfl⟩
  rw [updateWorkerItem_seen_iff hpools hitem]
  constructor
  · intro h
    exact h.1 hanswers
  · intro hseen
    exact ⟨fun _ => hseen, fun hnot => absurd hanswers hnot⟩

/-- Updates of several rows at once, and all their beginnings, are what their
items make one by one exactly when every item sees what the earlier ones have
written. -/
theorem updates_asOneByOne_iff (keyring : Keyring) (db : LocalDb) :
    (∀ items,
      (∀ earlier later, items = earlier ++ later →
        AsOneByOne (updatePoolItem keyring) (·.toPbInterface keyring) db
          earlier) ↔
        poolItemsSeen keyring db items) ∧
      ∀ items,
        (∀ earlier later, items = earlier ++ later →
          AsOneByOne updateWorkerItem (fun ret => ret.1.toPbInterface ret.2) db
            earlier) ↔
          workerItemsSeen db items :=
  ⟨fun _ => updatePool_asOneByOne_iff, fun _ => updateWorker_asOneByOne_iff⟩

def disablesEnables : List UpdatePoolItem :=
  [false, true].map fun enabled =>
    { id := { uuid := "p", name := "", pid := 0, json := "" }
      pool := some { poolNamed 1 "pool" with owner := none, enabled } }

/-- The second item finds the pool enabled, and writes nothing. -/
theorem updatePool_leaves_disabled :
    ¬ ∀ keyring db items,
      AsOneByOne (updatePoolItem keyring) (·.toPbInterface keyring) db items := by
  intro hclaim
  let db : LocalDb := (createPool plainKeyring .empty
    [{ uuid := "p", pool := poolNamed 1 "pool" }]).2
  have hleaves : (updatePool plainKeyring db disablesEnables).1.isOk = true ∧
      (updatePool plainKeyring db disablesEnables).2.pools.rows.map (·.enabled) =
        [false] := by decide +kernel
  have honeByOne : (oneByOne (updatePoolItem plainKeyring) db
      disablesEnables).toOption.map (·.pools.rows.map (·.enabled)) =
        some [true] := by decide +kernel
  have hsame := hclaim plainKeyring db disablesEnables
  unfold AsOneByOne at hsame
  unfold updatePool at hleaves
  split at hsame
  · next after hrun =>
      rw [hrun] at hleaves
      rw [hsame] at honeByOne
      cases hleaves.2.symm.trans (Option.some.inj honeByOne)
  · next after hrun =>
      rw [hrun] at hleaves
      cases hleaves.1

end RuntimeBridge.Manager
