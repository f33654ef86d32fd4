import RuntimeBridge.Library.Varint
import RuntimeBridge.Manager.Batched
import RuntimeBridge.Manager.PoolsKept

/-! The operator keys of the pools: `set operator` and `decryptOperatorKey` of
`pool_model.ts`, and what they leave in the database over runs of requests. -/

namespace RuntimeBridge.Manager

open Library

structure EncPb where
  iv : List UInt8
  key : List UInt8
  payload : List UInt8
  deriving DecidableEq, Repr

/-- What `pool_model.ts` imports: the codec of `EncPb`, RSA for the key of this
peer, `aes-256-cbc`, and a keyring that reads and writes JSON. -/
structure Crypto where
  encode : EncPb → List UInt8
  decode : List UInt8 → Except HandlerError EncPb
  publicEncrypt : List UInt8 → List UInt8
  privateDecrypt : List UInt8 → Except HandlerError (List UInt8)
  cipher : (rawKey iv data : List UInt8) → List UInt8
  decipher : (rawKey iv data : List UInt8) → Except HandlerError (List UInt8)
  toJson : Keypair → List UInt8
  addFromJson : List UInt8 → Except HandlerError Keypair
  addFromMnemonic : String → Except HandlerError Keypair

namespace Crypto

/-- `set operator`; `random` is the `iv`, and the raw key behind it. -/
def encryptOperator (crypto : Crypto) (random : List UInt8)
    (keyringPair : Keypair) : List UInt8 :=
  let iv := random.take 16
  let rawKey := random.drop 16
  crypto.encode
    { iv
      key := crypto.publicEncrypt rawKey
      payload := crypto.cipher rawKey iv (crypto.toJson keyringPair) }

def decryptOperatorKey (crypto : Crypto) (encryptedOperator : List UInt8) :
    Except HandlerError Keypair := do
  let pb ← crypto.decode encryptedOperator
  let rawKey ← crypto.privateDecrypt pb.key
  let json ← crypto.decipher rawKey pb.iv pb.payload
  crypto.addFromJson json

def keyring (crypto : Crypto) : Keyring where
  addFromMnemonic := crypto.addFromMnemonic
  encrypt := crypto.encryptOperator
  decrypt := crypto.decryptOperatorKey

/-- What is encrypted with keys and vectors of the sizes that the ciphers take
is decrypted again. -/
structure Opens (crypto : Crypto) : Prop where
  decode : ∀ pb, crypto.decode (crypto.encode pb) = .ok pb
  privateDecrypt : ∀ rawKey, rawKey.length = 32 →
    crypto.privateDecrypt (crypto.publicEncrypt rawKey) = .ok rawKey
  decipher : ∀ rawKey iv data, rawKey.length = 32 → iv.length = 16 →
    crypto.decipher rawKey iv (crypto.cipher rawKey iv data) = .ok data
  addFromJson : ∀ keypair,
    crypto.addFromJson (crypto.toJson keypair) = .ok keypair

end Crypto

def listPool (keyring : Keyring) (db : LocalDb) :
    Except HandlerError (List PoolPb) :=
  db.pools.rows.mapM fun row =>
    PoolObject.toPbInterface keyring { row, decryptedOperatorKey := none }

/-- `randomBytes(16)` and `randomBytes(32)` return what they are asked for. -/
def drawsKeys (_ : LocalDb) : DbRequest → Prop
  | .createPool pools => ∀ item ∈ pools, item.pool.random.length = 48
  | .updatePool items =>
      ∀ item ∈ items, ∀ pool ∈ item.pool.toList, pool.random.length = 48
  | _ => True

instance (db : LocalDb) : DecidablePred (drawsKeys db) := fun request =>
  match request with
  | .createPool pools => inferInstanceAs (Decidable (∀ item ∈ pools,
      item.pool.random.length = 48))
  | .updatePool items => inferInstanceAs (Decidable (∀ item ∈ items,
      ∀ pool ∈ item.pool.toList, pool.random.length = 48))
  | .createWorker _ => inferInstanceAs (Decidable True)
  | .updateWorker _ => inferInstanceAs (Decidable True)

def DbRequest.succeeds (keyring : Keyring) (db : LocalDb) : DbRequest → Bool
  | .createPool pools => (Manager.createPool keyring db pools).1.isOk
  | .updatePool items => (Manager.updatePool keyring db items).1.isOk
  | .createWorker workers => (Manager.createWorker db workers).1.isOk
  | .updateWorker items => (Manager.updateWorker db items).1.isOk

/-- The key of every pool is one that a mnemonic has given. -/
def OperatorsOpen (crypto : Crypto) (db : LocalDb) : Prop :=
  ∀ pool ∈ db.pools.rows, ∃ mnemonic keypair,
    crypto.addFromMnemonic mnemonic = .ok keypair ∧
      crypto.decryptOperatorKey pool.encryptedOperator = .ok keypair

variable {crypto : Crypto} {db committed current next : LocalDb}

theorem decrypt_encrypt (hopens : crypto.Opens) {random : List UInt8}
    (hrandom : random.length = 48) (keypair : Keypair) :
    crypto.decryptOperatorKey (crypto.encryptOperator random keypair) =
      .ok keypair := by
  have hkey : (random.drop 16).length = 32 := by
    rw [List.length_drop, hrandom]
  have hiv : (random.take 16).length = 16 := by
    rw [List.length_take, hrandom]
    rfl
  unfold Crypto.decryptOperatorKey Crypto.encryptOperator
  rw [hopens.decode]
  refine bind_eq_ok.mpr ⟨_, rfl, bind_eq_ok.mpr ⟨random.drop 16, ?_, ?_⟩⟩
  · exact hopens.privateDecrypt _ hkey
  · exact bind_eq_ok.mpr ⟨crypto.toJson keypair,
      hopens.decipher _ _ _ hkey hiv, hopens.addFromJson keypair⟩

/-- The key of a pool object is there, or in its row. -/
def PoolObject.Opens (crypto : Crypto) (pool : PoolObject) : Prop :=
  ∃ keypair, pool.operator crypto.keyring = .ok keypair

theorem PoolObject.Opens.toPbInterface {pool : PoolObject}
    (h : pool.Opens crypto) :
    ∃ pb, pool.toPbInterface crypto.keyring = .ok pb := by
  obtain ⟨keypair, hoperator⟩ := h
  exact ⟨_, bind_eq_ok.mpr ⟨keypair, hoperator, rfl⟩⟩

theorem createPoolItem_opens (hopens : crypto.Opens) {item : CreatePoolItem}
    {outs : List PoolObject} (hrandom : item.pool.random.length = 48)
    (hcurrent : OperatorsOpen crypto current)
    (h : createPoolItem crypto.keyring committed current item =
      .ok (next, outs)) :
    OperatorsOpen crypto next ∧ ∀ out ∈ outs, out.Opens crypto := by
  unfold createPoolItem at h
  split at h
  · cases h
  · next mnemonic _ =>
      obtain ⟨operator, hoperator, h⟩ := bind_eq_ok.mp h
      obtain ⟨written, hwritten, h⟩ := bind_eq_ok.mp h
      cases h
      obtain ⟨hrows, -⟩ := LocalDb.writePools_eq_ok.mp hwritten
      constructor
      · intro pool hpool
        rw [hrows] at hpool
        rcases List.mem_append.mp hpool with hold | hnew
        · exact hcurrent pool hold
        · rw [List.mem_singleton.mp hnew]
          exact ⟨mnemonic, operator, hoperator,
            decrypt_encrypt hopens hrandom operator⟩
      · intro out hout
        rw [List.mem_singleton.mp hout]
        exact ⟨operator, rfl⟩

/-- An update sets a new key, or leaves the one that was loaded. -/
theorem assignOperator_opens (hopens : crypto.Opens) {loaded : Pool}
    {pool : PoolData} {ret : PoolObject} (hrandom : pool.random.length = 48)
    (hloaded : ∃ mnemonic keypair, crypto.addFromMnemonic mnemonic = .ok keypair ∧
      crypto.decryptOperatorKey loaded.encryptedOperator = .ok keypair)
    (h : assignOperator crypto.keyring
      { row := loaded, decryptedOperatorKey := none } pool = .ok ret) :
    (∃ mnemonic keypair, crypto.addFromMnemonic mnemonic = .ok keypair ∧
      crypto.decryptOperatorKey ret.row.encryptedOperator = .ok keypair) ∧
      (ret.decryptedOperatorKey = none ∨
        ∃ keypair, ret.decryptedOperatorKey = some keypair) := by
  unfold assignOperator at h
  split at h
  · cases h
    exact ⟨hloaded, Or.inl rfl⟩
  · next mnemonic _ =>
      split at h
      · cases h
        exact ⟨hloaded, Or.inl rfl⟩
      · obtain ⟨operator, hoperator, h⟩ := bind_eq_ok.mp h
        cases h
        exact ⟨⟨mnemonic, operator, hoperator,
          decrypt_encrypt hopens hrandom operator⟩, Or.inr ⟨operator, rfl⟩⟩

theorem updatePoolItem_opens (hopens : crypto.Opens) {item : UpdatePoolItem}
    {outs : List PoolObject}
    (hrandom : ∀ pool ∈ item.pool, pool.random.length = 48)
    (hcommitted : OperatorsOpen crypto committed)
    (hcurrent : OperatorsOpen crypto current)
    (h : updatePoolItem crypto.keyring committed current item =
      .ok (next, outs)) :
    OperatorsOpen crypto next ∧ ∀ out ∈ outs, out.Opens crypto := by
  obtain ⟨pool, loaded, hpool, hloaded, ⟨-, rfl, rfl⟩ |
    ⟨-, ret, hret, hsaved, rfl⟩⟩ := updatePoolItem_eq_ok.mp h
  · exact ⟨fun stored hstored => hcurrent stored (List.mem_of_mem_filter hstored),
      fun _ hnone => by cases hnone⟩
  · have hmember : loaded ∈ committed.pools.rows := mem_of_findPool hloaded
    obtain ⟨hrow, hkept⟩ := assignOperator_opens hopens (hrandom pool hpool)
      (hcommitted loaded hmember) hret
    constructor
    · intro stored hstored
      rw [(LocalDb.writePools_eq_ok.mp hsaved).1] at hstored
      obtain ⟨old, hold, rfl⟩ := List.mem_map.mp hstored
      split
      · simp only [Pool.save, written]
        split
        · exact hcurrent old hold
        · exact hrow
      · exact hcurrent old hold
    · intro out hout
      rw [List.mem_singleton.mp hout]
      rcases hkept with hnone | ⟨keypair, hsome⟩
      · obtain ⟨-, keypair, -, hdecrypt⟩ := hrow
        refine ⟨keypair, ?_⟩
        simp only [PoolObject.operator, hnone]
        exact hdecrypt
      · refine ⟨keypair, ?_⟩
        simp only [PoolObject.operator, hsome]

/-- A transaction on pools whose keys open leaves such pools, and answers when
it goes through. -/
theorem inTransaction_opens {Item : Type}
    {apply : LocalDb → LocalDb → Item →
      Except HandlerError (LocalDb × List PoolObject)} {items : List Item}
    (yields : ∀ current item after outs, item ∈ items →
      OperatorsOpen crypto current →
      apply db current item = .ok (after, outs) →
        OperatorsOpen crypto after ∧ ∀ out ∈ outs, out.Opens crypto)
    (hdb : OperatorsOpen crypto db) :
    OperatorsOpen crypto
        (inTransaction apply (·.toPbInterface crypto.keyring) db items).2 ∧
      ((inTransaction apply (·.toPbInterface crypto.keyring) db items).1.isOk =
          false →
        (inTransaction apply (·.toPbInterface crypto.keyring) db items).2 =
          db) := by
  unfold inTransaction
  split
  · exact ⟨hdb, fun _ => rfl⟩
  · next after outs htransact =>
      obtain ⟨hafter, houts⟩ :=
        transact_yields (OperatorsOpen crypto) (·.Opens crypto) yields hdb
          htransact
      obtain ⟨response, hresponse⟩ := mapM_eq_ok_iff.mpr
        fun out hout => (houts out hout).toPbInterface
      rw [hresponse]
      exact ⟨hafter, fun h => by cases h⟩

/-- A transaction on workers answers when it goes through. -/
theorem inTransaction_workers {Item : Type}
    {apply : LocalDb → LocalDb → Item →
      Except HandlerError (LocalDb × List (Worker × Pool))} {items : List Item}
    (kept : ∀ current item after outs,
      apply db current item = .ok (after, outs) → after.pools = current.pools)
    (hdb : OperatorsOpen crypto db) :
    OperatorsOpen crypto
        (inTransaction apply (fun ret => ret.1.toPbInterface ret.2) db items).2 ∧
      ((inTransaction apply (fun ret => ret.1.toPbInterface ret.2) db
            items).1.isOk = false →
        (inTransaction apply (fun ret => ret.1.toPbInterface ret.2) db
          items).2 = db) := by
  constructor
  · refine inTransaction_preserves (OperatorsOpen crypto)
      (fun current item after outs hcurrent hitem pool hpool => ?_) hdb
    rw [kept current item after outs hitem] at hpool
    exact hcurrent pool hpool
  · unfold inTransaction
    split
    · exact fun _ => rfl
    · next after outs _ =>
        obtain ⟨response, hresponse⟩ := mapM_eq_ok_iff.mpr
          fun (ret : Worker × Pool) (_ : ret ∈ outs) =>
            ⟨_, (rfl : ret.1.toPbInterface (some ret.2) = .ok _)⟩
        rw [hresponse]
        exact fun h => by cases h

theorem request_opens (hopens : crypto.Opens) (hdb : OperatorsOpen crypto db)
    {request : DbRequest} (hdraws : drawsKeys db request) :
    OperatorsOpen crypto (request.leaves crypto.keyring db) ∧
      (request.succeeds crypto.keyring db = false →
        request.leaves crypto.keyring db = db) := by
  cases request with
  | createPool pools =>
      exact inTransaction_opens
        (fun _ item _ _ hmem hcurrent =>
          createPoolItem_opens hopens (hdraws item hmem) hcurrent) hdb
  | updatePool items =>
      exact inTransaction_opens
        (fun _ item _ _ hmem hcurrent =>
          updatePoolItem_opens hopens
            (fun pool hpool =>
              hdraws item hmem pool (Option.mem_toList.mpr hpool))
            hdb hcurrent) hdb
  | createWorker workers =>
      exact inTransaction_workers (fun _ _ _ _ hitem => by
        obtain ⟨-, -, -, hpools, -⟩ := createWorkerItem_eq_ok hitem
        exact hpools) hdb
  | updateWorker items =>
      exact inTransaction_workers
        (fun _ _ _ _ hitem => updateWorkerItem_pools hitem) hdb

def EncPb.encode (pb : EncPb) : List UInt8 :=
  10 :: (delimited pb.iv ++ 18 :: (delimited pb.key ++
    26 :: delimited pb.payload))

def EncPb.setField (pb : EncPb) (field : Nat) (bytes : List UInt8) : EncPb :=
  match field with
  | 1 => { pb with iv := bytes }
  | 2 => { pb with key := bytes }
  | 3 => { pb with payload := bytes }
  | _ => pb

def EncPb.decodeFields : Nat → EncPb → List UInt8 → Except HandlerError EncPb
  | 0, pb, _ => .ok pb
  | _, pb, [] => .ok pb
  | fields + 1, pb, tag :: data =>
      match takeDelimited data with
      | none => .error (.error "index out of range")
      | some (bytes, rest) =>
          EncPb.decodeFields fields (pb.setField (tag.toNat / 8) bytes) rest

def EncPb.decode (data : List UInt8) : Except HandlerError EncPb :=
  EncPb.decodeFields data.length { iv := [], key := [], payload := [] } data

theorem EncPb.decodeFields_cons (fields : Nat) (pb : EncPb) (tag : UInt8)
    (bytes rest : List UInt8) :
    EncPb.decodeFields (fields + 1) pb (tag :: (delimited bytes ++ rest)) =
      EncPb.decodeFields fields (pb.setField (tag.toNat / 8) bytes) rest := by
  rw [EncPb.decodeFields, takeDelimited_delimited]

theorem EncPb.decode_encode (pb : EncPb) :
    EncPb.decode (EncPb.encode pb) = .ok pb := by
  obtain ⟨fields, hfields⟩ : ∃ fields, pb.encode.length = fields + 3 := by
    refine ⟨pb.encode.length - 3, ?_⟩
    simp only [EncPb.encode, List.length_cons, List.length_append]
    omega
  rw [EncPb.decode, hfields, EncPb.encode, EncPb.decodeFields_cons,
    EncPb.decodeFields_cons, ← List.append_nil (delimited pb.payload),
    EncPb.decodeFields_cons]
  cases fields <;> rfl

def utf8 (text : String) : List UInt8 :=
  text.toByteArray.data.toList

def fromUtf8 (bytes : List UInt8) : Except HandlerError String :=
  match String.fromUTF8? ⟨bytes.toArray⟩ with
  | some text => .ok text
  | none => .error (.error "The encoded data was not valid for encoding utf-8")

theorem fromUtf8_utf8 (text : String) : fromUtf8 (utf8 text) = .ok text := by
  have hfrom : String.fromUTF8? text.toByteArray = some text :=
    dif_pos text.isValidUTF8
  rw [fromUtf8, utf8, Array.toArray_toList, hfrom]

/-- Nothing is hidden, and every account is the one of its mnemonic. -/
def plainCrypto : Crypto where
  encode := EncPb.encode
  decode := EncPb.decode
  publicEncrypt rawKey := rawKey
  privateDecrypt key := .ok key
  cipher _ _ data := data
  decipher _ _ data := .ok data
  toJson keypair :=
    delimited (utf8 keypair.address) ++ delimited (utf8 keypair.ss58Polkadot)
  addFromJson json :=
    match takeDelimited json with
    | none => .error (.error "Unexpected end of JSON input")
    | some (address, rest) =>
        match takeDelimited rest with
        | none => .error (.error "Unexpected end of JSON input")
        | some (ss58Polkadot, _) => do
            return {
              address := ← fromUtf8 address
              ss58Polkadot := ← fromUtf8 ss58Polkadot }
  addFromMnemonic mnemonic :=
    .ok { address := mnemonic, ss58Polkadot := mnemonic }

theorem plainCrypto_opens : plainCrypto.Opens where
  decode := EncPb.decode_encode
  privateDecrypt _ _ := rfl
  decipher _ _ _ _ _ := rfl
  addFromJson keypair := by
    have hsecond := takeDelimited_delimited (utf8 keypair.ss58Polkadot) []
    rw [List.append_nil] at hsecond
    simp only [plainCrypto, takeDelimited_delimited, hsecond, fromUtf8_utf8]
    rfl

/-- Two pools are made, and the second one gets another operator. -/
def setsOperators : List DbRequest :=
  let random := List.replicate 48 7
  [.createPool [
      { uuid := "p", pool := { poolNamed 1 "first" with random } },
      { uuid := "q", pool := { poolNamed 2 "second" with random } }],
    .updatePool [
      { id := { uuid := "q", name := "", pid := 0, json := "" }
        pool := some
          { poolNamed 2 "second" with owner := some "other", random } }]]

end RuntimeBridge.Manager
