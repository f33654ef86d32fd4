import RuntimeBridge.Library.Ordered
import RuntimeBridge.Library.Outcome
import RuntimeBridge.Trade.SendTx

/-! `processBatch`: what the trader tells the manager about one batch.  The
steps before the `try` answer nothing when they throw. -/

namespace RuntimeBridge.Trade

open Library

/-- The row of a pool.  Decrypting its operator may throw. -/
structure Pool where
  id : Nat
  pid : Nat
  proxiedAccountSs58 : Option String
  operator : Except Thrown String
  deriving Repr

def Pool.isProxy (pool : Pool) : Bool :=
  match pool.proxiedAccountSs58 with
  | some account => account ≠ ""
  | none => false

structure Api (Value : Type) where
  root : Value
  property : Value → String → Except Thrown Value
  apply : Value → List String → Except Thrown Value
  forceBatch : List Value → Except Thrown Value
  proxy : Option String → Value → Except Thrown Value

variable {Value : Type} {api : Api Value}

def Api.follow (api : Api Value) (prev : Value) :
    Segment → Except Thrown Value
  | .property name => api.property prev name
  | .apply args => api.apply prev args

def formTx (api : Api Value) (pool : Pool) (calls : List Call) :
    Except Thrown Value := do
  let txs ← calls.mapM fun call => call.foldlM api.follow api.root
  let batchTx ← api.forceBatch txs
  if pool.isProxy then
    api.proxy pool.proxiedAccountSs58 batchTx
  else
    return batchTx

/-- A value of `poolNonces`.  Adding one to `undefined` gives `NaN`. -/
inductive PoolNonce where
  | nan
  | number (value : Nat)
  deriving DecidableEq, Repr

def PoolNonce.after : Option Nat → PoolNonce
  | some nonce => .number (nonce + 1)
  | none => .nan

/-- Both kinds of values have the type `number`; only a missing one is
`undefined`. -/
def chooseNonce (cached : Option PoolNonce)
    (accountNextIndex : Except Thrown Nat) : Except Thrown (Option Nat) :=
  match cached with
  | some _ => return some (← accountNextIndex)
  | none => return none

/-- `sendTx(tx, pool, nonce = -1)` -/
def txNonce : Option Nat → Int
  | some nonce => nonce
  | none => -1

structure Steps where
  findOne : Except Thrown (Option Pool)
  unlock : Except Thrown Unit
  accountNextIndex : Except Thrown Nat
  sending : List TxEvent

structure Execution (Value : Type) where
  messages : List Message
  poolNonces : Nat → Option PoolNonce
  /-- The transaction given to `signAndSend`, and its nonce. -/
  submission : Option (Value × Int)

def operatorOf : Option Pool → Except Thrown (Pool × String)
  | none => .error (.error "TypeError"
      "Cannot read properties of null (reading 'operator')")
  | some pool => do
      let address ← pool.operator
      return (pool, address)

def prepareBatch (api : Api Value) (batch : Payload) (steps : Steps) :
    Except Thrown (Pool × Value) := do
  let (pool, _) ← operatorOf (← steps.findOne)
  steps.unlock
  let tx ← formTx api pool batch.calls
  return (pool, tx)

/-- One execution, unless its transaction is never settled. -/
def processBatch (api : Api Value) (poolNonces : Nat → Option PoolNonce)
    (batch : Payload) (steps : Steps) : Option (Execution Value) :=
  match prepareBatch api batch steps with
  | .error _ => some { messages := [], poolNonces, submission := none }
  | .ok (pool, tx) =>
      match chooseNonce (poolNonces pool.id) steps.accountNextIndex with
      | .error e =>
          some { messages := [.failed batch.id e.report], poolNonces,
                 submission := none }
      | .ok nonce =>
          (sendTx pool.isProxy steps.sending).map fun sent =>
            { messages := .working batch.id ::
                match sent with
                | .ok failedCalls => [.finished batch.id failedCalls]
                | .error e => [.failed batch.id e.report]
              poolNonces := Function.update poolNonces pool.id
                (some (.after nonce))
              submission := some (tx, txNonce nonce) }

structure AnsweredOnce (id : Nat) (messages : List Message) : Prop where
  ends : messages.countP (·.Ends id) = 1
  working : messages.count (.working id) ≤ 1
  order : Ordered
    (fun left message => ∀ failedCalls, message = .finished id failedCalls →
      .working id ∈ left) messages

/-- The steps before the `try` succeed: the pool is stored, its operator can be
unlocked and the calls form a transaction. -/
def Prepared (api : Api Value) (batch : Payload) (steps : Steps) : Prop :=
  ∃ pool address tx, steps.findOne = .ok (some pool) ∧
    pool.operator = .ok address ∧ steps.unlock = .ok () ∧
      formTx api pool batch.calls = .ok tx

variable {poolNonces : Nat → Option PoolNonce} {batch : Payload}
  {steps : Steps} {execution : Execution Value}

theorem operatorOf_eq_ok {found : Option Pool} {prepared : Pool × String} :
    operatorOf found = .ok prepared ↔
      found = some prepared.1 ∧ prepared.1.operator = .ok prepared.2 := by
  cases found with
  | none =>
      constructor
      · intro h
        cases h
      · rintro ⟨h, _⟩
        cases h
  | some pool =>
      rw [operatorOf, bind_eq_ok]
      constructor
      · rintro ⟨address, hoperator, h⟩
        cases h
        exact ⟨rfl, hoperator⟩
      · rintro ⟨h, hoperator⟩
        cases h
        exact ⟨_, hoperator, rfl⟩

theorem prepareBatch_eq_ok {pool : Pool} {tx : Value}
    (h : prepareBatch api batch steps = .ok (pool, tx)) :
    steps.findOne = .ok (some pool) ∧ formTx api pool batch.calls = .ok tx := by
  obtain ⟨found, hfind, h⟩ := bind_eq_ok.mp h
  obtain ⟨⟨chosen, address⟩, hoperator, h⟩ := bind_eq_ok.mp h
  obtain ⟨_, -, h⟩ := bind_eq_ok.mp h
  obtain ⟨formed, hformed, h⟩ := bind_eq_ok.mp h
  cases h
  obtain ⟨rfl, -⟩ := operatorOf_eq_ok.mp hoperator
  exact ⟨hfind, hformed⟩

theorem prepareBatch_ok_iff :
    (∃ prepared, prepareBatch api batch steps = .ok prepared) ↔
      Prepared api batch steps := by
  constructor
  · rintro ⟨prepared, h⟩
    obtain ⟨found, hfind, h⟩ := bind_eq_ok.mp h
    obtain ⟨⟨pool, address⟩, hoperator, h⟩ := bind_eq_ok.mp h
    obtain ⟨_, hunlock, h⟩ := bind_eq_ok.mp h
    obtain ⟨tx, htx, _⟩ := bind_eq_ok.mp h
    obtain ⟨rfl, haddress⟩ := operatorOf_eq_ok.mp hoperator
    exact ⟨pool, address, tx, hfind, haddress, hunlock, htx⟩
  · rintro ⟨pool, address, tx, hfind, haddress, hunlock, htx⟩
    have hoperator : operatorOf (some pool) = .ok (pool, address) :=
      operatorOf_eq_ok.mpr ⟨rfl, haddress⟩
    exact ⟨(pool, tx), bind_eq_ok.mpr ⟨_, hfind, bind_eq_ok.mpr
      ⟨_, hoperator, bind_eq_ok.mpr ⟨_, hunlock, bind_eq_ok.mpr
        ⟨_, htx, rfl⟩⟩⟩⟩⟩

theorem processBatch_cases
    (h : processBatch api poolNonces batch steps = some execution) :
    (¬ Prepared api batch steps ∧ execution.messages = []) ∨
      (Prepared api batch steps ∧
        ((∃ error, execution.messages = [.failed batch.id error]) ∨
          (∃ error, execution.messages =
            [.working batch.id, .failed batch.id error]) ∨
          ∃ failedCalls, execution.messages =
            [.working batch.id, .finished batch.id failedCalls])) := by
  unfold processBatch at h
  cases hprepare : prepareBatch api batch steps with
  | error e =>
      rw [hprepare] at h
      cases h
      refine Or.inl ⟨fun hprepared => ?_, rfl⟩
      obtain ⟨prepared, hok⟩ := prepareBatch_ok_iff.mpr hprepared
      rw [hok] at hprepare
      cases hprepare
  | ok prepared =>
      have hprepared := prepareBatch_ok_iff.mp ⟨prepared, hprepare⟩
      rw [hprepare] at h
      refine Or.inr ⟨hprepared, ?_⟩
      simp only at h
      split at h
      · cases h
        exact Or.inl ⟨_, rfl⟩
      · obtain ⟨sent, _, rfl⟩ := Option.map_eq_some_iff.mp h
        cases sent with
        | error e => exact Or.inr (Or.inl ⟨_, rfl⟩)
        | ok failedCalls => exact Or.inr (Or.inr ⟨_, rfl⟩)

/-- An execution is one of those that the pipeline runs. -/
theorem processBatch_outcome
    (h : processBatch api poolNonces batch steps = some execution) :
    ∃ (reported : Bool) (outcome : State.Outcome),
      execution.messages =
        (if reported then [.working batch.id] else []) ++
          outcome.messages batch.id ∧
        (outcome.isFinished = true → reported = true) := by
  rcases processBatch_cases h with ⟨-, hmessages⟩ | ⟨-, ⟨error, hmessages⟩ |
    ⟨error, hmessages⟩ | ⟨failedCalls, hmessages⟩⟩
  · exact ⟨false, .thrown, hmessages, fun hfinished => by cases hfinished⟩
  · exact ⟨false, .failed error, hmessages, fun hfinished => by cases hfinished⟩
  · exact ⟨true, .failed error, hmessages, fun _ => rfl⟩
  · exact ⟨true, .finished failedCalls, hmessages, fun _ => rfl⟩

/-- An execution answers its batch exactly when the steps before the `try`
succeed. -/
theorem processBatch_answers
    (h : processBatch api poolNonces batch steps = some execution) :
    AnsweredOnce batch.id execution.messages ↔ Prepared api batch steps := by
  rcases processBatch_cases h with ⟨hnot, hmessages⟩ | ⟨hprepared, hmessages⟩
  · refine ⟨fun hanswered => ?_, fun hprepared => absurd hprepared hnot⟩
    have hends := hanswered.ends
    rw [hmessages] at hends
    cases hends
  · refine ⟨fun _ => hprepared, fun _ => ?_⟩
    rcases hmessages with ⟨error, hmessages⟩ | ⟨error, hmessages⟩ |
      ⟨failedCalls, hmessages⟩ <;> rw [hmessages]
    · exact
        { ends := by simp
          working := by simp
          order := Ordered.nil.concat fun _ hsame => by cases hsame }
    · exact
        { ends := by simp
          working := by simp
          order := (Ordered.nil.concat fun _ hsame => by cases hsame).concat
            fun _ hsame => by cases hsame }
    · exact
        { ends := by simp
          working := by simp
          order := (Ordered.nil.concat fun _ hsame => by cases hsame).concat
            fun _ _ => by simp }

def plainApi : Api Unit where
  root := ()
  property _ _ := .ok ()
  apply _ _ := .ok ()
  forceBatch _ := .ok ()
  proxy _ _ := .ok ()

def oneCall : Payload where
  id := 0
  pid := 7
  calls := [[.property "tx", .apply []]]

def includedSteps : Steps where
  findOne := .ok (some
    { id := 1, pid := 7, proxiedAccountSs58 := none, operator := .ok "alice" })
  unlock := .ok ()
  accountNextIndex := .ok 3
  sending := [.signed, .status
    { status := .inBlock, statusText := "InBlock", dispatchError := none
      events := [.itemFailed (.other "BadOrigin"),
        .batchCompletedWithErrors] }]

theorem processBatch_answers_included :
    ∃ execution, processBatch plainApi (fun _ => none) oneCall includedSteps =
        some execution ∧
      execution.messages = [.working 0,
        .finished 0 [{ index := 0, reason := "BadOrigin" }]] ∧
      AnsweredOnce oneCall.id execution.messages := by
  have hrun : processBatch plainApi (fun _ => none) oneCall includedSteps =
      some _ := rfl
  exact ⟨_, hrun, rfl,
    (processBatch_answers hrun).mpr ⟨_, _, _, rfl, rfl, rfl, rfl⟩⟩

/-- The pool of the batch is not stored. -/
theorem processBatch_silent :
    ¬ ∀ (api : Api Unit) poolNonces batch steps execution,
      processBatch api poolNonces batch steps = some execution →
        AnsweredOnce batch.id execution.messages := by
  intro h
  have hanswered := h plainApi (fun _ => none) oneCall
    { includedSteps with findOne := .ok none } _ rfl
  exact absurd hanswered.ends (by decide)

end RuntimeBridge.Trade
