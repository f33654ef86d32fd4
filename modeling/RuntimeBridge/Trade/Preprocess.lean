import RuntimeBridge.Trade.ProcessBatch
import RuntimeBridge.Trade.ProcessJob

/-! The actions of `preprocess_actions.js`.  They run on `apiProxy` in the place
of the API, and `formTx` makes the calls that it recorded. -/

namespace RuntimeBridge.Trade

open Library

/-- A value that a call is given. -/
inductive Arg where
  | string (text : String)
  /-- A value of `createType`, which has `toHex`. -/
  | codec (hex : String)
  | undefined
  | null
  /-- Neither `toHex` nor `toString`. -/
  | bare
  /-- Any other value, and what `toString` gives. -/
  | other (text : String)
  deriving DecidableEq, Repr

def unreadable (value : String) : Thrown :=
  .error "TypeError"
    ("Cannot read properties of " ++ value ++ " (reading 'toHex')")

def Arg.record (path : List String) : Arg → Except Thrown String
  | .string text => .ok text
  | .codec hex => .ok hex
  | .undefined => .error (unreadable "undefined")
  | .null => .error (unreadable "null")
  | .bare => .error (.error "Error"
      ("Invalid arguments for call: api." ++ ".".intercalate path))
  | .other text => .ok text

/-- The `result` that a `subProxy` collects. -/
structure Recording where
  result : List String
  revoked : Bool

namespace Recording

def start (rootProp : String) : Recording where
  result := [rootProp]
  revoked := false

def get (recording : Recording) (prop : String) : Except Thrown Recording :=
  if recording.revoked then
    .error (.error "TypeError"
      "Cannot perform 'get' on a proxy that has been revoked")
  else
    .ok { recording with result := recording.result ++ [prop] }

/-- The trap returns `finish()`. -/
def apply (recording : Recording) (argArray : List Arg) :
    Except Thrown (Recording × Call) :=
  if recording.revoked then
    .error (.error "TypeError"
      "Cannot perform 'apply' on a proxy that has been revoked")
  else do
    let args ← argArray.mapM (·.record recording.result)
    return ({ recording with revoked := true },
      recording.result.map .property ++ [.apply args])

end Recording

/-- `api.rootProp.props(args)` for one `api` or the other. -/
abbrev Invoke (Tx : Type) :=
  String → List String → List Arg → Except Thrown Tx

def apiProxy : Invoke Call := fun rootProp props args => do
  let recording ← props.foldlM Recording.get (.start rootProp)
  let (_, result) ← recording.apply args
  return result

/-- The same on the API itself, which takes strings for values of any type. -/
def Api.invoke {Value : Type} (api : Api Value) : Invoke Value :=
  fun rootProp props args => do
    let function ← (rootProp :: props).foldlM api.property api.root
    let texts ← args.mapM (·.record (rootProp :: props))
    api.apply function texts

structure Wrapped (Tx : Type) where
  shouldRetry : Bool
  calls : List Tx

def wrapTx {Tx : Type} (calls : List Tx) (shouldRetry : Bool) : Wrapped Tx where
  shouldRetry
  calls

structure RequestPayload where
  pid : Nat
  messages : Option (List Arg)
  runtimeInfo : Arg
  attestation : Arg
  publicKey : Arg
  stake : Arg
  deriving Repr

def RequestPayload.pidArg (payload : RequestPayload) : Arg :=
  .other (toString payload.pid)

section

variable {Tx : Type} (createType : String → Arg → Except Thrown String)
  (api : Invoke Tx) (payload : RequestPayload)

def syncOffchainMessage (msg : Arg) : Except Thrown Tx := do
  let message ← createType "SignedMessage" msg
  api "tx" ["phalaMq", "syncOffchainMessage"] [.codec message]

/-- Five of the actions make one call and are retried. -/
def wrapCall (call : Except Thrown Tx) : Except Thrown (Wrapped Tx) := do
  return wrapTx [← call] true

def BATCH_SYNC_MQ_MESSAGE : Except Thrown (Wrapped Tx) :=
  match payload.messages with
  | none => .error (.error "TypeError"
      "Cannot read properties of undefined (reading 'map')")
  | some messages => do
      let calls ← messages.mapM (syncOffchainMessage createType api)
      return wrapTx calls false

def REGISTER_WORKER : Except Thrown (Wrapped Tx) :=
  wrapCall (api "tx" ["phalaRegistry", "registerWorker"]
    [payload.runtimeInfo, payload.attestation])

def ADD_WORKER : Except Thrown (Wrapped Tx) :=
  wrapCall (api "tx" ["phalaStakePoolv2", "addWorker"]
    [payload.pidArg, payload.publicKey])

def START_COMPUTING : Except Thrown (Wrapped Tx) := do
  let balance ← createType "BalanceOf" payload.stake
  wrapCall (api "tx" ["phalaStakePoolv2", "startComputing"]
    [payload.pidArg, payload.publicKey, .codec balance])

def STOP_COMPUTING : Except Thrown (Wrapped Tx) :=
  wrapCall (api "tx" ["phalaStakePoolv2", "stopComputing"]
    [payload.pidArg, payload.publicKey])

def RESTART_COMPUTING : Except Thrown (Wrapped Tx) := do
  let balance ← createType "BalanceOf" payload.stake
  wrapCall (api "tx" ["phalaStakePoolv2", "restartComputing"]
    [payload.pidArg, payload.publicKey, .codec balance])

inductive Action where
  | batchSyncMqMessage
  | registerWorker
  | addWorker
  | startComputing
  | stopComputing
  | restartComputing
  deriving DecidableEq, Repr

def Action.run : Action → Except Thrown (Wrapped Tx)
  | .batchSyncMqMessage => BATCH_SYNC_MQ_MESSAGE createType api payload
  | .registerWorker => REGISTER_WORKER api payload
  | .addWorker => ADD_WORKER api payload
  | .startComputing => START_COMPUTING createType api payload
  | .stopComputing => STOP_COMPUTING api payload
  | .restartComputing => RESTART_COMPUTING createType api payload

end

/-- The exports of `preprocess_actions.js`. -/
def actions : List (String × Action) :=
  [("BATCH_SYNC_MQ_MESSAGE", .batchSyncMqMessage),
    ("REGISTER_WORKER", .registerWorker), ("ADD_WORKER", .addWorker),
    ("START_COMPUTING", .startComputing), ("STOP_COMPUTING", .stopComputing),
    ("RESTART_COMPUTING", .restartComputing)]

structure Request where
  action : String
  payload : RequestPayload
  deriving Repr

def Request.run {Tx : Type} (createType : String → Arg → Except Thrown String)
    (api : Invoke Tx) (request : Request) : Except Thrown (Wrapped Tx) :=
  match actions.lookup request.action with
  | some action => action.run createType api request.payload
  | none => .error (.error "TypeError" "actions[action] is not a function")

/-- The error that it makes for a job without action or pid is never thrown. -/
def preprocess (createType : String → Arg → Except Thrown String) (id : Nat)
    (request : Request) : Except Thrown CallMeta := do
  let jobMeta ← request.run createType apiProxy
  return {
    id
    pid := request.payload.pid
    calls := jobMeta.calls
    shouldRetry := jobMeta.shouldRetry }

def Api.replay {Value : Type} (api : Api Value) (call : Call) :
    Except Thrown Value :=
  call.foldlM api.follow api.root

variable {Value : Type} {createType : String → Arg → Except Thrown String}
  {rootProp : String} {props : List String} {args : List Arg} {call : Call}
  {request : Request} {payload : RequestPayload} {wrapped : Wrapped Call}

theorem foldlM_get (props : List String) (result : List String) :
    props.foldlM Recording.get { result, revoked := false } =
      .ok { result := result ++ props, revoked := false } := by
  induction props generalizing result with
  | nil => rw [List.append_nil]; rfl
  | cons prop rest ih =>
      have hget : Recording.get { result, revoked := false } prop =
          .ok { result := result ++ [prop], revoked := false } := rfl
      have happend : result ++ prop :: rest = (result ++ [prop]) ++ rest :=
        List.append_cons result prop rest
      rw [List.foldlM_cons, hget, happend]
      exact ih (result ++ [prop])

theorem apiProxy_eq_ok (h : apiProxy rootProp props args = .ok call) :
    ∃ texts, args.mapM (·.record (rootProp :: props)) = .ok texts ∧
      call = (rootProp :: props).map .property ++ [.apply texts] := by
  obtain ⟨recording, hrecording, h⟩ := bind_eq_ok.mp h
  rw [Recording.start, foldlM_get] at hrecording
  cases hrecording
  obtain ⟨finished, happly, h⟩ := bind_eq_ok.mp h
  cases h
  obtain ⟨texts, htexts, h⟩ := bind_eq_ok.mp happly
  cases h
  exact ⟨texts, htexts, rfl⟩

theorem foldlM_follow (api : Api Value) (props : List String) (value : Value) :
    (props.map Segment.property).foldlM api.follow value =
      props.foldlM api.property value := by
  rw [List.foldlM_map]
  rfl

/-- To make a recorded call is to make the call. -/
theorem replay_apiProxy (h : apiProxy rootProp props args = .ok call)
    (api : Api Value) : api.replay call = api.invoke rootProp props args := by
  obtain ⟨texts, htexts, rfl⟩ := apiProxy_eq_ok h
  rw [Api.replay, List.foldlM_append, foldlM_follow, Api.invoke, htexts]
  refine congrArg _ (funext fun function => ?_)
  rw [List.foldlM_cons]
  exact bind_pure _

theorem wrapCall_replay
    (h : wrapCall (apiProxy rootProp props args) = .ok wrapped)
    (api : Api Value) :
    wrapCall (api.invoke rootProp props args) =
      (wrapped.calls.mapM api.replay).map
        fun calls => wrapTx calls wrapped.shouldRetry := by
  obtain ⟨call, hcall, h⟩ := bind_eq_ok.mp h
  cases h
  rw [wrapCall, ← replay_apiProxy hcall]
  simp only [wrapTx, List.mapM_cons, List.mapM_nil]
  cases api.replay call <;> rfl

theorem syncOffchainMessage_replay {msg : Arg}
    (h : syncOffchainMessage createType apiProxy msg = .ok call)
    (api : Api Value) :
    api.replay call = syncOffchainMessage createType api.invoke msg := by
  obtain ⟨message, hmessage, h⟩ := bind_eq_ok.mp h
  rw [syncOffchainMessage, hmessage]
  exact replay_apiProxy h api

theorem batchSync_replay
    (h : BATCH_SYNC_MQ_MESSAGE createType apiProxy payload = .ok wrapped)
    (api : Api Value) :
    BATCH_SYNC_MQ_MESSAGE createType api.invoke payload =
      (wrapped.calls.mapM api.replay).map
        fun calls => wrapTx calls wrapped.shouldRetry := by
  unfold BATCH_SYNC_MQ_MESSAGE at h ⊢
  split at h
  · cases h
  · next messages _ =>
      obtain ⟨calls, hcalls, h⟩ := bind_eq_ok.mp h
      cases h
      have hsame := mapM_again hcalls fun msg call hcall =>
        syncOffchainMessage_replay hcall api
      simp only [wrapTx, hsame]
      cases messages.mapM (syncOffchainMessage createType api.invoke) <;> rfl

/-- An action on the API itself makes the calls that it records. -/
theorem run_replay {action : Action}
    (h : action.run createType apiProxy payload = .ok wrapped)
    (api : Api Value) :
    action.run createType api.invoke payload =
      (wrapped.calls.mapM api.replay).map
        fun calls => wrapTx calls wrapped.shouldRetry := by
  cases action with
  | batchSyncMqMessage => exact batchSync_replay h api
  | registerWorker => exact wrapCall_replay h api
  | addWorker => exact wrapCall_replay h api
  | stopComputing => exact wrapCall_replay h api
  | startComputing =>
      obtain ⟨balance, hbalance, h⟩ := bind_eq_ok.mp h
      rw [Action.run, START_COMPUTING, hbalance]
      exact wrapCall_replay h api
  | restartComputing =>
      obtain ⟨balance, hbalance, h⟩ := bind_eq_ok.mp h
      rw [Action.run, RESTART_COMPUTING, hbalance]
      exact wrapCall_replay h api

end RuntimeBridge.Trade
