import RuntimeBridge.Trade.Pipeline

/-! `sendTx`: one promise that the timer, the status callbacks and the end of
`signAndSend` settle. -/

namespace RuntimeBridge.Trade

/-- A thrown value: its stack, if it is an error, and what `toString` gives. -/
structure Thrown where
  stack : Option String
  text : String
  deriving DecidableEq, Repr

namespace Thrown

def ofString (text : String) : Thrown where
  stack := none
  text

/-- A new error.  Its stack begins with the text. -/
def error (name message : String) : Thrown where
  stack := some (name ++ ": " ++ message)
  text := name ++ ": " ++ message

/-- `e.stack || e.toString()` -/
def report (e : Thrown) : String :=
  match e.stack with
  | some stack => if stack = "" then e.text else stack
  | none => e.text

end Thrown

structure MetaError where
  sectionName : String
  name : String
  docs : Option (List String)
  deriving DecidableEq, Repr

inductive DispatchError where
  /-- What `findMetaError` makes of a module error. -/
  | module (decoded : Except Thrown MetaError)
  | other (text : String)

def resolveDispatchError : DispatchError → Except Thrown String
  | .module decoded => do
      let { sectionName, name, docs } ← decoded
      let joined := (docs.map fun lines => " ".intercalate lines).getD "undefined"
      return sectionName ++ "." ++ name ++ ": " ++ joined
  | .other text => return text

inductive ChainEvent where
  /-- The result of the proxied call, or the JSON of its error. -/
  | proxyExecuted (result : Except String Unit)
  | batchCompletedWithErrors
  | batchCompleted
  | itemCompleted
  | itemFailed (error : DispatchError)
  | other

namespace ChainEvent

def proxyResult : ChainEvent → Option (Except String Unit)
  | .proxyExecuted result => some result
  | _ => none

def isBatchCompletedWithErrors : ChainEvent → Bool
  | .batchCompletedWithErrors => true
  | _ => false

def isBatchCompleted : ChainEvent → Bool
  | .batchCompleted => true
  | _ => false

def isItem : ChainEvent → Bool
  | .itemCompleted | .itemFailed _ => true
  | _ => false

def itemError : ChainEvent → Option DispatchError
  | .itemFailed error => some error
  | _ => none

end ChainEvent

inductive TxStatus where
  | usurped
  | dropped
  | invalid
  | inBlock
  | other
  deriving DecidableEq, Repr

structure TxResult where
  status : TxStatus
  statusText : String
  dispatchError : Option DispatchError
  events : List ChainEvent

/-- The failed items of a batch, by their place among its items. -/
def failedCalls (events : List ChainEvent) :
    Except Thrown (List FailedCall) :=
  let failed := (events.filter ChainEvent.isItem).zipIdx.filterMap fun item =>
    item.1.itemError.map fun error => (error, item.2)
  failed.mapM fun item => do
    let reason ← resolveDispatchError item.1
    return { index := item.2, reason }

/-- What the callback makes of a transaction in a block. -/
def onInBlock (isProxy : Bool) (result : TxResult) :
    Except Thrown (List FailedCall) := do
  if let some dispatchError := result.dispatchError then
    throw (.ofString (← resolveDispatchError dispatchError))
  if isProxy then
    match result.events.findSome? ChainEvent.proxyResult with
    | none =>
        throw (.error "TypeError"
          ("Cannot destructure property 'event' of 'events.filter(...)[0]'" ++
            " as it is undefined."))
    | some (.error json) => throw (.error "Error" json)
    | some (.ok _) => pure ()
  if result.events.any ChainEvent.isBatchCompletedWithErrors then
    failedCalls result.events
  else if result.events.any ChainEvent.isBatchCompleted then
    return []
  else
    throw (.error "Error" "Batch failed with no reason!")

/-- The status callback; most statuses settle nothing. -/
def onStatus (isProxy : Bool) (result : TxResult) :
    Option (Except Thrown (List FailedCall)) :=
  match result.status with
  | .usurped | .dropped | .invalid =>
      some (.error (.ofString
        ("Tx has unexpected status: " ++ result.statusText)))
  | .inBlock => some (onInBlock isProxy result)
  | .other => none

def txTimeOutError : Thrown := .error "TxTimeOutError" "Timeout!"

inductive TxEvent where
  | timeout
  | status (result : TxResult)
  /-- `signAndSend` has given its unsubscribe function. -/
  | signed
  /-- `signAndSend` throws or rejects. -/
  | failed (e : Thrown)

def TxEvent.outcome (isProxy : Bool) :
    TxEvent → Option (Except Thrown (List FailedCall))
  | .timeout => some (.error txTimeOutError)
  | .status result => onStatus isProxy result
  | .signed => none
  | .failed e => some (.error e)

/-- The first event with an outcome settles the promise. -/
def sendTx (isProxy : Bool) (events : List TxEvent) :
    Option (Except Thrown (List FailedCall)) :=
  events.findSome? (TxEvent.outcome isProxy)

end RuntimeBridge.Trade
