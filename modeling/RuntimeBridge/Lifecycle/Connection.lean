import Mathlib.Data.List.AList
import RuntimeBridge.DataProvider.LocalServer
import RuntimeBridge.Library.Promise

/-! A connection to the blob server of a data provider: the calls of `get` that
wait for a response, and the handlers of the decoder, of the socket and of the
timers. -/

namespace RuntimeBridge.Lifecycle

open Library DataProvider

/-- The random bytes of a call of `get`, which its response repeats.  They are
the key of `responseMap`, where the source has their hexadecimal digits. -/
abbrev RequestId := { bytes : Bytes // bytes.length = 8 }

/-- A call of `get`, and the promise that it has returned. -/
structure GetCall where
  key : String
  id : RequestId
  promise : Promise (Option Bytes)
  deriving DecidableEq

namespace GetCall

def resolve (call : GetCall) (buffer : Option Bytes) : GetCall :=
  { call with promise := call.promise.resolve buffer }

def reject (call : GetCall) (error : String) : GetCall :=
  { call with promise := call.promise.reject error }

def message (call : GetCall) : Bytes :=
  call.id.val ++ encodeUtf8 call.key

end GetCall

/-- `responseMap` leads to the call whose promise is to be settled. -/
structure Connection where
  closed : Bool
  connectPromise : Promise Unit
  calls : List GetCall
  responseMap : AList fun _ : RequestId => Nat

inductive ConnectionEvent where
  | get (key : String) (id : RequestId)
  /-- `encoder.write` throws. -/
  | writeFails (call : Nat) (error : String)
  | timeout (call : Nat)
  /-- The decoder has a message of the server. -/
  | data (data : Bytes)
  | connect
  | error (error : String)
  | close
  deriving DecidableEq

namespace Connection

/-- The constructor, whose `connect` makes the promise to wait for. -/
def create : Connection where
  closed := false
  connectPromise := .pending
  calls := []
  responseMap := ∅

def get (connection : Connection) (key : String) (id : RequestId) :
    Connection :=
  { connection with
    calls := connection.calls ++ [{ key, id, promise := .pending }]
    responseMap := connection.responseMap.insert id connection.calls.length }

def writeFails (connection : Connection) (call : Nat) (error : String) :
    Connection :=
  { connection with
    calls := connection.calls.modify call fun call => call.reject error }

/-- No timer is cleared. -/
def timeout (connection : Connection) (call : Nat) : Connection :=
  match connection.calls[call]? with
  | none => connection
  | some { key, id, .. } =>
      { connection with
        calls := connection.calls.modify call fun call =>
          call.reject s!"Timeout when getting key '{key}'."
        responseMap := connection.responseMap.erase id }

/-- What a message does to the call that its first bytes name. -/
def settle (crc32c : Bytes → UInt32) (data : Bytes) (call : GetCall) : GetCall :=
  if data.length < 17 then
    call.resolve none
  else
    let remoteCrc := (data.drop 8).take 8
    let buf := data.drop 16
    if remoteCrc ≠ crc32cBuffer crc32c buf then
      call.reject "CRC Mismatch!"
    else
      call.resolve (some buf)

def data (crc32c : Bytes → UInt32) (connection : Connection) (data : Bytes) :
    Connection :=
  if h : data.length < 8 then
    connection
  else
    let id : RequestId :=
      ⟨data.take 8, List.length_take_of_le (Nat.le_of_not_lt h)⟩
    match connection.responseMap.lookup id with
    | none => connection
    | some call =>
        { connection with
          calls := connection.calls.modify call (settle crc32c data)
          responseMap := connection.responseMap.erase id }

def cleanup (connection : Connection) : Connection :=
  if connection.closed then
    connection
  else
    let err := "Connection closed."
    { closed := true
      connectPromise := connection.connectPromise.reject err
      calls := (connection.responseMap.entries.map Sigma.snd).foldl
        (fun calls call => calls.modify call fun call => call.reject err)
        connection.calls
      responseMap := ∅ }

def handle (crc32c : Bytes → UInt32) (connection : Connection) :
    ConnectionEvent → Connection
  | .get key id => connection.get key id
  | .writeFails call error => connection.writeFails call error
  | .timeout call => connection.timeout call
  | .data data => connection.data crc32c data
  | .connect =>
      { connection with
        connectPromise := connection.connectPromise.resolve () }
  | .error error =>
      cleanup { connection with
        connectPromise := connection.connectPromise.reject error }
  | .close => connection.cleanup

end Connection

def ConnectionEvent.closes : ConnectionEvent → Bool
  | .error _ => true
  | .close => true
  | _ => false

namespace Connection

variable {connection : Connection}

theorem closed_cleanup (connection : Connection) :
    connection.cleanup.closed = true := by
  unfold cleanup
  split
  · assumption
  · rfl

theorem closed_data (crc32c : Bytes → UInt32) (connection : Connection)
    (data : Bytes) :
    (connection.data crc32c data).closed = connection.closed ∧
      (connection.data crc32c data).connectPromise =
        connection.connectPromise := by
  unfold Connection.data
  split
  · exact ⟨rfl, rfl⟩
  · simp only
    split <;> exact ⟨rfl, rfl⟩

theorem closed_timeout (connection : Connection) (call : Nat) :
    (connection.timeout call).closed = connection.closed ∧
      (connection.timeout call).connectPromise = connection.connectPromise := by
  unfold timeout
  split <;> exact ⟨rfl, rfl⟩

/-- Only the socket closes a connection, and nothing opens it again. -/
theorem closed_handle (crc32c : Bytes → UInt32) (connection : Connection)
    (event : ConnectionEvent) :
    (connection.handle crc32c event).closed =
      (connection.closed || event.closes) := by
  cases event with
  | get key id => exact (Bool.or_false _).symm
  | writeFails call error => exact (Bool.or_false _).symm
  | timeout call =>
      exact (closed_timeout connection call).1.trans (Bool.or_false _).symm
  | data data =>
      exact (closed_data crc32c connection data).1.trans (Bool.or_false _).symm
  | connect => exact (Bool.or_false _).symm
  | error error => exact (closed_cleanup _).trans (Bool.or_true _).symm
  | close => exact (closed_cleanup _).trans (Bool.or_true _).symm

/-- Nobody waits for a connection that is closed. -/
def Told (connection : Connection) : Prop :=
  connection.closed = true → connection.connectPromise.isSettled = true

theorem told_create : create.Told := by
  intro hclosed
  cases hclosed

theorem Told.of_eq (h : connection.Told) {after : Connection}
    (heq : after.closed = connection.closed ∧
      after.connectPromise = connection.connectPromise) : after.Told := by
  intro hclosed
  rw [heq.2]
  exact h (heq.1.symm.trans hclosed)

theorem Told.cleanup (h : connection.Told) : connection.cleanup.Told := by
  unfold Connection.cleanup
  split
  · exact h
  · intro _
    exact Promise.isSettled_reject _ _

theorem Told.handle (h : connection.Told) (crc32c : Bytes → UInt32)
    (event : ConnectionEvent) : (connection.handle crc32c event).Told := by
  cases event with
  | get key id => exact h
  | writeFails call error => exact h
  | timeout call => exact h.of_eq (closed_timeout connection call)
  | data data => exact h.of_eq (closed_data crc32c connection data)
  | connect => exact fun _ => Promise.isSettled_resolve _ _
  | error error =>
      exact Told.cleanup fun _ => Promise.isSettled_reject _ _
  | close => exact h.cleanup

end Connection

end RuntimeBridge.Lifecycle
