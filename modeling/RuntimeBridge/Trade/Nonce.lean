import Mathlib.Data.List.Nodup
import RuntimeBridge.Library.Machine
import RuntimeBridge.Trade.ProcessBatch

/-! The nonces of the trader.  Each execution asks for the next index of its
account and submits later, and only the executions of one pool are serial; the
send slots would only rule out some of these runs. -/

namespace RuntimeBridge.Trade

open Library

structure PoolTable where
  rows : List Pool
  pids : (rows.map (·.pid)).Nodup
  ids : (rows.map (·.id)).Nodup

def PoolTable.findOne (table : PoolTable) (pid : Nat) : Option Pool :=
  table.rows.find? fun pool => pool.pid = pid

/-- A call of `signAndSend` that has not submitted its transaction yet. -/
structure SendCall where
  number : Nat
  account : String
  /-- Without a nonce the library asks for the next index. -/
  nonce : Option Nat
  deriving DecidableEq, Repr

/-- A submitted transaction that is not included in a block. -/
structure Tx where
  number : Nat
  account : String
  nonce : Nat
  deriving DecidableEq, Repr

inductive Phase where
  | idle
  | choosing (pool : Pool) (address : String)
  | sending

structure TraderState where
  poolNonces : Nat → Option PoolNonce
  phase : Nat → Phase
  nextCall : Nat
  calls : List SendCall
  pending : List Tx

namespace TraderState

def initial : TraderState where
  poolNonces _ := none
  phase _ := .idle
  nextCall := 0
  calls := []
  pending := []

def setPhase (state : TraderState) (pid : Nat) (phase : Phase) : TraderState :=
  { state with phase := Function.update state.phase pid phase }

/-- An index of the account is past all its submitted transactions. -/
def IsNext (state : TraderState) (account : String) (index : Nat) : Prop :=
  ∀ tx ∈ state.pending, tx.account = account → tx.nonce < index

instance (state : TraderState) (account : String) (index : Nat) :
    Decidable (state.IsNext account index) :=
  inferInstanceAs (Decidable (∀ tx ∈ state.pending,
    tx.account = account → tx.nonce < index))

def begins (state : TraderState) (table : PoolTable) (pid : Nat) :
    Option TraderState :=
  match state.phase pid, table.findOne pid with
  | .idle, some pool =>
      match pool.operator with
      | .ok address => some (state.setPhase pid (.choosing pool address))
      | .error _ => none
  | _, _ => none

/-- The nonce is chosen and the transaction is given to `signAndSend`.  The
answer counts where the node is asked. -/
def chooses (state : TraderState) (pid answer : Nat) : Option TraderState :=
  match state.phase pid with
  | .choosing pool address =>
      match chooseNonce (state.poolNonces pool.id) (.ok answer) with
      | .ok nonce =>
          if ∀ index ∈ nonce, state.IsNext address index then
            some { state.setPhase pid .sending with
              poolNonces := Function.update state.poolNonces pool.id
                (some (.after nonce))
              nextCall := state.nextCall + 1
              calls := state.calls ++
                [{ number := state.nextCall, account := address, nonce }] }
          else
            none
      | .error _ => none
  | _ => none

/-- The library asks for the nonce of a call that came without one. -/
def signs (state : TraderState) (call : SendCall) (answer : Nat) :
    Option TraderState :=
  if call ∈ state.calls ∧ call.nonce = none ∧
      state.IsNext call.account answer then
    some { state with
      calls := state.calls.erase call ++ [{ call with nonce := some answer }] }
  else
    none

def submits (state : TraderState) (call : SendCall) : Option TraderState :=
  match call.nonce with
  | some nonce =>
      if call ∈ state.calls then
        some { state with
          calls := state.calls.erase call
          pending := state.pending ++
            [{ number := call.number, account := call.account, nonce }] }
      else
        none
  | none => none

/-- `signAndSend` gives up before it submits. -/
def rejects (state : TraderState) (call : SendCall) : Option TraderState :=
  if call ∈ state.calls then
    some { state with calls := state.calls.erase call }
  else
    none

/-- The execution of the pool is over: a step of it failed, or its promise is
settled, by the timeout even while the call is still on its way. -/
def ends (state : TraderState) (pid : Nat) : Option TraderState :=
  match state.phase pid with
  | .idle => none
  | _ => some (state.setPhase pid .idle)

def includes (state : TraderState) (tx : Tx) : Option TraderState :=
  if tx ∈ state.pending then
    some { state with pending := state.pending.erase tx }
  else
    none

end TraderState

inductive TraderEvent where
  | begins (pid : Nat)
  | chooses (pid answer : Nat)
  | signs (call : SendCall) (answer : Nat)
  | submits (call : SendCall)
  | rejects (call : SendCall)
  | ends (pid : Nat)
  | includes (tx : Tx)
  deriving DecidableEq

def TraderState.step (table : PoolTable) (state : TraderState) :
    TraderEvent → Option TraderState
  | .begins pid => state.begins table pid
  | .chooses pid answer => state.chooses pid answer
  | .signs call answer => state.signs call answer
  | .submits call => state.submits call
  | .rejects call => state.rejects call
  | .ends pid => state.ends pid
  | .includes tx => state.includes tx

def trader (table : PoolTable) : Machine TraderState TraderEvent where
  start := .initial
  step := TraderState.step table

/-- The account whose next index is asked for in a step. -/
def TraderState.asks (state : TraderState) : TraderEvent → Option String
  | .chooses pid _ =>
      match state.phase pid with
      | .choosing pool address =>
          if (state.poolNonces pool.id).isSome then some address else none
      | _ => none
  | .signs call _ => some call.account
  | _ => none

/-- No other call of the account holds an index that it has not submitted. -/
def asksAlone (state : TraderState) (event : TraderEvent) : Prop :=
  ∀ call ∈ state.calls, state.asks event = some call.account →
    call.nonce = none

instance (state : TraderState) (event : TraderEvent) :
    Decidable (asksAlone state event) :=
  inferInstanceAs (Decidable (∀ call ∈ state.calls,
    state.asks event = some call.account → call.nonce = none))

def Tx.key (tx : Tx) : String × Nat := (tx.account, tx.nonce)

def SendCall.key (call : SendCall) : Option (String × Nat) :=
  call.nonce.map fun nonce => (call.account, nonce)

/-- The nonces in use: held by a call or submitted. -/
def TraderState.keys (state : TraderState) : List (String × Nat) :=
  state.calls.filterMap SendCall.key ++ state.pending.map Tx.key

variable {table : PoolTable} {state after : TraderState} {call : SendCall}
  {tx : Tx} {account : String} {pid answer : Nat}

theorem new_key
    (alone : ∀ call ∈ state.calls, call.account = account → call.nonce = none)
    (next : state.IsNext account answer) : (account, answer) ∉ state.keys := by
  intro member
  rcases List.mem_append.mp member with hheld | hpending
  · obtain ⟨call, hcall, hkey⟩ := List.mem_filterMap.mp hheld
    obtain ⟨nonce, hnonce, hsame⟩ := Option.map_eq_some_iff.mp hkey
    have hnone := alone call hcall (congrArg Prod.fst hsame)
    rw [hnone] at hnonce
    cases hnonce
  · obtain ⟨tx, htx, hkey⟩ := List.mem_map.mp hpending
    have hlt := next tx htx (congrArg Prod.fst hkey)
    have hsame : tx.nonce = answer := congrArg Prod.snd hkey
    omega

theorem keys_perm (member : call ∈ state.calls) :
    state.keys.Perm (call.key.toList ++
      TraderState.keys { state with calls := state.calls.erase call }) := by
  have hcalls := (List.perm_cons_erase member).filterMap SendCall.key
  have hkeys := hcalls.append_right (state.pending.map Tx.key)
  refine hkeys.trans (List.Perm.of_eq ?_)
  cases hkey : call.key with
  | none => simp [hkey, TraderState.keys]
  | some key => simp [hkey, TraderState.keys]

theorem keys_add (state : TraderState) (calls : List SendCall)
    (call : SendCall) :
    (TraderState.keys { state with calls := calls ++ [call] }).Perm
      (call.key.toList ++ TraderState.keys { state with calls }) := by
  have hcalls : ((calls ++ [call]).filterMap SendCall.key).Perm
      (call.key.toList ++ calls.filterMap SendCall.key) := by
    rw [List.filterMap_append]
    refine List.perm_append_comm.trans (List.Perm.of_eq ?_)
    cases hkey : call.key <;> simp [hkey]
  apply (hcalls.append_right (state.pending.map Tx.key)).trans
  rw [List.append_assoc]
  rfl

theorem nodup_add {calls : List SendCall}
    (h : (TraderState.keys { state with calls }).Nodup)
    (fresh : ∀ key ∈ call.key,
      key ∉ TraderState.keys { state with calls }) :
    (TraderState.keys { state with calls := calls ++ [call] }).Nodup := by
  rw [(keys_add state calls call).nodup_iff]
  cases hkey : call.key with
  | none => exact h
  | some key => exact List.nodup_cons.mpr ⟨fresh key hkey, h⟩

theorem keys_nodup_step : (trader table).Preserves asksAlone
    fun state => state.keys.Nodup := by
  intro state event after alone h taken
  cases event with
  | begins pid =>
      simp only [trader, TraderState.step, TraderState.begins] at taken
      split at taken
      · split at taken
        · cases taken
          exact h
        · contradiction
      · contradiction
  | chooses pid answer =>
      simp only [trader, TraderState.step, TraderState.chooses] at taken
      split at taken
      · next pool address hphase =>
          split at taken
          · next nonce hnonce =>
              split at taken
              · next hnext =>
                  cases taken
                  apply nodup_add h
                  intro key hkey
                  obtain ⟨index, hindex, rfl⟩ :=
                    Option.map_eq_some_iff.mp hkey
                  refine new_key (fun other hother hsame => ?_)
                    (hnext index hindex)
                  -- only a cached value makes the code ask
                  apply alone other hother
                  cases hcached : state.poolNonces pool.id with
                  | none =>
                      rw [hcached] at hnonce
                      cases hnonce
                      cases hindex
                  | some cached =>
                      simp only [TraderState.asks, hphase, hcached, hsame]
                      rfl
              · contradiction
          · contradiction
      · contradiction
  | signs call answer =>
      simp only [trader, TraderState.step, TraderState.signs] at taken
      split at taken
      · next hguard =>
          cases taken
          obtain ⟨hcall, hnone, hnext⟩ := hguard
          have hkey : call.key = none := by
            rw [SendCall.key, hnone]
            rfl
          have hperm := keys_perm hcall
          rw [hkey] at hperm
          have hfresh : (call.account, answer) ∉ state.keys :=
            new_key (fun other hother hsame =>
              alone other hother (congrArg some hsame.symm)) hnext
          apply nodup_add (hperm.nodup_iff.mp h)
          intro key held member
          cases held
          exact hfresh (hperm.mem_iff.mpr member)
      · contradiction
  | submits call =>
      simp only [trader, TraderState.step, TraderState.submits] at taken
      split at taken
      · next nonce hnonce =>
          split at taken
          · next hcall =>
              cases taken
              have hkey : call.key = some (call.account, nonce) := by
                rw [SendCall.key, hnonce]
                rfl
              have hperm := keys_perm hcall
              rw [hkey] at hperm
              rw [hperm.nodup_iff] at h
              refine (List.Perm.nodup_iff ?_).mp h
              simp only [TraderState.keys, List.map_append, List.map_singleton]
              exact List.perm_append_comm.trans
                (List.Perm.of_eq (List.append_assoc _ _ _))
          · contradiction
      · contradiction
  | rejects call =>
      simp only [trader, TraderState.step, TraderState.rejects] at taken
      split at taken
      · next hcall =>
          cases taken
          have hperm := (keys_perm hcall).nodup_iff.mp h
          exact (List.nodup_append.mp hperm).2.1
      · contradiction
  | ends pid =>
      simp only [trader, TraderState.step, TraderState.ends] at taken
      split at taken
      · contradiction
      · cases taken
        exact h
  | includes tx =>
      simp only [trader, TraderState.step, TraderState.includes] at taken
      split at taken
      · cases taken
        exact h.sublist (List.Sublist.append_left
          (List.erase_sublist.map _) _)
      · contradiction

/-- In a run that asks for every index alone, the submitted transactions that
are not included have different nonces for each account. -/
theorem nonces_distinct (reached : (trader table).Reaches asksAlone state) :
    (state.pending.map Tx.key).Nodup := by
  have hkeys := keys_nodup_step.reaches List.nodup_nil reached
  exact (List.nodup_append.mp hkeys).2.1

def sharedOperator : PoolTable where
  rows :=
    [{ id := 1, pid := 7, proxiedAccountSs58 := none, operator := .ok "alice" },
      { id := 2, pid := 8, proxiedAccountSs58 := none,
        operator := .ok "alice" }]
  pids := by decide
  ids := by decide

def serialRun : List TraderEvent :=
  let first : SendCall := { number := 0, account := "alice", nonce := none }
  let second : SendCall := { number := 1, account := "alice", nonce := none }
  [.begins 7, .chooses 7 0, .signs first 0,
    .submits { first with nonce := some 0 },
    .begins 8, .chooses 8 0, .signs second 1,
    .submits { second with nonce := some 1 }]

theorem nonces_distinct_serialRun :
    let state := (trader sharedOperator).endedIf
      (fun state event => decide (asksAlone state event)) serialRun
    state.pending.map Tx.key = [("alice", 0), ("alice", 1)] ∧
      (state.pending.map Tx.key).Nodup :=
  ⟨by decide, nonces_distinct
    (Machine.reaches_endedIf (fun _ _ => of_decide_eq_true) (by decide))⟩

def sharedRun : List TraderEvent :=
  let first : SendCall := { number := 0, account := "alice", nonce := none }
  let second : SendCall := { number := 1, account := "alice", nonce := none }
  [.begins 7, .begins 8, .chooses 7 0, .chooses 8 0, .signs first 0,
    .signs second 0, .submits { first with nonce := some 0 },
    .submits { second with nonce := some 0 }]

theorem nonces_collide_sharedRun :
    ¬ ∀ table state, (trader table).Reachable state →
      (state.pending.map Tx.key).Nodup := by
  intro h
  have hnodup := h sharedOperator ((trader sharedOperator).ended sharedRun)
    (Machine.reachable_ended (by decide))
  exact absurd hnodup (by decide)

end RuntimeBridge.Trade
