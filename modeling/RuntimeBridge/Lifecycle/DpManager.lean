import RuntimeBridge.Library.Machine
import RuntimeBridge.Library.Locks
import RuntimeBridge.Lifecycle.Connection

/-! `getConnection`: its callers share one open connection for each data
provider, under a lock that is polled. -/

namespace RuntimeBridge.Lifecycle

open Library DataProvider

structure BlobServerContext where
  idStr : String
  hostname : String
  port : Nat
  deriving DecidableEq

inductive CallerStatus where
  /-- `wait(0)` of a caller that has found the lock taken. -/
  | polling
  /-- `newConn.waitForConnection()`. -/
  | connecting (conn : Nat)
  /-- `_getConnection` has returned. -/
  | returning (conn : Nat)
  | throwing (error : String)
  | returned (conn : Nat)
  | threw (error : String)
  deriving DecidableEq

/-- The caller has taken the lock and has not released it. -/
def CallerStatus.holds : CallerStatus → Bool
  | .connecting _ => true
  | .returning _ => true
  | .throwing _ => true
  | _ => false

/-- A call of `getConnection`. -/
structure ConnectionCaller where
  ctx : BlobServerContext
  status : CallerStatus
  deriving DecidableEq

structure MadeConnection where
  idStr : String
  connection : Connection

/-- `made` has every connection that was ever constructed; `connections` leads
to the one that is stored for an id. -/
structure DpManager where
  made : List MadeConnection
  connections : String → Option Nat
  locks : String → Bool
  callers : Nat → Option ConnectionCaller

inductive DpManagerEvent where
  /-- A call begins; `constructed` is what the constructor of a connection
  does, if one is needed. -/
  | call (caller : Nat) (ctx : BlobServerContext)
      (constructed : Except String Unit)
  /-- The timer of `wait(0)`. -/
  | wakes (caller : Nat) (constructed : Except String Unit)
  /-- A caller whose promise is settled goes on. -/
  | resumes (caller : Nat)
  | socket (conn : Nat) (event : ConnectionEvent)

namespace DpManager

def create : DpManager where
  made := []
  connections _ := none
  locks _ := false
  callers _ := none

def suspend (manager : DpManager) (caller : Nat) (ctx : BlobServerContext)
    (status : CallerStatus) : DpManager :=
  { manager with
    callers := Function.update manager.callers caller (some { ctx, status }) }

def setLock (manager : DpManager) (idStr : String) (lock : Bool) : DpManager :=
  { manager with locks := Function.update manager.locks idStr lock }

/-- The stored connection, unless it is closed. -/
def openConnection (manager : DpManager) (idStr : String) : Option Nat :=
  (manager.connections idStr).filter fun conn =>
    (manager.made[conn]?).any fun made => !made.connection.closed

/-- A new connection, in the place of the one that is stored. -/
def construct (manager : DpManager) (idStr : String) : DpManager :=
  { manager with
    made := manager.made ++ [{ idStr, connection := .create }]
    connections := Function.update manager.connections idStr
      (some manager.made.length) }

def connectPromise (manager : DpManager) (conn : Nat) : Option (Promise Unit) :=
  (manager.made[conn]?).map fun made => made.connection.connectPromise

def _getConnection (manager : DpManager) (caller : Nat)
    (ctx : BlobServerContext) (constructed : Except String Unit) : DpManager :=
  match manager.openConnection ctx.idStr with
  | some conn => manager.suspend caller ctx (.returning conn)
  | none =>
      match constructed with
      | .error error => manager.suspend caller ctx (.throwing error)
      | .ok () =>
          (manager.construct ctx.idStr).suspend caller ctx
            (.connecting manager.made.length)

def getConnection (manager : DpManager) (caller : Nat)
    (ctx : BlobServerContext) (constructed : Except String Unit) : DpManager :=
  if manager.locks ctx.idStr then
    manager.suspend caller ctx .polling
  else
    (manager.setLock ctx.idStr true)._getConnection caller ctx constructed

/-- What follows the promise that the caller awaits. -/
def resumes (manager : DpManager) (caller : Nat) : Option DpManager :=
  match manager.callers caller with
  | some { ctx, status := .connecting conn } =>
      match manager.connectPromise conn with
      | some (.resolved _) => some (manager.suspend caller ctx (.returning conn))
      | some (.rejected error) =>
          some (manager.suspend caller ctx (.throwing error))
      | _ => none
  | some { ctx, status := .returning conn } =>
      some ((manager.setLock ctx.idStr false).suspend caller ctx
        (.returned conn))
  | some { ctx, status := .throwing error } =>
      some ((manager.setLock ctx.idStr false).suspend caller ctx (.threw error))
  | _ => none

def socket (crc32c : Bytes → UInt32) (manager : DpManager) (conn : Nat)
    (event : ConnectionEvent) : DpManager :=
  { manager with
    made := manager.made.modify conn fun made =>
      { made with connection := made.connection.handle crc32c event } }

def step (crc32c : Bytes → UInt32) (manager : DpManager) :
    DpManagerEvent → Option DpManager
  | .call caller ctx constructed =>
      match manager.callers caller with
      | none => some (manager.getConnection caller ctx constructed)
      | some _ => none
  | .wakes caller constructed =>
      match manager.callers caller with
      | some { ctx, status := .polling } =>
          some (manager.getConnection caller ctx constructed)
      | _ => none
  | .resumes caller => manager.resumes caller
  | .socket conn event => some (manager.socket crc32c conn event)

def machine (crc32c : Bytes → UInt32) : Machine DpManager DpManagerEvent where
  start := create
  step := step crc32c

/-- The id whose lock the caller has to release. -/
def holding (manager : DpManager) (caller : Nat) : Option String :=
  (manager.callers caller).bind fun call =>
    if call.status.holds then some call.ctx.idStr else none

variable {manager : DpManager} {caller : Nat} {ctx : BlobServerContext}
  {status : CallerStatus}

theorem holding_of_callers (h : manager.callers caller = some { ctx, status }) :
    manager.holding caller = if status.holds then some ctx.idStr else none := by
  rw [holding, h, Option.bind_some]

theorem holding_suspend :
    (manager.suspend caller ctx status).holding =
      Function.update manager.holding caller
        (if status.holds then some ctx.idStr else none) := by
  funext other
  rcases eq_or_ne other caller with rfl | hne
  · rw [Function.update_self]
    exact holding_of_callers (Function.update_self ..)
  · rw [Function.update_of_ne hne]
    exact congrArg (Option.bind · _) (Function.update_of_ne hne ..)

end DpManager

/-- Whoever waits for a connection waits for one that was made. -/
def Awaited (callers : Nat → Option ConnectionCaller) (made : Nat) : Prop :=
  ∀ caller ctx conn,
    callers caller = some { ctx, status := .connecting conn } → conn < made

theorem Awaited.update {callers : Nat → Option ConnectionCaller} {made caller : Nat}
    {ctx : BlobServerContext} {status : CallerStatus}
    (h : Awaited callers made)
    (awaits : ∀ conn, status = .connecting conn → conn < made) :
    Awaited (Function.update callers caller (some { ctx, status })) made := by
  intro other context conn hother
  rcases update_some_cases hother with ⟨_, hcall⟩ | ⟨_, hcall⟩
  · cases hcall
    exact awaits conn rfl
  · exact h other context conn hcall

namespace DpManager

/-- What holds of the connections and of the callers, whatever they do. -/
structure Safe (manager : DpManager) : Prop where
  exclusive : Exclusive manager.locks manager.holding
  stored : ∀ conn made, manager.made[conn]? = some made →
    made.connection.closed = false → manager.connections made.idStr = some conn
  told : ∀ made ∈ manager.made, made.connection.Told
  awaited : Awaited manager.callers manager.made.length

theorem safe_create : create.Safe where
  exclusive := Exclusive.unlocked
  stored conn made h := by cases h
  told made h := by cases h
  awaited caller ctx conn h := by cases h

namespace Safe

variable {manager : DpManager} {caller : Nat} {ctx : BlobServerContext}
  {status : CallerStatus}

theorem suspend (h : manager.Safe)
    (held : manager.holding caller =
      if status.holds then some ctx.idStr else none)
    (awaits : ∀ conn, status = .connecting conn → conn < manager.made.length) :
    (manager.suspend caller ctx status).Safe where
  exclusive := by
    rw [holding_suspend]
    exact h.exclusive.keep held
  stored := h.stored
  told := h.told
  awaited := h.awaited.update awaits

theorem take (h : manager.Safe) (idle : manager.holding caller = none)
    (free : manager.locks ctx.idStr = false) (holds : status.holds = true)
    (awaits : ∀ conn, status = .connecting conn → conn < manager.made.length) :
    ((manager.setLock ctx.idStr true).suspend caller ctx status).Safe where
  exclusive := by
    rw [holding_suspend, if_pos holds]
    exact h.exclusive.take free idle
  stored := h.stored
  told := h.told
  awaited := h.awaited.update awaits

theorem release (h : manager.Safe) (held : manager.holding caller = some ctx.idStr)
    (ended : status.holds = false) :
    ((manager.setLock ctx.idStr false).suspend caller ctx status).Safe where
  exclusive := by
    rw [holding_suspend, if_neg (Bool.eq_false_iff.mp ended)]
    exact h.exclusive.release held
  stored := h.stored
  told := h.told
  awaited := h.awaited.update fun conn hconn => by
    rw [hconn] at ended
    cases ended

/-- The connection that is replaced is closed. -/
theorem construct (h : manager.Safe)
    (hnone : manager.openConnection ctx.idStr = none) :
    (manager.construct ctx.idStr).Safe where
  exclusive := h.exclusive
  stored conn made hmade hopen := by
    rcases getElem?_concat_cases hmade with hold | ⟨rfl, rfl⟩
    · have hstored := h.stored conn made hold hopen
      refine (Function.update_of_ne ?_ ..).trans hstored
      intro heq
      rw [openConnection, ← heq, hstored, Option.filter_some_eq_none, hold,
        Option.any_some, hopen] at hnone
      exact hnone rfl
    · exact Function.update_self ..
  told made hmade := by
    rcases List.mem_append.mp hmade with hold | hnew
    · exact h.told made hold
    · cases List.mem_singleton.mp hnew
      exact Connection.told_create
  awaited caller ctx conn hcaller := by
    have hmade := h.awaited caller ctx conn hcaller
    rw [DpManager.construct, List.length_append]
    exact Nat.lt_add_right _ hmade

theorem getConnection (h : manager.Safe)
    (idle : manager.holding caller = none)
    (constructed : Except String Unit) :
    (manager.getConnection caller ctx constructed).Safe := by
  unfold DpManager.getConnection
  split
  · exact h.suspend idle nofun
  · next hfree =>
      have free := Bool.eq_false_iff.mpr hfree
      unfold _getConnection
      split
      · exact h.take idle free rfl nofun
      · next hnone =>
          cases constructed with
          | error error => exact h.take idle free rfl nofun
          | ok value =>
              refine (h.construct hnone).take idle free rfl ?_
              intro conn hconn
              cases hconn
              rw [DpManager.construct, List.length_append]
              exact Nat.lt_add_one _

theorem resumes {after : DpManager} (h : manager.Safe)
    (hstep : manager.resumes caller = some after) : after.Safe := by
  unfold DpManager.resumes at hstep
  split at hstep
  · next ctx conn hcaller =>
      have held := holding_of_callers hcaller
      split at hstep
      · cases hstep
        exact h.suspend held nofun
      · cases hstep
        exact h.suspend held nofun
      · contradiction
  · next ctx conn hcaller =>
      cases hstep
      exact h.release (holding_of_callers hcaller) rfl
  · next ctx error hcaller =>
      cases hstep
      exact h.release (holding_of_callers hcaller) rfl
  · contradiction

theorem socket (h : manager.Safe) (crc32c : Bytes → UInt32) (conn : Nat)
    (event : ConnectionEvent) : (manager.socket crc32c conn event).Safe where
  exclusive := h.exclusive
  stored other made hmade hopen := by
    obtain ⟨old, hold, ⟨rfl, rfl⟩ | ⟨_, rfl⟩⟩ := getElem?_modify_cases hmade
    · rw [Connection.closed_handle, Bool.or_eq_false_iff] at hopen
      exact h.stored _ old hold hopen.1
    · exact h.stored other _ hold hopen
  told made hmade := by
    obtain ⟨other, hother⟩ := List.mem_iff_getElem?.mp hmade
    obtain ⟨old, hold, ⟨_, rfl⟩ | ⟨_, rfl⟩⟩ := getElem?_modify_cases hother
    · exact (h.told old (List.mem_of_getElem? hold)).handle crc32c event
    · exact h.told _ (List.mem_of_getElem? hold)
  awaited caller ctx conn' hcaller := by
    rw [DpManager.socket, List.length_modify]
    exact h.awaited caller ctx conn' hcaller

end Safe

theorem safe_preserves (crc32c : Bytes → UInt32) :
    (machine crc32c).Preserves Machine.anyEvent Safe := by
  intro before event after _ h hstep
  cases event with
  | call caller ctx constructed =>
      simp only [machine, step] at hstep
      split at hstep
      · next hcaller =>
          cases hstep
          refine h.getConnection ?_ constructed
          rw [holding, hcaller, Option.bind_none]
      · contradiction
  | wakes caller constructed =>
      simp only [machine, step] at hstep
      split at hstep
      · next ctx hcaller =>
          cases hstep
          exact h.getConnection (holding_of_callers hcaller) constructed
      · contradiction
  | resumes caller => exact h.resumes hstep
  | socket conn event =>
      cases hstep
      exact h.socket crc32c conn event

theorem safe_of_reachable {crc32c : Bytes → UInt32} {manager : DpManager}
    (h : (machine crc32c).Reachable manager) : manager.Safe :=
  (safe_preserves crc32c).reaches safe_create h

variable {manager : DpManager} {caller : Nat} {ctx : BlobServerContext}

def IsOpen (manager : DpManager) (idStr : String) (conn : Nat) : Prop :=
  ∃ made, manager.made[conn]? = some made ∧ made.idStr = idStr ∧
    made.connection.closed = false

/-- The caller waits for a connection that has neither connected nor failed. -/
def Connecting (manager : DpManager) (caller : Nat) : Prop :=
  ∃ ctx conn made,
    manager.callers caller = some { ctx, status := .connecting conn } ∧
      manager.made[conn]? = some made ∧ made.connection.closed = false ∧
      made.connection.connectPromise = .pending

/-- The lock can become free by steps of the caller alone. -/
def Releases (crc32c : Bytes → UInt32) (manager : DpManager) (caller : Nat)
    (idStr : String) : Prop :=
  ∃ after, (machine crc32c).Leads (fun _ event => event = .resumes caller)
      manager after ∧ after.locks idStr = false ∧ after.holding caller = none

theorem releases_of_resumes (crc32c : Bytes → UInt32) {status : CallerStatus}
    (ended : status.holds = false)
    (h : manager.resumes caller = some
      ((manager.setLock ctx.idStr false).suspend caller ctx status)) :
    manager.Releases crc32c caller ctx.idStr := by
  refine ⟨(manager.setLock ctx.idStr false).suspend caller ctx status,
    Machine.Next.leads ⟨.resumes caller, rfl, h⟩, Function.update_self .., ?_⟩
  rw [holding_suspend, if_neg (Bool.eq_false_iff.mp ended)]
  exact Function.update_self ..

theorem releases_returning (crc32c : Bytes → UInt32) {conn : Nat}
    (h : manager.callers caller = some { ctx, status := .returning conn }) :
    manager.Releases crc32c caller ctx.idStr :=
  @releases_of_resumes manager caller ctx crc32c (.returned conn) rfl (by
    simp only [resumes, h])

theorem releases_throwing (crc32c : Bytes → UInt32) {error : String}
    (h : manager.callers caller = some { ctx, status := .throwing error }) :
    manager.Releases crc32c caller ctx.idStr :=
  @releases_of_resumes manager caller ctx crc32c (.threw error) rfl (by
    simp only [resumes, h])

theorem Releases.behind {crc32c : Bytes → UInt32} {next : DpManager}
    {idStr : String} (hstep : manager.resumes caller = some next)
    (h : next.Releases crc32c caller idStr) :
    manager.Releases crc32c caller idStr := by
  obtain ⟨after, hleads, hafter⟩ := h
  have hnext : (machine crc32c).Next
      (fun _ event => event = .resumes caller) manager next :=
    ⟨.resumes caller, rfl, hstep⟩
  exact ⟨after, hnext.leads.trans hleads, hafter⟩

theorem releases_connecting (crc32c : Bytes → UInt32) {conn : Nat}
    {promise : Promise Unit}
    (h : manager.callers caller = some { ctx, status := .connecting conn })
    (hpromise : manager.connectPromise conn = some promise)
    (settled : promise.isSettled = true) :
    manager.Releases crc32c caller ctx.idStr := by
  cases promise with
  | pending => cases settled
  | resolved value =>
      have hstep : manager.resumes caller =
          some (manager.suspend caller ctx (.returning conn)) := by
        simp only [resumes, h, hpromise]
      exact Releases.behind hstep
        (releases_returning crc32c (Function.update_self ..))
  | rejected error =>
      have hstep : manager.resumes caller =
          some (manager.suspend caller ctx (.throwing error)) := by
        simp only [resumes, h, hpromise]
      exact Releases.behind hstep
        (releases_throwing crc32c (Function.update_self ..))

/-- The holder of a lock releases it, unless it still connects. -/
theorem Safe.releases (h : manager.Safe) (crc32c : Bytes → UInt32)
    {idStr : String} (held : manager.holding caller = some idStr) :
    manager.Connecting caller ∨ manager.Releases crc32c caller idStr := by
  obtain ⟨⟨ctx, status⟩, hcaller, hid⟩ := Option.bind_eq_some_iff.mp held
  cases status with
  | connecting conn =>
      cases hid
      have hmade := h.awaited caller ctx conn hcaller
      have hconn := List.getElem?_eq_getElem hmade
      cases hclosed : manager.made[conn].connection.closed with
      | true =>
          exact Or.inr (releases_connecting crc32c hcaller
            (congrArg (Option.map _) hconn)
            (h.told _ (List.getElem_mem hmade) hclosed))
      | false =>
          cases hsettled : manager.made[conn].connection.connectPromise.isSettled
          with
          | true =>
              exact Or.inr (releases_connecting crc32c hcaller
                (congrArg (Option.map _) hconn) hsettled)
          | false =>
              exact Or.inl ⟨ctx, conn, _, hcaller, hconn, hclosed,
                Promise.pending_of_not_settled hsettled⟩
  | returning conn =>
      cases hid
      exact Or.inr (releases_returning crc32c hcaller)
  | throwing error =>
      cases hid
      exact Or.inr (releases_throwing crc32c hcaller)
  | polling => cases hid
  | returned conn => cases hid
  | threw error => cases hid

theorem holding_getConnection (free : manager.locks ctx.idStr = false)
    (constructed : Except String Unit) :
    (manager.getConnection caller ctx constructed).holding caller =
      some ctx.idStr := by
  rw [getConnection, if_neg (Bool.eq_false_iff.mp free)]
  unfold _getConnection
  split
  · rw [holding_suspend]
    exact Function.update_self ..
  · cases constructed with
    | error error =>
        rw [holding_suspend]
        exact Function.update_self ..
    | ok value =>
        rw [holding_suspend]
        exact Function.update_self ..

/-- In every reachable state, an id has at most one open connection and at most
one caller that holds its lock, which goes on to release it as soon as the
connection has connected or failed. -/
theorem one_connection {crc32c : Bytes → UInt32}
    (h : (machine crc32c).Reachable manager) :
    (∀ idStr first second, manager.IsOpen idStr first →
      manager.IsOpen idStr second → first = second) ∧
    (∀ first second idStr, manager.holding first = some idStr →
      manager.holding second = some idStr → first = second) ∧
    (∀ idStr, manager.locks idStr = true ↔
      ∃ caller, manager.holding caller = some idStr) ∧
    (∀ caller idStr, manager.holding caller = some idStr →
      manager.Connecting caller ∨ manager.Releases crc32c caller idStr) ∧
    ∀ caller ctx constructed, manager.locks ctx.idStr = false →
      (manager.getConnection caller ctx constructed).holding caller =
        some ctx.idStr := by
  have hsafe := safe_of_reachable h
  refine ⟨?_, hsafe.exclusive.alone, hsafe.exclusive.locked_iff,
    fun _ _ held => hsafe.releases crc32c held,
    fun _ _ constructed free => holding_getConnection free constructed⟩
  rintro idStr first second ⟨made, hfirst, rfl, hopen⟩
    ⟨other, hsecond, hid, hother⟩
  have hstored := hsafe.stored second other hsecond hother
  rw [hid, hsafe.stored first made hfirst hopen] at hstored
  exact Option.some.inj hstored

/-- The first connection is refused, and the caller that polls makes another. -/
def refusedOnce : List DpManagerEvent :=
  let ctx := { idStr := "peer", hostname := "10.0.0.1", port := 8012 }
  [.call 0 ctx (.ok ()), .call 1 ctx (.ok ()), .socket 0 (.error "ECONNREFUSED"),
    .resumes 0, .resumes 0, .wakes 1 (.ok ())]

theorem one_connection_refusedOnce :
    ((machine fun _ => 0).ended refusedOnce).holding 1 = some "peer" ∧
      ∀ other, ((machine fun _ => 0).ended refusedOnce).holding other =
        some "peer" → other = 1 :=
  ⟨by decide +kernel, fun other held =>
    (one_connection (Machine.reachable_ended (by decide +kernel))).2.1 other 1
      "peer" held (by decide +kernel)⟩

end DpManager

end RuntimeBridge.Lifecycle
