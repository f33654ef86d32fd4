import Mathlib.Data.List.Nodup
import RuntimeBridge.DataProvider.Block
import RuntimeBridge.Library.Machine
import RuntimeBridge.Library.PriorityQueue
import RuntimeBridge.Library.Update

/-! The requests to the pRuntimes: `createRpcClient` and `wrapRequest` of
`utils/prpc`, which share one queue for each endpoint. -/

namespace RuntimeBridge.Lifecycle

open Library DataProvider
open PriorityQueue (atLevel)

inductive PrpcMethod where
  /-- A method of the client of `createRpcClient`. -/
  | phactory (name : String)
  /-- A resource of `wrapRequest`, and the priority it is asked for with. -/
  | resource (path : String) (priority : Nat)
  deriving DecidableEq, Repr

/-- The client leaves the priority to `runtimeRequest`. -/
def PrpcMethod.priority : PrpcMethod → Nat
  | .phactory _ => 1000
  | .resource _ priority => priority

structure PrpcCall where
  id : Nat
  endpoint : String
  method : PrpcMethod
  body : Bytes
  deriving DecidableEq

def PrpcCall.priority (call : PrpcCall) : Nat := call.method.priority

def PrpcCall.url (call : PrpcCall) : String :=
  match call.method with
  | .phactory name => call.endpoint ++ "/prpc/PhactoryAPI." ++ name
  | .resource path _ => call.endpoint ++ path

/-- The JSON that a resource answers.  A value that is no object has neither. -/
structure Envelope where
  status : Option String
  payload : Option String
  deriving DecidableEq

structure PrpcCodec where
  /-- The message of `PrpcError.decode`. -/
  decodeError : Bytes → Except String String
  /-- A `json` response, unless it is `null`. -/
  parseBody : Bytes → Option Envelope
  /-- `JSON.parse` -/
  parse : String → Except String String

inductive HttpAnswer where
  | response (status : Nat) (body : Bytes)
  /-- A timeout, or a lost connection. -/
  | fails (error : String)
  deriving DecidableEq

inductive PrpcResult where
  | data (body : Bytes)
  | payload (status : Option String) (payload : String)
  | throws (error : String)
  /-- With `isRuntimeReturnedError`. -/
  | runtimeError (status : Option String) (payload : String)
  deriving DecidableEq

/-- The instance leaves `validateStatus` as it is. -/
def axiosRequest : HttpAnswer → Except String (Nat × Bytes)
  | .response status body =>
      if 200 ≤ status ∧ status < 300 then
        .ok (status, body)
      else
        .error ("Request failed with status code " ++ toString status)
  | .fails error => .error error

namespace PrpcCodec

variable (codec : PrpcCodec)

def rpcResult (answer : HttpAnswer) : PrpcResult :=
  match axiosRequest answer with
  | .error error => .throws error
  | .ok (status, body) =>
      if status = 200 then
        .data body
      else
        match codec.decodeError body with
        | .ok message => .throws message
        | .error error => .throws error

def requestResult (answer : HttpAnswer) : PrpcResult :=
  match axiosRequest answer with
  | .error error => .throws error
  | .ok (_, body) =>
      match codec.parseBody body with
      | none => .throws "Cannot read properties of null (reading 'payload')"
      | some data =>
          -- `JSON.parse` makes a text of a payload that is missing.
          match codec.parse (data.payload.getD "undefined") with
          | .error error => .throws error
          | .ok payload =>
              if data.status = some "ok" then
                .payload data.status payload
              else
                .runtimeError data.status payload

def result : PrpcMethod → HttpAnswer → PrpcResult
  | .phactory _ => codec.rpcResult
  | .resource _ _ => codec.requestResult

end PrpcCodec

abbrev ClientQueue := PriorityQueue PrpcCall.priority

structure Prpc where
  calls : List PrpcCall
  queueStore : String → Option ClientQueue
  /-- The calls that `axiosInstance.request` was made for. -/
  sent : List PrpcCall
  results : Nat → Option PrpcResult

inductive PrpcEvent where
  | call (endpoint : String) (method : PrpcMethod) (body : Bytes)
  | answers (call : PrpcCall) (answer : HttpAnswer)
  deriving DecidableEq

namespace Prpc

def getQueue (prpc : Prpc) (endpoint : String) : ClientQueue :=
  (prpc.queueStore endpoint).getD (.idle 1)

def setQueue (prpc : Prpc) (endpoint : String) (queue : ClientQueue)
    (started : Option PrpcCall) : Prpc :=
  { prpc with
    queueStore := Function.update prpc.queueStore endpoint (some queue)
    sent := prpc.sent ++ started.toList }

def runtimeRequest (prpc : Prpc) (call : PrpcCall) : Prpc :=
  let added := (prpc.getQueue call.endpoint).add call
  { prpc.setQueue call.endpoint added.1 added.2 with
    calls := prpc.calls ++ [call] }

def answers (codec : PrpcCodec) (prpc : Prpc) (call : PrpcCall)
    (answer : HttpAnswer) : Prpc :=
  let finished := (prpc.getQueue call.endpoint).finish call
  { prpc.setQueue call.endpoint finished.1 finished.2 with
    results := Function.update prpc.results call.id
      (some (codec.result call.method answer)) }

def step (codec : PrpcCodec) (prpc : Prpc) : PrpcEvent → Option Prpc
  | .call endpoint method body =>
      some (prpc.runtimeRequest
        { id := prpc.calls.length, endpoint, method, body })
  | .answers call answer =>
      if call ∈ (prpc.getQueue call.endpoint).running then
        some (prpc.answers codec call answer)
      else
        none

end Prpc

def prpcMachine (codec : PrpcCodec) : Machine Prpc PrpcEvent where
  start :=
    { calls := []
      queueStore := fun _ => none
      sent := []
      results := fun _ => none }
  step := Prpc.step codec

def ofEndpoint (endpoint : String) (calls : List PrpcCall) : List PrpcCall :=
  calls.filter fun call => call.endpoint = endpoint

/-- Calls of one priority are sent in order, and all calls that were sent are
answered, but the last one. -/
structure Serialized (prpc : Prpc) (endpoint : String) : Prop where
  order : ∀ level,
    atLevel PrpcCall.priority level (ofEndpoint endpoint prpc.sent) <+:
      atLevel PrpcCall.priority level (ofEndpoint endpoint prpc.calls)
  current : ∃ answered, ∃ current : Option PrpcCall,
    ofEndpoint endpoint prpc.sent = answered ++ current.toList ∧
      (∀ call ∈ answered, (prpc.results call.id).isSome = true) ∧
      (∀ call ∈ current, prpc.results call.id = none) ∧
      (current = none →
        (ofEndpoint endpoint prpc.calls).Perm (ofEndpoint endpoint prpc.sent))

structure EndpointOk (prpc : Prpc) (endpoint : String) : Prop where
  single : (prpc.getQueue endpoint).concurrency = 1
  line : ∃ answered,
    ofEndpoint endpoint prpc.sent =
        answered ++ (prpc.getQueue endpoint).running ∧
      (ofEndpoint endpoint prpc.calls).Perm
        (answered ++ (prpc.getQueue endpoint).tasks) ∧
      (∀ level, atLevel PrpcCall.priority level
          (ofEndpoint endpoint prpc.calls) =
        atLevel PrpcCall.priority level
          (answered ++ (prpc.getQueue endpoint).tasks)) ∧
      ∀ call ∈ answered, (prpc.results call.id).isSome = true
  fresh : ∀ call ∈ (prpc.getQueue endpoint).tasks, prpc.results call.id = none

structure PrpcOk (prpc : Prpc) : Prop where
  ids : prpc.calls.map (·.id) = List.range prpc.calls.length
  unmade : ∀ id, prpc.calls.length ≤ id → prpc.results id = none
  endpoints : ∀ endpoint, EndpointOk prpc endpoint

variable {codec : PrpcCodec} {prpc after : Prpc} {event : PrpcEvent}
  {call other : PrpcCall} {endpoint : String}
  {started : Option PrpcCall}

theorem ofEndpoint_append (left right : List PrpcCall) :
    ofEndpoint endpoint (left ++ right) =
      ofEndpoint endpoint left ++ ofEndpoint endpoint right :=
  List.filter_append _ _

theorem ofEndpoint_self (calls : List PrpcCall)
    (h : ∀ call ∈ calls, call.endpoint = endpoint) :
    ofEndpoint endpoint calls = calls := by
  rw [ofEndpoint, List.filter_eq_self]
  exact fun call hcall => decide_eq_true (h call hcall)

theorem ofEndpoint_other (calls : List PrpcCall)
    (h : ∀ call ∈ calls, call.endpoint ≠ endpoint) :
    ofEndpoint endpoint calls = [] := by
  rw [ofEndpoint, List.filter_eq_nil_iff]
  exact fun call hcall heq => h call hcall (of_decide_eq_true heq)

namespace Prpc

theorem getQueue_setQueue (prpc : Prpc) (endpoint : String)
    (queue : ClientQueue) (started : Option PrpcCall) :
    (prpc.setQueue endpoint queue started).getQueue endpoint = queue := by
  simp [getQueue, setQueue]

theorem getQueue_setQueue_other (prpc : Prpc) (queue : ClientQueue)
    (started : Option PrpcCall) {different : String}
    (h : different ≠ endpoint) :
    (prpc.setQueue endpoint queue started).getQueue different =
      prpc.getQueue different := by
  simp [getQueue, setQueue, h]

theorem getQueue_runtimeRequest (prpc : Prpc) (call : PrpcCall) :
    (prpc.runtimeRequest call).getQueue call.endpoint =
      ((prpc.getQueue call.endpoint).add call).1 :=
  prpc.getQueue_setQueue _ _ ((prpc.getQueue call.endpoint).add call).2

theorem getQueue_answers (prpc : Prpc) (call : PrpcCall)
    (answer : HttpAnswer) :
    (prpc.answers codec call answer).getQueue call.endpoint =
      ((prpc.getQueue call.endpoint).finish call).1 :=
  prpc.getQueue_setQueue _ _ ((prpc.getQueue call.endpoint).finish call).2

end Prpc

theorem ofEndpoint_started (calls : List PrpcCall)
    (h : ∀ call ∈ started, call.endpoint = endpoint) :
    ofEndpoint endpoint (calls ++ started.toList) =
      ofEndpoint endpoint calls ++ started.toList := by
  rw [ofEndpoint_append, ofEndpoint_self started.toList]
  exact fun call hcall => h call (Option.mem_toList.mp hcall)

theorem ofEndpoint_started_other (calls : List PrpcCall) {different : String}
    (h : ∀ call ∈ started, call.endpoint = endpoint)
    (hne : endpoint ≠ different) :
    ofEndpoint different (calls ++ started.toList) =
      ofEndpoint different calls := by
  rw [ofEndpoint_append, ofEndpoint_other started.toList, List.append_nil]
  intro call hcall
  rw [h call (Option.mem_toList.mp hcall)]
  exact hne

namespace EndpointOk

theorem mem_tasks (h : EndpointOk prpc endpoint)
    (member : call ∈ (prpc.getQueue endpoint).tasks) :
    call ∈ prpc.calls ∧ call.endpoint = endpoint := by
  obtain ⟨answered, -, hcalls, -⟩ := h.line
  have hcall : call ∈ ofEndpoint endpoint prpc.calls :=
    hcalls.mem_iff.mpr (List.mem_append_right _ member)
  obtain ⟨hmade, hendpoint⟩ := List.mem_filter.mp hcall
  exact ⟨hmade, of_decide_eq_true hendpoint⟩

theorem waits (h : EndpointOk prpc endpoint) (made : call ∈ prpc.calls)
    (own : call.endpoint = endpoint) (unsent : call ∉ prpc.sent) :
    call ∈ (prpc.getQueue endpoint).waiting := by
  obtain ⟨answered, hsent, hcalls, -⟩ := h.line
  have hmember : call ∈ answered ++ (prpc.getQueue endpoint).tasks :=
    hcalls.mem_iff.mp (List.mem_filter.mpr ⟨made, decide_eq_true own⟩)
  rw [PQueue.tasks, ← List.append_assoc, ← hsent] at hmember
  rcases List.mem_append.mp hmember with hold | hwaits
  · exact absurd (List.mem_filter.mp hold).1 unsent
  · exact hwaits

/-- What concerns another endpoint. -/
theorem frame (h : EndpointOk prpc endpoint)
    (queue : after.getQueue endpoint = prpc.getQueue endpoint)
    (sent : ofEndpoint endpoint after.sent = ofEndpoint endpoint prpc.sent)
    (calls : ofEndpoint endpoint after.calls = ofEndpoint endpoint prpc.calls)
    (kept : ∀ id, (prpc.results id).isSome = true →
      (after.results id).isSome = true)
    (fresh : ∀ call ∈ (prpc.getQueue endpoint).tasks,
      after.results call.id = none) :
    EndpointOk after endpoint where
  single := by rw [queue]; exact h.single
  line := by
    rw [queue, sent, calls]
    obtain ⟨answered, hsent, hcalls, hlevels, hanswered⟩ := h.line
    exact ⟨answered, hsent, hcalls, hlevels, fun call hcall =>
      kept call.id (hanswered call hcall)⟩
  fresh := by rw [queue]; exact fresh

theorem serialized (h : EndpointOk prpc endpoint) :
    Serialized prpc endpoint := by
  obtain ⟨answered, hsent, hcalls, hlevels, hanswered⟩ := h.line
  constructor
  · intro level
    rw [hsent, hlevels, PQueue.tasks, ← List.append_assoc,
      PriorityQueue.atLevel_append _ (answered ++ _)]
    exact List.prefix_append _ _
  · cases hrunning : (prpc.getQueue endpoint).running with
    | nil =>
        rw [hrunning, List.append_nil] at hsent
        refine ⟨answered, none, ?_, hanswered, ?_, fun _ => ?_⟩
        · rw [hsent]
          exact (List.append_nil _).symm
        · exact fun call hcall => by cases hcall
        · have hwaiting : (prpc.getQueue endpoint).waiting = [] := by
            by_contra hne
            have hbusy := (prpc.getQueue endpoint).busy hne
            rw [h.single, hrunning] at hbusy
            cases hbusy
          rw [PQueue.tasks, hrunning, hwaiting, List.append_nil,
            List.append_nil] at hcalls
          rw [hsent]
          exact hcalls
    | cons current rest =>
        have hmember : current ∈ (prpc.getQueue endpoint).running := by
          rw [hrunning]
          exact List.mem_cons_self
        rw [PQueue.running_eq h.single hmember] at hsent
        refine ⟨answered, some current, hsent, hanswered, ?_, ?_⟩
        · intro call hcall
          cases hcall
          exact h.fresh current (PQueue.mem_tasks.mpr (Or.inl hmember))
        · exact fun hnone => by cases hnone

end EndpointOk

namespace PrpcOk

theorem nodup_ids (h : PrpcOk prpc) : (prpc.calls.map (·.id)).Nodup := by
  rw [h.ids]
  exact List.nodup_range

theorem eq_of_id (h : PrpcOk prpc) (hcall : call ∈ prpc.calls)
    (hother : other ∈ prpc.calls) (same : call.id = other.id) :
    call = other :=
  List.inj_on_of_nodup_map h.nodup_ids hcall hother same

theorem not_waiting (h : PrpcOk prpc)
    (running : call ∈ (prpc.getQueue endpoint).running) :
    call ∉ (prpc.getQueue endpoint).waiting := by
  intro hwaiting
  obtain ⟨answered, -, hcalls, -⟩ := (h.endpoints endpoint).line
  have hnodup : (ofEndpoint endpoint prpc.calls).Nodup :=
    (List.Nodup.of_map _ h.nodup_ids).filter _
  rw [hcalls.nodup_iff] at hnodup
  exact (List.nodup_append.mp (List.nodup_append.mp hnodup).2.1).2.2
    call running call hwaiting rfl

theorem id_lt (h : PrpcOk prpc) (hcall : call ∈ prpc.calls) :
    call.id < prpc.calls.length := by
  have hid : call.id ∈ prpc.calls.map (·.id) := List.mem_map_of_mem hcall
  rw [h.ids] at hid
  exact List.mem_range.mp hid

theorem runtimeRequest (h : PrpcOk prpc) (new : call.id = prpc.calls.length) :
    PrpcOk (prpc.runtimeRequest call) := by
  have hstarted : ∀ started ∈ ((prpc.getQueue call.endpoint).add call).2,
      started.endpoint = call.endpoint := fun started hstarted => by
    rw [(PriorityQueue.add_started hstarted).1]
  refine
    { ids := ?_, unmade := fun id hid => ?_, endpoints := fun endpoint => ?_ }
  · simp only [Prpc.runtimeRequest, List.map_append, h.ids, List.map_cons,
      List.map_nil, new, List.length_append, List.length_singleton,
      List.range_succ]
  · refine h.unmade id (Nat.le_of_succ_le ?_)
    simpa [Prpc.runtimeRequest] using hid
  · have hendpoint := h.endpoints endpoint
    by_cases hsame : call.endpoint = endpoint
    · subst hsame
      obtain ⟨answered, hsent, hcalls, hlevels, hanswered⟩ := hendpoint.line
      have hqueue := prpc.getQueue_runtimeRequest call
      have hcall : ofEndpoint call.endpoint (prpc.runtimeRequest call).calls =
          ofEndpoint call.endpoint prpc.calls ++ [call] := by
        simp only [Prpc.runtimeRequest, ofEndpoint_append]
        rw [ofEndpoint_self [call]]
        exact fun other hother => by rw [List.mem_singleton.mp hother]
      refine
        { single := ?_, line := ⟨answered, ?_, ?_, fun level => ?_, hanswered⟩
          fresh := ?_ }
      · rw [hqueue, PriorityQueue.add_concurrency]
        exact hendpoint.single
      · rw [hqueue, PriorityQueue.add_running, ← List.append_assoc, ← hsent]
        exact ofEndpoint_started prpc.sent hstarted
      · rw [hqueue, hcall]
        refine (List.perm_append_singleton _ _).trans ?_
        refine (hcalls.cons call).trans (List.perm_middle.symm.trans ?_)
        exact ((prpc.getQueue call.endpoint).perm_tasks_add call).symm.append_left
          answered
      · rw [hqueue, hcall]
        simp only [PriorityQueue.atLevel_append, PriorityQueue.atLevel_tasks_add,
          hlevels, List.append_assoc]
      · rw [hqueue]
        intro other hother
        have hother := ((prpc.getQueue call.endpoint).perm_tasks_add call).mem_iff.mp
          hother
        rcases List.mem_cons.mp hother with rfl | hold
        · rw [new]
          exact h.unmade _ (Nat.le_refl _)
        · exact hendpoint.fresh other hold
    · refine hendpoint.frame ?_ ?_ ?_ (fun _ hsome => hsome) hendpoint.fresh
      · exact prpc.getQueue_setQueue_other _
          ((prpc.getQueue call.endpoint).add call).2 fun heq => hsame heq.symm
      · exact ofEndpoint_started_other prpc.sent hstarted hsame
      · simp only [Prpc.runtimeRequest, ofEndpoint_append]
        rw [ofEndpoint_other [call], List.append_nil]
        exact fun other hother => by
          rw [List.mem_singleton.mp hother]
          exact hsame

theorem answers (h : PrpcOk prpc) (answer : HttpAnswer)
    (running : call ∈ (prpc.getQueue call.endpoint).running) :
    PrpcOk (prpc.answers codec call answer) := by
  have hcalled := h.endpoints call.endpoint
  have hmade := (hcalled.mem_tasks (PQueue.mem_tasks.mpr (Or.inl running))).1
  have hrunning := PQueue.running_eq hcalled.single running
  have hfifo := (prpc.getQueue call.endpoint).finish_fifo call
  have hstarted : ∀ started ∈ ((prpc.getQueue call.endpoint).finish call).2,
      started.endpoint = call.endpoint := by
    intro started hstarted
    refine (hcalled.mem_tasks (PQueue.mem_tasks.mpr (Or.inr ?_))).2
    rw [← hfifo]
    exact List.mem_append_left _ (Option.mem_toList.mpr hstarted)
  have hresult : ∀ id, id ≠ call.id →
      (prpc.answers codec call answer).results id = prpc.results id :=
    fun id hne => Function.update_of_ne hne _ _
  refine
    { ids := h.ids, unmade := fun id hid => ?_, endpoints := fun endpoint => ?_ }
  · have hlt := h.id_lt hmade
    have hlater : prpc.calls.length ≤ id := hid
    rw [hresult id (by omega)]
    exact h.unmade id hid
  · have hendpoint := h.endpoints endpoint
    by_cases hsame : call.endpoint = endpoint
    · subst hsame
      obtain ⟨answered, hsent, hcalls, hlevels, hanswered⟩ := hendpoint.line
      have hqueue : (prpc.answers codec call answer).getQueue call.endpoint =
          ((prpc.getQueue call.endpoint).finish call).1 :=
        prpc.getQueue_answers call answer
      have hnext : ((prpc.getQueue call.endpoint).finish call).1.running =
          ((prpc.getQueue call.endpoint).finish call).2.toList :=
        PQueue.finish_single hendpoint.single running
      have htasks : ((prpc.getQueue call.endpoint).finish call).1.tasks =
          (prpc.getQueue call.endpoint).waiting := by
        rw [PQueue.tasks, hnext]
        exact hfifo
      have hline : answered ++ [call] ++ (prpc.getQueue call.endpoint).waiting =
          answered ++ (prpc.getQueue call.endpoint).tasks := by
        rw [PQueue.tasks, hrunning, List.append_assoc]
      refine
        { single := ?_
          line := ⟨answered ++ [call], ?_, ?_, fun level => ?_, ?_⟩
          fresh := ?_ }
      · rw [hqueue]
        exact ((prpc.getQueue call.endpoint).toPQueue.finish_concurrency
          call).trans hendpoint.single
      · rw [hqueue, hnext, ← hrunning, ← hsent]
        exact ofEndpoint_started prpc.sent hstarted
      · rw [hqueue, htasks, hline]
        exact hcalls
      · rw [hqueue, htasks, hline]
        exact hlevels level
      · intro other hother
        rcases List.mem_append.mp hother with hold | hnew
        · exact update_isSome (hanswered other hold)
        · rw [List.mem_singleton.mp hnew]
          simp [Prpc.answers]
      · rw [hqueue, htasks]
        intro other hother
        have hwaits : other ∈ (prpc.getQueue call.endpoint).tasks :=
          PQueue.mem_tasks.mpr (Or.inr hother)
        rw [hresult other.id]
        · exact hendpoint.fresh other hwaits
        · intro hid
          rw [h.eq_of_id (hendpoint.mem_tasks hwaits).1 hmade hid] at hother
          exact h.not_waiting running hother
    · refine hendpoint.frame ?_ ?_ rfl (fun _ => update_isSome) ?_
      · exact prpc.getQueue_setQueue_other _
          ((prpc.getQueue call.endpoint).finish call).2
          fun heq => hsame heq.symm
      · exact ofEndpoint_started_other prpc.sent hstarted hsame
      · intro other hother
        obtain ⟨hothers, hown⟩ := hendpoint.mem_tasks hother
        rw [hresult other.id]
        · exact hendpoint.fresh other hother
        · intro hid
          rw [h.eq_of_id hothers hmade hid] at hown
          exact hsame hown

theorem step (h : PrpcOk prpc) (taken : prpc.step codec event = some after) :
    PrpcOk after := by
  cases event with
  | call endpoint method body =>
      cases Option.some.inj taken
      exact h.runtimeRequest rfl
  | answers call answer =>
      simp only [Prpc.step] at taken
      split at taken
      · next hrunning =>
          cases Option.some.inj taken
          exact h.answers answer hrunning
      · cases taken

end PrpcOk

theorem prpcOk_reachable (h : (prpcMachine codec).Reachable prpc) :
    PrpcOk prpc := by
  refine Machine.Preserves.reaches
    (fun _ _ _ _ hbefore taken => hbefore.step taken) ?_ h
  exact
    { ids := rfl
      unmade := fun _ _ => rfl
      endpoints := fun endpoint =>
        { single := rfl
          line := ⟨[], rfl, List.Perm.nil, fun _ => rfl, List.forall_mem_nil _⟩
          fresh := List.forall_mem_nil _ } }

/-- A call that is sent comes before those that its endpoint keeps waiting. -/
theorem sends_first (h : PrpcOk prpc) (taken : prpc.step codec event = some after)
    (sends : after.sent = prpc.sent ++ [call]) (made : other ∈ after.calls)
    (same : other.endpoint = call.endpoint) (unsent : other ∉ after.sent) :
    other.priority ≤ call.priority := by
  have hafter := h.step taken
  have hwaits := (hafter.endpoints call.endpoint).waits made same unsent
  cases event with
  | call endpoint method body =>
      cases Option.some.inj taken
      have hstarted := Option.toList_eq_singleton_iff.mp
        (List.append_cancel_left sends)
      obtain ⟨rfl, hnone⟩ := PriorityQueue.add_started hstarted
      rw [Prpc.getQueue_runtimeRequest, hnone] at hwaits
      cases hwaits
  | answers answered answer =>
      simp only [Prpc.step] at taken
      split at taken
      · next hrunning =>
          cases Option.some.inj taken
          have hstarted := Option.toList_eq_singleton_iff.mp
            (List.append_cancel_left sends)
          have hqueue := h.endpoints answered.endpoint
          have hwaited : call ∈ (prpc.getQueue answered.endpoint).waiting := by
            rw [← (prpc.getQueue answered.endpoint).toPQueue.finish_fifo answered]
            exact List.mem_append_left _ (Option.mem_toList.mpr hstarted)
          have hown := (hqueue.mem_tasks
            (PQueue.mem_tasks.mpr (Or.inr hwaited))).2
          rw [hown, Prpc.getQueue_answers] at hwaits
          exact PriorityQueue.finish_started hstarted hwaits
      · cases taken

/-- The result of a call comes from the answer to its own request, and stays. -/
theorem results_step (h : PrpcOk prpc)
    (taken : prpc.step codec event = some after) (id : Nat)
    {result : PrpcResult} (holds : prpc.results id = some result) :
    after.results id = some result := by
  cases event with
  | call endpoint method body =>
      cases Option.some.inj taken
      exact holds
  | answers call answer =>
      simp only [Prpc.step] at taken
      split at taken
      · next hrunning =>
          cases Option.some.inj taken
          have hfresh := (h.endpoints call.endpoint).fresh call
            (PQueue.mem_tasks.mpr (Or.inl hrunning))
          have hne : id ≠ call.id := fun heq => by
            rw [heq, hfresh] at holds
            cases holds
          exact (Function.update_of_ne hne _ _).trans holds
      · cases taken

/-- The requests of one pRuntime, whoever makes them, go out one at a time, the
most important ones first and those of one priority in the order of the calls,
and an answer settles its own call for good. -/
theorem prpc_serialized (codec : PrpcCodec) (prpc : Prpc)
    (h : (prpcMachine codec).Reachable prpc) :
    (∀ endpoint, Serialized prpc endpoint) ∧
    (∀ event call after, prpc.step codec event = some after →
      after.sent = prpc.sent ++ [call] →
      ∀ other ∈ after.calls, other.endpoint = call.endpoint →
        other ∉ after.sent → other.priority ≤ call.priority) ∧
    (∀ later id result, (prpcMachine codec).Leads Machine.anyEvent prpc later →
      prpc.results id = some result → later.results id = some result) ∧
    ∀ call answer after, prpc.step codec (.answers call answer) = some after →
      prpc.results call.id = none ∧
        after.results call.id = some (codec.result call.method answer) := by
  have hok := prpcOk_reachable h
  refine ⟨fun endpoint => (hok.endpoints endpoint).serialized,
    fun event call after taken sends other made same unsent =>
      sends_first hok taken sends made same unsent,
    fun later id result hleads holds => ?_, fun call answer after taken => ?_⟩
  · have hkept : (prpcMachine codec).Preserves Machine.anyEvent
        fun later => PrpcOk later ∧ later.results id = some result := by
      rintro before event after - ⟨hbefore, hresult⟩ taken
      exact ⟨hbefore.step taken, results_step hbefore taken id hresult⟩
    exact (hkept.leads ⟨hok, holds⟩ hleads).2
  · simp only [Prpc.step] at taken
    split at taken
    · next hrunning =>
        cases Option.some.inj taken
        exact ⟨(hok.endpoints call.endpoint).fresh call
          (PQueue.mem_tasks.mpr (Or.inl hrunning)), Function.update_self _ _ _⟩
    · cases taken

def plainPrpc : PrpcCodec where
  decodeError _ := .error "invalid wire type"
  parseBody body := some
    { status := some (if body = [] then "error" else "ok")
      payload := some "{}" }
  parse payload :=
    if payload = "undefined" then .error "\"undefined\" is not valid JSON"
    else .ok payload

/-- The loops of a worker ask one pRuntime, and a second one is kicked meanwhile:
the headers come before the messages that were asked for earlier. -/
def asksTwice : List PrpcEvent :=
  let getInfo : PrpcCall :=
    { id := 0, endpoint := "http://a", method := .phactory "GetInfo", body := [] }
  [.call "http://a" (.phactory "GetInfo") [],
    .call "http://a" (.phactory "GetEgressMessages") [],
    .call "http://a" (.resource "/bin_api/sync_combined_headers" 1200) [1],
    .call "http://b" (.resource "/kick" 1000) [],
    .answers getInfo (.response 500 [7])]

theorem prpc_serialized_twice :
    let prpc := (prpcMachine plainPrpc).ended asksTwice
    prpc.results 0 = some (.throws "Request failed with status code 500") ∧
      (ofEndpoint "http://a" prpc.sent).map PrpcCall.url =
        ["http://a/prpc/PhactoryAPI.GetInfo",
          "http://a/bin_api/sync_combined_headers"] ∧
      ∀ endpoint, Serialized prpc endpoint :=
  ⟨by decide, by decide,
    (prpc_serialized plainPrpc _ (Machine.reachable_ended (by decide))).1⟩

end RuntimeBridge.Lifecycle
