import RuntimeBridge.DataProvider.Window
import RuntimeBridge.Lifecycle.SingleSync

/-! pRuntime at the other end of the loop of `single_sync.js`.  It is no part of
this repository: what a request makes of it is a parameter, and each result
names the rules that it takes from it. -/

namespace RuntimeBridge.Lifecycle

open DataProvider

inductive RuntimeRequest where
  | syncCombinedHeaders (request : SyncCombinedHeadersReq)
  | dispatchBlock (blocks : List Bytes)

def RuntimeRequest.endpoint : RuntimeRequest → Endpoint
  | .syncCombinedHeaders _ => .syncCombinedHeaders
  | .dispatchBlock _ => .dispatchBlock

/-- A request that is refused leaves the state as it is. -/
structure PRuntime where
  State : Type
  info : State → Info
  /-- The relay headers that it has taken since genesis. -/
  relayHeaders : State → List Bytes
  /-- The authority set that it verifies the next justification with. -/
  setId : State → Nat
  /-- The blocks that it has dispatched since the first one. -/
  dispatched : State → List Bytes
  serves : State → RuntimeRequest → State
  forward : ∀ (state : State) (request : RuntimeRequest),
    request.endpoint.Takes (info state) (info (serves state request))

/-- pRuntime as the loop finds it, and the states that a restart may bring back. -/
structure RuntimeStart (pRuntime : PRuntime) (good : pRuntime.State → Prop) where
  runtime : pRuntime.State
  checkpoints : List pRuntime.State
  resumes : ∀ state ∈ runtime :: checkpoints, good state

/-- The loop, pRuntime beside it, and the last request that was sent to it. -/
structure Served (pRuntime : PRuntime) where
  driven : Driven
  runtime : pRuntime.State
  request : Option RuntimeRequest
  /-- The states that pRuntime can be restarted from. -/
  had : List pRuntime.State

inductive ServedEvent where
  /-- The reply of a request that is served may be lost with an error. -/
  | serves (lost : Option String)
  | restarts (place : Nat)
  | drives (event : DrivenEvent)

/-- What the loop does by itself, or without an effect on pRuntime. -/
def DrivenEvent.unseen : DrivenEvent → Bool
  | .sendHeaders | .sendBlocks _ | .replies _ => false
  | .requestFails _ (.replyLost _) | .requestFails _ (.restarted _) => false
  | _ => true

/-- What the loop hears of a request that left pRuntime with `after`. -/
def servedOutcome (after : Info) : Option String → DrivenEvent
  | none => .replies after
  | some error => .requestFails error (.replyLost after)

namespace Served

variable {pRuntime : PRuntime} {good : pRuntime.State → Prop}

def startSync (fetchStatus : Option FetchStatus)
    (start : RuntimeStart pRuntime good) : Served pRuntime where
  driven := .startSync fetchStatus (pRuntime.info start.runtime)
  runtime := start.runtime
  request := none
  had := start.runtime :: start.checkpoints

def sendHeaders (state : Served pRuntime) (request : SyncCombinedHeadersReq) :
    Option (Served pRuntime) :=
  state.driven.sendHeaders.map fun driven =>
    { state with driven, request := some (.syncCombinedHeaders request) }

def sendBlocks (state : Served pRuntime) (rangeIndex : ParaRangeIndex)
    (blocks : List Bytes) : Option (Served pRuntime) :=
  (state.driven.sendBlocks rangeIndex).map fun driven =>
    { state with driven, request := some (.dispatchBlock blocks) }

def serves (state : Served pRuntime) (lost : Option String) :
    Option (Served pRuntime) := do
  let request ← state.request
  let runtime := pRuntime.serves state.runtime request
  let driven ← state.driven.step (servedOutcome (pRuntime.info runtime) lost)
  return { state with driven, runtime, had := runtime :: state.had }

/-- pRuntime may be back at any state that it has had, at any moment. -/
def restarts (state : Served pRuntime) (place : Nat) :
    Option (Served pRuntime) :=
  state.had[place]?.map fun runtime =>
    { state with
      runtime
      driven := { state.driven with runtime := pRuntime.info runtime } }

def drives (state : Served pRuntime) (event : DrivenEvent) :
    Option (Served pRuntime) :=
  if event.unseen then
    (state.driven.step event).map fun driven => { state with driven }
  else
    none

def step (state : Served pRuntime) : ServedEvent → Option (Served pRuntime)
  | .serves lost => state.serves lost
  | .restarts place => state.restarts place
  | .drives event => state.drives event

end Served

/-- Every state that pRuntime has had is `good`, and the last request that was
sent to it `fits`. -/
structure ServedOk {pRuntime : PRuntime} (good : pRuntime.State → Prop)
    (fits : RuntimeRequest → Prop) (state : Served pRuntime) : Prop where
  info : state.driven.runtime = pRuntime.info state.runtime
  runtime : good state.runtime
  had : ∀ runtime ∈ state.had, good runtime
  request : ∀ request, state.request = some request → fits request

variable {pRuntime : PRuntime} {good : pRuntime.State → Prop}
  {fits : RuntimeRequest → Prop} {state after : Served pRuntime}
  {before next : Driven} {event : DrivenEvent} {runtime : Info}

theorem failsWith_runtime {error : String}
    (taken : before.failsWith error runtime = some next) :
    next.runtime = runtime := by
  obtain ⟨sync, -, rfl⟩ := Option.map_eq_some_iff.mp taken
  rfl

theorem replies_runtime (taken : before.replies runtime = some next) :
    next.runtime = runtime := by
  obtain ⟨endpoint, -, hnext⟩ := Option.bind_eq_some_iff.mp taken
  split at hnext
  · cases endpoint with
    | syncCombinedHeaders | dispatchBlock =>
        obtain ⟨sync, -, rfl⟩ := Option.map_eq_some_iff.mp hnext
        rfl
  · cases hnext

theorem outcome_runtime {lost : Option String}
    (taken : before.step (servedOutcome runtime lost) = some next) :
    next.runtime = runtime := by
  cases lost with
  | none => exact replies_runtime taken
  | some error =>
      obtain ⟨endpoint, -, hnext⟩ := Option.bind_eq_some_iff.mp taken
      simp only at hnext
      split at hnext
      · exact failsWith_runtime hnext
      · cases hnext

theorem sendBlocks_runtime {rangeIndex : ParaRangeIndex}
    (taken : before.sendBlocks rangeIndex = some next) :
    next.runtime = before.runtime := by
  simp only [Driven.sendBlocks] at taken
  split at taken
  · split at taken
    · cases Option.some.inj taken
      rfl
    · cases taken
  · cases taken

theorem unseen_runtime (hunseen : event.unseen = true)
    (taken : before.step event = some next) :
    next.runtime = before.runtime := by
  cases event with
  | sendHeaders | sendBlocks rangeIndex | replies runtime => cases hunseen
  | requestFails error failure =>
      obtain ⟨endpoint, -, hnext⟩ := Option.bind_eq_some_iff.mp taken
      cases failure with
      | noEffect => exact failsWith_runtime hnext
      | replyLost runtime | restarted runtime => cases hunseen
  | stops =>
      cases Option.some.inj taken
      rfl
  | blobMissing =>
      simp only [Driven.step, Driven.blobMissing] at taken
      split at taken
      · obtain ⟨sync, -, rfl⟩ := Option.map_eq_some_iff.mp taken
        rfl
      · cases taken
  | blobFails error =>
      simp only [Driven.step] at taken
      split at taken
      · exact failsWith_runtime taken
      · cases taken
  | polls | fetches status | recovers | recoveryFails =>
      obtain ⟨sync, -, rfl⟩ := Option.map_eq_some_iff.mp taken
      rfl

namespace ServedOk

theorem startSync {resumed : pRuntime.State → Prop}
    (fetchStatus : Option FetchStatus) (start : RuntimeStart pRuntime resumed)
    (hgood : ∀ state ∈ start.runtime :: start.checkpoints, good state) :
    ServedOk good fits (.startSync fetchStatus start) where
  info := rfl
  runtime := hgood start.runtime List.mem_cons_self
  had := hgood
  request := fun _ hnone => by cases hnone

theorem sendHeaders {request : SyncCombinedHeadersReq}
    (h : ServedOk good fits state)
    (hfits : fits (.syncCombinedHeaders request))
    (taken : state.sendHeaders request = some after) :
    ServedOk good fits after := by
  obtain ⟨driven, hdriven, rfl⟩ := Option.map_eq_some_iff.mp taken
  exact
    { h with
      info := (sendHeaders_effect hdriven).2.2.runtime.trans h.info
      request := fun other hother => Option.some.inj hother ▸ hfits }

theorem sendBlocks {rangeIndex : ParaRangeIndex} {blocks : List Bytes}
    (h : ServedOk good fits state) (hfits : fits (.dispatchBlock blocks))
    (taken : state.sendBlocks rangeIndex blocks = some after) :
    ServedOk good fits after := by
  obtain ⟨driven, hdriven, rfl⟩ := Option.map_eq_some_iff.mp taken
  exact
    { h with
      info := (sendBlocks_runtime hdriven).trans h.info
      request := fun other hother => Option.some.inj hother ▸ hfits }

/-- What pRuntime keeps when it serves a request that fits, the loop keeps. -/
theorem step {event : ServedEvent}
    (serves : ∀ runtime request, good runtime → fits request →
      good (pRuntime.serves runtime request))
    (h : ServedOk good fits state) (taken : state.step event = some after) :
    ServedOk good fits after := by
  cases event with
  | serves lost =>
      obtain ⟨request, hrequest, hserved⟩ := Option.bind_eq_some_iff.mp taken
      obtain ⟨driven, hdriven, hafter⟩ := Option.bind_eq_some_iff.mp hserved
      cases Option.some.inj hafter
      have hgood := serves state.runtime request h.runtime
        (h.request request hrequest)
      exact
        { h with
          info := outcome_runtime hdriven
          runtime := hgood
          had := List.forall_mem_cons.mpr ⟨hgood, h.had⟩ }
  | restarts place =>
      obtain ⟨runtime, hplace, rfl⟩ := Option.map_eq_some_iff.mp taken
      exact
        { h with
          info := rfl
          runtime := h.had runtime (List.mem_of_getElem? hplace) }
  | drives event =>
      simp only [Served.step, Served.drives] at taken
      split at taken
      · next hunseen =>
          obtain ⟨driven, hdriven, rfl⟩ := Option.map_eq_some_iff.mp taken
          exact
            { h with info := (unseen_runtime hunseen hdriven).trans h.info }
      · cases taken

end ServedOk

end RuntimeBridge.Lifecycle
