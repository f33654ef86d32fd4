import RuntimeBridge.DataProvider.LocalServer
import RuntimeBridge.Library.Machine
import RuntimeBridge.Library.Update

/-! `getBuffer` and `getCachedBuffer`: calls for one key share a request to the
data provider, and what it brings goes through the LRU cache.  A step is what a
function does between two awaits. -/

namespace RuntimeBridge.Lifecycle

open Library DataProvider

/-- A buffer that a data provider has returned, which is never empty. -/
abbrev Buffer := { bytes : Bytes // bytes ≠ [] }

abbrev Answer := Except String (Option Buffer)

/-- What `queue.add` was called for.  The call that has made the request deletes
its entry of `promiseStore`. -/
structure ProviderRequest where
  key : String
  initiator : Nat
  answer : Option Answer
  deriving DecidableEq

inductive CallStage where
  | awaiting
  /-- `getBuffer` is done, and `_getCachedBuffer` is to go on. -/
  | caching (outcome : Answer)
  | returned (outcome : Answer)
  deriving DecidableEq

/-- A call, and the request that it shares if its buffer was not cached. -/
structure BufferCall where
  key : String
  cached : Bool
  request : Option Nat
  stage : CallStage
  deriving DecidableEq

/-- `promiseStore` leads to what `queue.add` has returned.  No key of the database
is the name of a property that every object has. -/
structure BufferReader where
  requests : List ProviderRequest
  promiseStore : String → Option Nat
  cache : String → Option Buffer
  calls : Nat → Option BufferCall

inductive BufferReaderEvent where
  | getBuffer (call : Nat) (key : String)
  | getCachedBuffer (call : Nat) (key : String)
  | answers (request : Nat) (answer : Answer)
  /-- The `await` of a call that waits for a promise is over. -/
  | resumes (call : Nat)
  /-- `_getCachedBuffer` goes on. -/
  | caches (call : Nat)
  | evicts (key : String)
  deriving DecidableEq

namespace BufferReader

def create : BufferReader where
  requests := []
  promiseStore _ := none
  cache _ := none
  calls _ := none

def setCall (reader : BufferReader) (call : Nat) (state : BufferCall) :
    BufferReader :=
  { reader with calls := Function.update reader.calls call (some state) }

def setEntry (reader : BufferReader) (key : String) (entry : Option Nat) :
    BufferReader :=
  { reader with promiseStore := Function.update reader.promiseStore key entry }

/-- `queue.add` of a new request. -/
def addRequest (reader : BufferReader) (call : Nat) (key : String) :
    BufferReader :=
  { reader with
    requests := reader.requests ++ [{ key, initiator := call, answer := none }] }

def getBuffer (reader : BufferReader) (call : Nat) (key : String)
    (cached : Bool) : BufferReader :=
  match reader.promiseStore key with
  | some request =>
      reader.setCall call
        { key, cached, request := some request, stage := .awaiting }
  | none =>
      let request := reader.requests.length
      ((reader.addRequest call key).setEntry key (some request)).setCall call
        { key, cached, request := some request, stage := .awaiting }

def getCachedBuffer (disableLru : Bool) (reader : BufferReader) (call : Nat)
    (key : String) : BufferReader :=
  match if disableLru then none else reader.cache key with
  | some buffer =>
      reader.setCall call
        { key, cached := true, request := none
          stage := .returned (.ok (some buffer)) }
  | none => reader.getBuffer call key true

/-- The rest of `getBuffer`.  Only the call that has made the request deletes its
entry. -/
def resumes (reader : BufferReader) (call : Nat) : Option BufferReader :=
  match reader.calls call with
  | some { key, cached, request := some request, stage := .awaiting } =>
      match reader.requests[request]? with
      | some { initiator, answer := some answer, .. } =>
          let stage := if cached then .caching answer else .returned answer
          let kept :=
            if initiator = call then reader.setEntry key none else reader
          some (kept.setCall call { key, cached, request := some request, stage })
      | _ => none
  | _ => none

/-- The rest of `_getCachedBuffer`. -/
def caches (disableLru : Bool) (reader : BufferReader) (call : Nat) :
    Option BufferReader :=
  match reader.calls call with
  | some { key, cached, request, stage := .caching outcome } =>
      let stored :=
        match outcome with
        | .ok (some buffer) =>
            if disableLru then reader
            else { reader with
              cache := Function.update reader.cache key (some buffer) }
        | _ => reader
      some (stored.setCall call
        { key, cached, request, stage := .returned outcome })
  | _ => none

def setAnswer (reader : BufferReader) (request : Nat) (answer : Answer) :
    BufferReader :=
  { reader with
    requests := reader.requests.modify request fun asked =>
      { asked with answer := some answer } }

def answers (reader : BufferReader) (request : Nat) (answer : Answer) :
    Option BufferReader :=
  match reader.requests[request]? with
  | some { answer := none, .. } => some (reader.setAnswer request answer)
  | _ => none

def step (disableLru : Bool) (reader : BufferReader) :
    BufferReaderEvent → Option BufferReader
  | .getBuffer call key =>
      match reader.calls call with
      | none => some (reader.getBuffer call key false)
      | some _ => none
  | .getCachedBuffer call key =>
      match reader.calls call with
      | none => some (reader.getCachedBuffer disableLru call key)
      | some _ => none
  | .answers request answer => reader.answers request answer
  | .resumes call => reader.resumes call
  | .caches call => reader.caches disableLru call
  | .evicts key =>
      some { reader with cache := Function.update reader.cache key none }

def machine (disableLru : Bool) : Machine BufferReader BufferReaderEvent where
  start := create
  step := step disableLru

def Awaits (reader : BufferReader) (call request : Nat) : Prop :=
  ∃ state, reader.calls call = some state ∧ state.request = some request ∧
    state.stage = .awaiting

/-- A request is in flight until the call that has made it has taken what came
of it. -/
def InFlight (reader : BufferReader) (request : Nat) (key : String) : Prop :=
  ∃ asked, reader.requests[request]? = some asked ∧ asked.key = key ∧
    reader.Awaits asked.initiator request

def Provided (reader : BufferReader) (key : String) (buffer : Buffer) : Prop :=
  ∃ asked ∈ reader.requests, asked.key = key ∧
    asked.answer = some (.ok (some buffer))

/-- What a call has got, or is to get. -/
def CallOk (reader : BufferReader) (call : BufferCall) : Prop :=
  match call.request with
  | none => ∃ buffer, call.stage = .returned (.ok (some buffer)) ∧
      reader.Provided call.key buffer
  | some request => ∃ asked, reader.requests[request]? = some asked ∧
      asked.key = call.key ∧
      ∀ outcome, call.stage = .caching outcome ∨ call.stage = .returned outcome →
        asked.answer = some outcome

/-- `promiseStore` has the requests that are in flight. -/
structure Sound (reader : BufferReader) : Prop where
  stored_iff : ∀ key request,
    reader.promiseStore key = some request ↔ reader.InFlight request key
  initiated : ∀ request asked, reader.requests[request]? = some asked →
    ∃ state, reader.calls asked.initiator = some state ∧
      state.request = some request ∧
      (asked.answer = none → state.stage = .awaiting)
  calls : ∀ call state, reader.calls call = some state → reader.CallOk state
  cached : ∀ key buffer, reader.cache key = some buffer →
    reader.Provided key buffer

theorem sound_create : create.Sound where
  stored_iff key request := by
    constructor
    · intro h
      cases h
    · rintro ⟨asked, h, _⟩
      cases h
  initiated request asked h := by cases h
  calls call state h := by cases h
  cached key buffer h := by cases h

variable {reader : BufferReader} {call request : Nat} {key : String}
  {state : BufferCall}

theorem awaits_setCall {other : Nat} (hne : other ≠ call) :
    (reader.setCall call state).Awaits other request ↔
      reader.Awaits other request := by
  simp only [Awaits, setCall, Function.update_of_ne hne]

theorem awaits_setCall_self :
    (reader.setCall call state).Awaits call request ↔
      state.request = some request ∧ state.stage = .awaiting := by
  simp only [Awaits, setCall, Function.update_self, Option.some.injEq,
    exists_eq_left']

theorem brought_ne_awaiting (cached : Bool) (answer : Answer) :
    (if cached then CallStage.caching answer else .returned answer) ≠
      .awaiting := by
  cases cached <;> exact fun heq => by cases heq

/-- No request is lost, and no answer changes. -/
def Grows (before after : BufferReader) : Prop :=
  ∀ (request : Nat) (asked : ProviderRequest),
    before.requests[request]? = some asked →
      ∃ later, after.requests[request]? = some later ∧
        later.key = asked.key ∧ later.initiator = asked.initiator ∧
        ∀ answer, asked.answer = some answer → later.answer = some answer

theorem Provided.grows {after : BufferReader} {buffer : Buffer}
    (h : reader.Provided key buffer) (grows : reader.Grows after) :
    after.Provided key buffer := by
  obtain ⟨asked, hmem, hkey, hanswer⟩ := h
  obtain ⟨request, hasked⟩ := List.mem_iff_getElem?.mp hmem
  obtain ⟨later, hlater, hlaterKey, _, hkept⟩ := grows request asked hasked
  exact ⟨later, List.mem_of_getElem? hlater, hlaterKey.trans hkey,
    hkept _ hanswer⟩

theorem CallOk.grows {after : BufferReader} (h : reader.CallOk state)
    (grows : reader.Grows after) : after.CallOk state := by
  unfold CallOk at h ⊢
  split at h
  · obtain ⟨buffer, hstage, hprovided⟩ := h
    exact ⟨buffer, hstage, hprovided.grows grows⟩
  · next request _ =>
      obtain ⟨asked, hasked, hkey, houtcome⟩ := h
      obtain ⟨later, hlater, hlaterKey, _, hkept⟩ := grows request asked hasked
      exact ⟨later, hlater, hlaterKey.trans hkey,
        fun outcome hstage => hkept outcome (houtcome outcome hstage)⟩

theorem grows_addRequest (reader : BufferReader) (call : Nat) (key : String) :
    reader.Grows (reader.addRequest call key) := fun _ _ hasked =>
  ⟨_, getElem?_concat_of_some hasked _, rfl, rfl, fun _ hanswer => hanswer⟩

theorem grows_setAnswer {asked : ProviderRequest}
    (hasked : reader.requests[request]? = some asked)
    (hnone : asked.answer = none) (answer : Answer) :
    reader.Grows (reader.setAnswer request answer) := by
  intro other found hfound
  rcases eq_or_ne request other with rfl | hne
  · cases hfound.symm.trans hasked
    refine ⟨_, (List.getElem?_modify_eq ..).trans (congrArg _ hfound), rfl, rfl,
      fun earlier hearlier => ?_⟩
    cases hnone.symm.trans hearlier
  · exact ⟨found, (List.getElem?_modify_ne _ _ hne).trans hfound, rfl, rfl,
      fun _ hkept => hkept⟩

/-- The request is not the call's own. -/
def Foreign (reader : BufferReader) (call request : Nat) : Prop :=
  ∀ asked, reader.requests[request]? = some asked → asked.initiator ≠ call

theorem inFlight_setCall (h : reader.Foreign call request) :
    (reader.setCall call state).InFlight request key ↔
      reader.InFlight request key := by
  constructor
  · rintro ⟨asked, hasked, hkey, hawaits⟩
    exact ⟨asked, hasked, hkey, (awaits_setCall (h asked hasked)).mp hawaits⟩
  · rintro ⟨asked, hasked, hkey, hawaits⟩
    exact ⟨asked, hasked, hkey, (awaits_setCall (h asked hasked)).mpr hawaits⟩

namespace Sound

theorem foreign_of_new (h : reader.Sound) (hnew : reader.calls call = none)
    (request : Nat) : reader.Foreign call request := by
  rintro asked hasked rfl
  obtain ⟨state, hstate, _⟩ := h.initiated request asked hasked
  cases hnew.symm.trans hstate

theorem foreign_of_request (h : reader.Sound)
    (hstate : reader.calls call = some state) {other : Option Nat}
    (hother : state.request = other) (hne : other ≠ some request) :
    reader.Foreign call request := by
  rintro asked hasked rfl
  obtain ⟨found, hfound, hrequest, _⟩ := h.initiated request asked hasked
  cases hfound.symm.trans hstate
  exact hne (hother.symm.trans hrequest)

theorem setCall (h : reader.Sound)
    (hflight : ∀ request key, (reader.setCall call state).InFlight request key ↔
      reader.InFlight request key)
    (initiates : ∀ request asked, reader.requests[request]? = some asked →
      asked.initiator = call → state.request = some request ∧
        (asked.answer = none → state.stage = .awaiting))
    (hok : reader.CallOk state) : (reader.setCall call state).Sound where
  stored_iff key request := (h.stored_iff key request).trans
    (hflight request key).symm
  initiated request asked hasked := by
    rcases eq_or_ne asked.initiator call with heq | hne
    · obtain ⟨hrequest, hstage⟩ := initiates request asked hasked heq
      refine ⟨state, ?_, hrequest, hstage⟩
      rw [heq]
      exact Function.update_self ..
    · obtain ⟨found, hfound, hinitiated⟩ := h.initiated request asked hasked
      exact ⟨found, (Function.update_of_ne hne ..).trans hfound, hinitiated⟩
  calls := update_forall h.calls fun _ hstate => Option.some.inj hstate ▸ hok
  cached := h.cached

theorem setCall_of_foreign (h : reader.Sound)
    (hforeign : ∀ request, reader.Foreign call request)
    (hok : reader.CallOk state) : (reader.setCall call state).Sound :=
  h.setCall (fun request _ => inFlight_setCall (hforeign request))
    (fun request asked hasked heq => (hforeign request asked hasked heq).elim)
    hok

/-- The new request is in flight, with those that are so already. -/
theorem inFlight_makes (h : reader.Sound) (hnew : reader.calls call = none)
    (cached : Bool) (request : Nat) (other : String) :
    (((reader.addRequest call key).setEntry key
      (some reader.requests.length)).setCall call
        { key, cached, request := some reader.requests.length
          stage := .awaiting }).InFlight request other ↔
      request = reader.requests.length ∧ key = other ∨
        reader.InFlight request other := by
  constructor
  · rintro ⟨asked, hasked, hkey, hawaits⟩
    rcases getElem?_concat_cases hasked with hearlier | ⟨hlast, rfl⟩
    · have hne := h.foreign_of_new hnew request asked hearlier
      exact Or.inr ⟨asked, hearlier, hkey, (awaits_setCall hne).mp hawaits⟩
    · exact Or.inl ⟨hlast, hkey⟩
  · rintro (⟨rfl, rfl⟩ | ⟨asked, hasked, hkey, hawaits⟩)
    · exact ⟨_, List.getElem?_concat_length, rfl, _, Function.update_self ..,
        rfl, rfl⟩
    · have hne := h.foreign_of_new hnew request asked hasked
      exact ⟨asked, getElem?_concat_of_some hasked _, hkey,
        (awaits_setCall hne).mpr hawaits⟩

theorem makes (h : reader.Sound) (hnew : reader.calls call = none)
    (hnone : reader.promiseStore key = none) (cached : Bool) :
    (((reader.addRequest call key).setEntry key
      (some reader.requests.length)).setCall call
        { key, cached, request := some reader.requests.length
          stage := .awaiting }).Sound := by
  have hgrows := grows_addRequest reader call key
  have hold : ∀ (request : Nat) (asked : ProviderRequest),
      reader.requests[request]? = some asked → asked.initiator ≠ call :=
    h.foreign_of_new hnew
  exact {
    stored_iff := fun other request => by
      rw [h.inFlight_makes hnew]
      rcases eq_or_ne other key with rfl | hne
      · have hquiet : ¬ reader.InFlight request other := fun hflight => by
          cases hnone.symm.trans ((h.stored_iff other request).mpr hflight)
        constructor
        · intro hentry
          cases (Function.update_self ..).symm.trans hentry
          exact Or.inl ⟨rfl, rfl⟩
        · rintro (⟨rfl, _⟩ | hflight)
          · exact Function.update_self ..
          · exact (hquiet hflight).elim
      · constructor
        · intro hentry
          exact Or.inr ((h.stored_iff other request).mp
            ((Function.update_of_ne hne ..).symm.trans hentry))
        · rintro (⟨_, rfl⟩ | hflight)
          · exact (hne rfl).elim
          · exact (Function.update_of_ne hne ..).trans
              ((h.stored_iff other request).mpr hflight)
    initiated := fun request asked hasked => by
      rcases getElem?_concat_cases hasked with hearlier | ⟨rfl, rfl⟩
      · obtain ⟨found, hfound, hinitiated⟩ :=
          h.initiated request asked hearlier
        exact ⟨found, (Function.update_of_ne (hold request asked hearlier)
          ..).trans hfound, hinitiated⟩
      · exact ⟨_, Function.update_self .., rfl, fun _ => rfl⟩
    calls := by
      refine update_forall
        (fun other found hfound => (h.calls other found hfound).grows hgrows)
        fun found hfound => ?_
      cases hfound
      refine ⟨_, List.getElem?_concat_length, rfl, ?_⟩
      rintro outcome (hstage | hstage) <;> cases hstage
    cached := fun other buffer hbuffer =>
      (h.cached other buffer hbuffer).grows hgrows }

theorem getBuffer (h : reader.Sound) (hnew : reader.calls call = none)
    (cached : Bool) : (reader.getBuffer call key cached).Sound := by
  unfold BufferReader.getBuffer
  split
  · next request hentry =>
      refine h.setCall_of_foreign (h.foreign_of_new hnew) ?_
      obtain ⟨asked, hasked, hkey, _⟩ := (h.stored_iff key request).mp hentry
      refine ⟨asked, hasked, hkey, ?_⟩
      rintro outcome (hstage | hstage) <;> cases hstage
  · next hnone => exact h.makes hnew hnone cached

theorem getCachedBuffer (h : reader.Sound) (hnew : reader.calls call = none)
    (disableLru : Bool) :
    (reader.getCachedBuffer disableLru call key).Sound := by
  unfold BufferReader.getCachedBuffer
  split
  · next buffer hbuffer =>
      refine h.setCall_of_foreign (h.foreign_of_new hnew)
        ⟨buffer, rfl, h.cached key buffer ?_⟩
      cases disableLru with
      | true => cases hbuffer
      | false => exact hbuffer
  · exact h.getBuffer hnew true

/-- A call without a request has found its buffer in the cache. -/
theorem hit (h : reader.Sound) (hstate : reader.calls call = some state)
    (hnone : state.request = none) :
    ∃ buffer, state.stage = .returned (.ok (some buffer)) ∧
      reader.Provided state.key buffer := by
  have hok := h.calls call state hstate
  simpa only [CallOk, hnone] using hok

theorem brought (h : reader.Sound) (hstate : reader.calls call = some state)
    (hrequest : state.request = some request) :
    ∃ asked, reader.requests[request]? = some asked ∧ asked.key = state.key ∧
      ∀ outcome, state.stage = .caching outcome ∨
        state.stage = .returned outcome → asked.answer = some outcome := by
  have hok := h.calls call state hstate
  simpa only [CallOk, hrequest] using hok

theorem key_of_request (h : reader.Sound)
    (hstate : reader.calls call = some state)
    (hrequest : state.request = some request) {asked : ProviderRequest}
    (hasked : reader.requests[request]? = some asked) :
    asked.key = state.key := by
  obtain ⟨found, hfound, hkey, _⟩ := h.brought hstate hrequest
  cases hfound.symm.trans hasked
  exact hkey

theorem brought_of_caching (h : reader.Sound)
    (hstate : reader.calls call = some state) {outcome : Answer}
    (hstage : state.stage = .caching outcome) :
    ∃ request asked, state.request = some request ∧
      reader.requests[request]? = some asked ∧ asked.key = state.key ∧
      asked.answer = some outcome := by
  cases hrequest : state.request with
  | none =>
      obtain ⟨buffer, hreturned, _⟩ := h.hit hstate hrequest
      cases hstage.symm.trans hreturned
  | some request =>
      obtain ⟨asked, hasked, hkey, houtcome⟩ := h.brought hstate hrequest
      exact ⟨request, asked, rfl, hasked, hkey,
        houtcome outcome (Or.inl hstage)⟩

/-- The request of the call is no longer in flight, and the others still are. -/
theorem inFlight_takes (h : reader.Sound)
    (hstate : reader.calls call = some state)
    (hrequest : state.request = some request) {asked : ProviderRequest}
    (hasked : reader.requests[request]? = some asked)
    (hinitiator : asked.initiator = call) {stage : CallStage}
    (hstage : stage ≠ .awaiting) (other : Nat) (key : String) :
    ((reader.setEntry state.key none).setCall call
        { state with stage }).InFlight other key ↔
      other ≠ request ∧ reader.InFlight other key := by
  constructor
  · rintro ⟨found, hfound, hkey, hawaits⟩
    have hne : found.initiator ≠ call := by
      rintro rfl
      exact hstage (awaits_setCall_self.mp hawaits).2
    refine ⟨?_, found, hfound, hkey, (awaits_setCall hne).mp hawaits⟩
    rintro rfl
    cases hfound.symm.trans hasked
    exact hne hinitiator
  · rintro ⟨hother, found, hfound, hkey, hawaits⟩
    have hne : found.initiator ≠ call :=
      h.foreign_of_request hstate hrequest
        (fun heq => hother (Option.some.inj heq).symm) found hfound
    exact ⟨found, hfound, hkey, (awaits_setCall hne).mpr hawaits⟩

/-- The call that has made the request deletes its entry. -/
theorem takes (h : reader.Sound) (hstate : reader.calls call = some state)
    (hrequest : state.request = some request) (hawaits : state.stage = .awaiting)
    {asked : ProviderRequest} (hasked : reader.requests[request]? = some asked)
    (hinitiator : asked.initiator = call) (hanswered : asked.answer ≠ none)
    {stage : CallStage} (hstage : stage ≠ .awaiting)
    (hok : reader.CallOk { state with stage }) :
    ((reader.setEntry state.key none).setCall call { state with stage }).Sound
    where
  stored_iff key other := by
    rw [h.inFlight_takes hstate hrequest hasked hinitiator hstage,
      ← h.stored_iff]
    have hkey := h.key_of_request hstate hrequest hasked
    have hentry : reader.promiseStore state.key = some request :=
      (h.stored_iff state.key request).mpr ⟨asked, hasked, hkey, state,
        (congrArg reader.calls hinitiator).trans hstate, hrequest, hawaits⟩
    rcases eq_or_ne key state.key with rfl | hne
    · constructor
      · intro hnone
        cases (Function.update_self ..).symm.trans hnone
      · rintro ⟨hother, hstored⟩
        exact (hother (Option.some.inj (hstored.symm.trans hentry))).elim
    · constructor
      · intro hstored
        have hold := (Function.update_of_ne hne ..).symm.trans hstored
        refine ⟨?_, hold⟩
        rintro rfl
        obtain ⟨found, hfound, hfoundKey, _⟩ := (h.stored_iff key other).mp hold
        cases hfound.symm.trans hasked
        exact hne (hfoundKey.symm.trans hkey)
      · rintro ⟨_, hstored⟩
        exact (Function.update_of_ne hne ..).trans hstored
  initiated other found hfound := by
    obtain ⟨maker, hmaker, hmade, hwaits⟩ := h.initiated other found hfound
    rcases eq_or_ne found.initiator call with heq | hne
    · rw [heq, hstate] at hmaker
      cases hmaker
      cases hmade.symm.trans hrequest
      cases hfound.symm.trans hasked
      exact ⟨_, (congrArg _ heq).trans (Function.update_self ..), hrequest,
        fun hnone => (hanswered hnone).elim⟩
    · exact ⟨maker, (Function.update_of_ne hne ..).trans hmaker, hmade, hwaits⟩
  calls := update_forall h.calls fun _ hstate => Option.some.inj hstate ▸ hok
  cached := h.cached

theorem foreign_of_joined (h : reader.Sound)
    (hstate : reader.calls call = some state)
    (hrequest : state.request = some request) {asked : ProviderRequest}
    (hasked : reader.requests[request]? = some asked)
    (hinitiator : asked.initiator ≠ call) (other : Nat) :
    reader.Foreign call other := by
  rcases eq_or_ne other request with rfl | hne
  · intro found hfound
    cases hfound.symm.trans hasked
    exact hinitiator
  · exact h.foreign_of_request hstate hrequest
      fun heq => hne (Option.some.inj heq).symm

theorem resumes {after : BufferReader} (h : reader.Sound)
    (hstep : reader.resumes call = some after) : after.Sound := by
  unfold BufferReader.resumes at hstep
  split at hstep
  · next key cached request hstate =>
      split at hstep
      · next askedKey initiator answer hasked =>
          cases hstep
          have hok : reader.CallOk
              { key, cached, request := some request,
                stage := if cached then .caching answer
                  else .returned answer } := by
            refine ⟨_, hasked, h.key_of_request hstate rfl hasked, ?_⟩
            rintro outcome (hnow | hnow)
            · cases cached <;> cases hnow
              rfl
            · cases cached <;> cases hnow
              rfl
          split
          · next hinitiator =>
              exact h.takes hstate rfl rfl hasked hinitiator
                (Option.some_ne_none answer) (brought_ne_awaiting cached answer)
                hok
          · next hinitiator =>
              exact h.setCall_of_foreign
                (h.foreign_of_joined hstate rfl hasked hinitiator) hok
      · contradiction
  · contradiction

theorem inFlight_of_idle {old : BufferCall}
    (hold : reader.calls call = some old) (idle : old.stage ≠ .awaiting)
    (still : state.stage ≠ .awaiting) (request : Nat) (key : String) :
    (reader.setCall call state).InFlight request key ↔
      reader.InFlight request key := by
  constructor
  · rintro ⟨asked, hasked, hkey, hawaits⟩
    rcases eq_or_ne asked.initiator call with rfl | hne
    · exact (still (awaits_setCall_self.mp hawaits).2).elim
    · exact ⟨asked, hasked, hkey, (awaits_setCall hne).mp hawaits⟩
  · rintro ⟨asked, hasked, hkey, hawaits⟩
    rcases eq_or_ne asked.initiator call with rfl | hne
    · obtain ⟨now, hnow, _, hawaiting⟩ := hawaits
      cases hold.symm.trans hnow
      exact (idle hawaiting).elim
    · exact ⟨asked, hasked, hkey, (awaits_setCall hne).mpr hawaits⟩

/-- A call returns what `getBuffer` has brought it. -/
theorem returns (h : reader.Sound) (hstate : reader.calls call = some state)
    {outcome : Answer} (hstage : state.stage = .caching outcome) :
    (reader.setCall call { state with stage := .returned outcome }).Sound := by
  have idle : state.stage ≠ .awaiting := by
    rw [hstage]
    exact fun heq => by cases heq
  refine h.setCall (inFlight_of_idle hstate idle fun heq => by cases heq) ?_ ?_
  · intro request asked hasked heq
    obtain ⟨found, hfound, hrequest, hwaits⟩ := h.initiated request asked hasked
    rw [heq, hstate] at hfound
    cases hfound
    exact ⟨hrequest, fun hnone => (idle (hwaits hnone)).elim⟩
  · obtain ⟨request, asked, hrequest, hasked, hkey, hanswer⟩ :=
      h.brought_of_caching hstate hstage
    simp only [CallOk, hrequest]
    refine ⟨asked, hasked, hkey, ?_⟩
    rintro other (hnow | hnow)
    · cases hnow
    · cases hnow
      exact hanswer

theorem setCache (h : reader.Sound) {buffer : Buffer}
    (hprovided : reader.Provided key buffer) :
    Sound { reader with
      cache := Function.update reader.cache key (some buffer) } where
  stored_iff := h.stored_iff
  initiated := h.initiated
  calls := h.calls
  cached := update_forall h.cached fun _ hbuffer =>
    Option.some.inj hbuffer ▸ hprovided

theorem evicts (h : reader.Sound) (key : String) :
    Sound { reader with cache := Function.update reader.cache key none } where
  stored_iff := h.stored_iff
  initiated := h.initiated
  calls := h.calls
  cached := update_forall h.cached fun _ hnone => by cases hnone

theorem provided_of_caching (h : reader.Sound)
    (hstate : reader.calls call = some state) {buffer : Buffer}
    (hstage : state.stage = .caching (.ok (some buffer))) :
    reader.Provided state.key buffer := by
  obtain ⟨_, asked, _, hasked, hkey, hanswer⟩ :=
    h.brought_of_caching hstate hstage
  exact ⟨asked, List.mem_of_getElem? hasked, hkey, hanswer⟩

theorem caches {after : BufferReader} (h : reader.Sound) {disableLru : Bool}
    (hstep : reader.caches disableLru call = some after) : after.Sound := by
  unfold BufferReader.caches at hstep
  split at hstep
  · next key cached request outcome hstate =>
      cases hstep
      split
      · next buffer =>
          split
          · exact h.returns hstate rfl
          · exact (h.setCache (h.provided_of_caching hstate rfl)).returns
              hstate rfl
      · exact h.returns hstate rfl
  · contradiction

theorem answered (h : reader.Sound) {asked : ProviderRequest}
    (hasked : reader.requests[request]? = some asked)
    (hnone : asked.answer = none) (answer : Answer) :
    (reader.setAnswer request answer).Sound := by
  have hgrows := grows_setAnswer hasked hnone answer
  exact {
    stored_iff := fun key other => by
      refine (h.stored_iff key other).trans ?_
      constructor
      · rintro ⟨found, hfound, hkey, hawaits⟩
        obtain ⟨later, hlater, hlaterKey, hinitiator, _⟩ :=
          hgrows other found hfound
        refine ⟨later, hlater, hlaterKey.trans hkey, ?_⟩
        rw [hinitiator]
        exact hawaits
      · rintro ⟨found, hfound, hkey, hawaits⟩
        obtain ⟨old, hold, ⟨_, rfl⟩ | ⟨_, rfl⟩⟩ := getElem?_modify_cases hfound
        · exact ⟨old, hold, hkey, hawaits⟩
        · exact ⟨_, hold, hkey, hawaits⟩
    initiated := fun other found hfound => by
      obtain ⟨old, hold, ⟨_, rfl⟩ | ⟨_, rfl⟩⟩ := getElem?_modify_cases hfound
      · obtain ⟨maker, hmaker, hmade, _⟩ := h.initiated other old hold
        exact ⟨maker, hmaker, hmade, fun hnow => by cases hnow⟩
      · exact h.initiated other _ hold
    calls := fun call state hstate => (h.calls call state hstate).grows hgrows
    cached := fun key buffer hbuffer =>
      (h.cached key buffer hbuffer).grows hgrows }

theorem answers {after : BufferReader} (h : reader.Sound) {answer : Answer}
    (hstep : reader.answers request answer = some after) : after.Sound := by
  unfold BufferReader.answers at hstep
  split at hstep
  · next hasked =>
      cases hstep
      exact h.answered hasked rfl answer
  · contradiction

end Sound

theorem sound_preserves (disableLru : Bool) :
    (machine disableLru).Preserves Machine.anyEvent Sound := by
  intro before event after _ h hstep
  cases event with
  | getBuffer call key =>
      simp only [machine, step] at hstep
      split at hstep
      · next hnew =>
          cases hstep
          exact h.getBuffer hnew false
      · contradiction
  | getCachedBuffer call key =>
      simp only [machine, step] at hstep
      split at hstep
      · next hnew =>
          cases hstep
          exact h.getCachedBuffer hnew disableLru
      · contradiction
  | answers request answer => exact h.answers hstep
  | resumes call => exact h.resumes hstep
  | caches call => exact h.caches hstep
  | evicts key =>
      cases hstep
      exact h.evicts key

variable {after : BufferReader} {disableLru : Bool} {event : BufferReaderEvent}

theorem Grows.refl (reader : BufferReader) : reader.Grows reader :=
  fun _ asked hasked => ⟨asked, hasked, rfl, rfl, fun _ hkept => hkept⟩

/-- A new call, which shares the request that is stored for its key. -/
def Begins (reader after : BufferReader) (state : BufferCall) : Prop :=
  ∀ request, state.request = some request →
    after.promiseStore state.key = some request ∧
      (reader.promiseStore state.key = some request ∨
        request = reader.requests.length)

/-- What a step does to the calls and to the requests. -/
structure Moves (reader after : BufferReader) : Prop where
  grows : reader.Grows after
  calls : after.calls = reader.calls ∨
    ∃ call state, after.calls = Function.update reader.calls call (some state) ∧
      (reader.calls call = none ∧ reader.Begins after state ∨
        ∃ old, reader.calls call = some old ∧ state.key = old.key ∧
          state.request = old.request ∧ state.stage ≠ .awaiting)

theorem moves_getBuffer (hnew : reader.calls call = none) (cached : Bool) :
    reader.Moves (reader.getBuffer call key cached) := by
  unfold getBuffer
  split
  · next entry hentry =>
      refine ⟨.refl reader, Or.inr ⟨call, _, rfl, Or.inl ⟨hnew, ?_⟩⟩⟩
      intro request hrequest
      cases hrequest
      exact ⟨hentry, Or.inl hentry⟩
  · refine ⟨grows_addRequest reader call key,
      Or.inr ⟨call, _, rfl, Or.inl ⟨hnew, ?_⟩⟩⟩
    intro request hrequest
    cases hrequest
    exact ⟨Function.update_self .., Or.inr rfl⟩

theorem moves_resumes (hstep : reader.resumes call = some after) :
    reader.Moves after := by
  unfold resumes at hstep
  split at hstep
  · next key cached request hstate =>
      split at hstep
      · next askedKey initiator answer hasked =>
          cases hstep
          split <;> exact ⟨.refl reader, Or.inr ⟨call, _, rfl,
            Or.inr ⟨_, hstate, rfl, rfl, brought_ne_awaiting cached answer⟩⟩⟩
      · contradiction
  · contradiction

theorem moves_caches (hstep : reader.caches disableLru call = some after) :
    reader.Moves after := by
  unfold caches at hstep
  split at hstep
  · next key cached request outcome hstate =>
      cases hstep
      refine ⟨?_, Or.inr
        ⟨call, { key, cached, request, stage := .returned outcome }, ?_,
          Or.inr ⟨_, hstate, rfl, rfl, fun heq => by cases heq⟩⟩⟩
      · split
        · split <;> exact .refl reader
        · exact .refl reader
      · split
        · split <;> rfl
        · rfl
  · contradiction

theorem moves_step (hstep : reader.step disableLru event = some after) :
    reader.Moves after := by
  cases event with
  | getBuffer call key =>
      simp only [step] at hstep
      split at hstep
      · next hnew =>
          cases hstep
          exact moves_getBuffer hnew false
      · contradiction
  | getCachedBuffer call key =>
      simp only [step] at hstep
      split at hstep
      · next hnew =>
          cases hstep
          unfold getCachedBuffer
          split
          · refine ⟨.refl reader, Or.inr ⟨call, _, rfl, Or.inl ⟨hnew, ?_⟩⟩⟩
            intro request hrequest
            cases hrequest
          · exact moves_getBuffer hnew true
      · contradiction
  | answers request answer =>
      simp only [step, answers] at hstep
      split at hstep
      · next hasked =>
          cases hstep
          exact ⟨grows_setAnswer hasked rfl answer, Or.inl rfl⟩
      · contradiction
  | resumes call => exact moves_resumes hstep
  | caches call => exact moves_caches hstep
  | evicts key =>
      cases hstep
      exact ⟨.refl reader, Or.inl rfl⟩

theorem Moves.call_cases (moves : reader.Moves after)
    (hstate : after.calls call = some state) :
    reader.calls call = some state ∨
      reader.calls call = none ∧ reader.Begins after state ∨
        ∃ old, reader.calls call = some old ∧ state.key = old.key ∧
          state.request = old.request ∧ state.stage ≠ .awaiting := by
  rcases moves.calls with hsame | ⟨other, next, hnext, hmoved⟩
  · rw [hsame] at hstate
    exact Or.inl hstate
  · rw [hnext] at hstate
    rcases update_some_cases hstate with ⟨rfl, hthis⟩ | ⟨_, hother⟩
    · cases hthis
      exact Or.inr hmoved
    · exact Or.inl hother

/-- A request that is in flight after a step was so before, or is new. -/
theorem Sound.inFlight_before (h : reader.Sound) (moves : reader.Moves after)
    {asked : ProviderRequest} (hasked : reader.requests[request]? = some asked)
    (hflight : after.InFlight request key) : reader.InFlight request key := by
  obtain ⟨later, hlater, hlaterKey, hinitiator, _⟩ :=
    moves.grows request asked hasked
  obtain ⟨found, hfound, hkey, state, hstate, hrequest, hawaits⟩ := hflight
  cases hfound.symm.trans hlater
  rw [hinitiator] at hstate
  refine ⟨asked, hasked, hlaterKey.symm.trans hkey, ?_⟩
  rcases moves.call_cases hstate with hsame | ⟨hnew, _⟩ | ⟨_, _, _, _, hstage⟩
  · exact ⟨state, hsame, hrequest, hawaits⟩
  · cases h.foreign_of_new hnew request asked hasked rfl
  · exact (hstage hawaits).elim

/-- The calls that begin behind a state do not share the request. -/
def Unshared (reader : BufferReader) (request : Nat) (after : BufferReader) :
    Prop :=
  ∀ call state, reader.calls call = none → after.calls call = some state →
    state.request ≠ some request

theorem unshared_step {middle : BufferReader} (hmiddle : middle.Sound)
    (moves : middle.Moves after) {asked : ProviderRequest}
    (hasked : middle.requests[request]? = some asked)
    (hquiet : ∀ key, ¬ middle.InFlight request key)
    (h : reader.Unshared request middle) : reader.Unshared request after := by
  intro call state hnew hstate
  rcases moves.call_cases hstate with hsame | ⟨_, hbegins⟩ |
    ⟨old, hold, _, hrequest, _⟩
  · exact h call state hnew hsame
  · intro heq
    rcases (hbegins request heq).2 with hentry | hlast
    · exact hquiet _ ((hmiddle.stored_iff _ request).mp hentry)
    · have hlt := (List.getElem?_eq_some_iff.mp hasked).1
      exact Nat.lt_irrefl _ (hlast ▸ hlt)
  · rw [hrequest]
    exact h call old hnew hold

/-- A request that is no longer in flight is shared by no later call. -/
theorem unshared_leads (h : reader.Sound)
    (hleads : (machine disableLru).Leads Machine.anyEvent reader after)
    {asked : ProviderRequest} (hasked : reader.requests[request]? = some asked)
    (hquiet : ∀ key, ¬ reader.InFlight request key) :
    reader.Unshared request after := by
  have hkept : (machine disableLru).Preserves Machine.anyEvent fun middle =>
      middle.Sound ∧ (∃ asked, middle.requests[request]? = some asked) ∧
        (∀ key, ¬ middle.InFlight request key) ∧
        reader.Unshared request middle := by
    rintro middle event next _ ⟨hmiddle, ⟨found, hfound⟩, hflight, hunshared⟩ hstep
    have moves := moves_step hstep
    obtain ⟨later, hlater, _⟩ := moves.grows request found hfound
    exact ⟨sound_preserves disableLru _ event _ True.intro hmiddle hstep,
      ⟨later, hlater⟩,
      fun key hnow => hflight key (hmiddle.inFlight_before moves hfound hnow),
      unshared_step hmiddle moves hfound hflight hunshared⟩
  refine (hkept.leads ⟨h, ⟨asked, hasked⟩, hquiet, ?_⟩ hleads).2.2.2
  intro call state hnew hstate
  cases hnew.symm.trans hstate

theorem Moves.kept (moves : reader.Moves after)
    (hstate : reader.calls call = some state) :
    ∃ later, after.calls call = some later ∧ later.key = state.key ∧
      later.request = state.request := by
  rcases moves.calls with hsame | ⟨other, next, hnext, hmoved⟩
  · exact ⟨state, (congrFun hsame call).trans hstate, rfl, rfl⟩
  · rw [hnext]
    rcases eq_or_ne call other with rfl | hne
    · refine ⟨next, Function.update_self .., ?_⟩
      rcases hmoved with ⟨hnew, _⟩ | ⟨old, hold, hkey, hrequest, _⟩
      · cases hnew.symm.trans hstate
      · cases hold.symm.trans hstate
        exact ⟨hkey, hrequest⟩
    · exact ⟨state, (Function.update_of_ne hne ..).trans hstate, rfl, rfl⟩

theorem Moves.begins (moves : reader.Moves after) (hafter : after.Sound)
    (hnew : reader.calls call = none) (hstate : after.calls call = some state)
    (hrequest : state.request = some request) :
    after.InFlight request state.key := by
  rcases moves.call_cases hstate with hsame | ⟨_, hbegins⟩ | ⟨old, hold, _⟩
  · cases hnew.symm.trans hsame
  · exact (hafter.stored_iff _ request).mp (hbegins request hrequest).1
  · cases hnew.symm.trans hold

/-- The promise that the call awaits is settled. -/
def Due (reader : BufferReader) (call : Nat) : Prop :=
  ∃ request asked, reader.Awaits call request ∧
    reader.requests[request]? = some asked ∧ asked.answer ≠ none

/-- What holds of the calls for one key, and of what they get. -/
structure SingleFlight (disableLru : Bool) (reader : BufferReader) : Prop where
  one : ∀ key first second, reader.InFlight first key →
    reader.InFlight second key → first = second
  unanswered : ∀ (request : Nat) (asked : ProviderRequest),
    reader.requests[request]? = some asked → asked.answer = none →
      reader.InFlight request asked.key
  returned : ∀ call state outcome, reader.calls call = some state →
    state.stage = .returned outcome →
      (∃ buffer, outcome = .ok (some buffer) ∧
        reader.Provided state.key buffer) ∨
      ∃ request asked, state.request = some request ∧
        reader.requests[request]? = some asked ∧ asked.key = state.key ∧
        asked.answer = some outcome
  /-- The request of a call is in flight when it begins, and stays its own. -/
  shared : ∀ event after, reader.step disableLru event = some after →
    (∀ call state request, reader.calls call = none →
      after.calls call = some state → state.request = some request →
        after.InFlight request state.key) ∧
    ∀ call state, reader.calls call = some state →
      ∃ later, after.calls call = some later ∧ later.key = state.key ∧
        later.request = state.request
  cached : ∀ key buffer, reader.cache key = some buffer →
    reader.Provided key buffer
  /-- No call that begins behind the return of the call that has made a request
  gets what came of it. -/
  later : ∀ (request : Nat) (asked : ProviderRequest) maker outcome after,
    reader.requests[request]? = some asked →
      reader.calls asked.initiator = some maker →
        maker.stage = .returned outcome →
          (machine disableLru).Leads Machine.anyEvent reader after →
            reader.Unshared request after
  stored : ∀ key request, reader.promiseStore key = some request →
    reader.InFlight request key ∧ ((∀ call, ¬ reader.Due call) →
      ∃ asked, reader.requests[request]? = some asked ∧ asked.answer = none)

namespace Sound

theorem outcome (h : reader.Sound) (hstate : reader.calls call = some state)
    {outcome : Answer} (hstage : state.stage = .returned outcome) :
    (∃ buffer, outcome = .ok (some buffer) ∧
      reader.Provided state.key buffer) ∨
    ∃ request asked, state.request = some request ∧
      reader.requests[request]? = some asked ∧ asked.key = state.key ∧
      asked.answer = some outcome := by
  cases hrequest : state.request with
  | none =>
      obtain ⟨buffer, hreturned, hprovided⟩ := h.hit hstate hrequest
      cases hstage.symm.trans hreturned
      exact Or.inl ⟨buffer, rfl, hprovided⟩
  | some request =>
      obtain ⟨asked, hasked, hkey, houtcome⟩ := h.brought hstate hrequest
      exact Or.inr ⟨request, asked, rfl, hasked, hkey,
        houtcome outcome (Or.inr hstage)⟩

theorem landed {asked : ProviderRequest} {maker : BufferCall}
    {outcome : Answer} (hasked : reader.requests[request]? = some asked)
    (hmaker : reader.calls asked.initiator = some maker)
    (hstage : maker.stage = .returned outcome) (key : String) :
    ¬ reader.InFlight request key := by
  rintro ⟨found, hfound, _, state, hstate, _, hawaits⟩
  cases hfound.symm.trans hasked
  cases hstate.symm.trans hmaker
  cases hawaits.symm.trans hstage

theorem single (h : reader.Sound) : reader.SingleFlight disableLru where
  one key first second hfirst hsecond := by
    have hentry := (h.stored_iff key first).mpr hfirst
    rw [(h.stored_iff key second).mpr hsecond] at hentry
    exact (Option.some.inj hentry).symm
  unanswered request asked hasked hnone := by
    obtain ⟨state, hstate, hrequest, hwaits⟩ := h.initiated request asked hasked
    exact ⟨asked, hasked, rfl, state, hstate, hrequest, hwaits hnone⟩
  returned call state outcome hstate hstage := h.outcome hstate hstage
  shared event after hstep := by
    have moves := moves_step hstep
    have hafter := sound_preserves disableLru _ event _ True.intro h hstep
    exact ⟨fun call state request hnew hstate hrequest =>
      moves.begins hafter hnew hstate hrequest,
      fun call state hstate => moves.kept hstate⟩
  cached := h.cached
  later request asked maker outcome after hasked hmaker hstage hleads :=
    unshared_leads h hleads hasked (landed hasked hmaker hstage)
  stored key request hentry := by
    have hflight := (h.stored_iff key request).mp hentry
    refine ⟨hflight, fun hquiet => ?_⟩
    obtain ⟨asked, hasked, _, hawaits⟩ := hflight
    refine ⟨asked, hasked, ?_⟩
    by_contra hanswered
    exact hquiet asked.initiator ⟨request, asked, hawaits, hasked, hanswered⟩

end Sound

/-- In every reachable state, the calls for a key share one request. -/
theorem single_flight {disableLru : Bool} {reader : BufferReader}
    (h : (machine disableLru).Reachable reader) :
    reader.SingleFlight disableLru :=
  ((sound_preserves disableLru).reaches sound_create h).single

/-- Two calls share an answer that is absent, and the next one asks again. -/
def missesOnce : List BufferReaderEvent :=
  [.getCachedBuffer 0 "genesis", .getCachedBuffer 1 "genesis",
    .answers 0 (.ok none), .resumes 0, .caches 0, .resumes 1,
    .getBuffer 2 "genesis"]

theorem single_flight_missesOnce :
    ((machine false).ended missesOnce).InFlight 1 "genesis" ∧
      ∀ other, ((machine false).ended missesOnce).InFlight other "genesis" →
        other = 1 := by
  have h := single_flight (Machine.reachable_ended
    (show ((machine false).run _ missesOnce).isSome = true by decide +kernel))
  have hflight := (h.stored "genesis" 1 (by decide +kernel)).1
  exact ⟨hflight, fun other hother => h.one "genesis" other 1 hother hflight⟩

end BufferReader

end RuntimeBridge.Lifecycle
