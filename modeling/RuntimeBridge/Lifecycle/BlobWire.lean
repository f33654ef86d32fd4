import RuntimeBridge.Library.Machine
import RuntimeBridge.Library.Update
import RuntimeBridge.Lifecycle.Connection

/-! The protocol of `get`: a connection, the server at its other end, and the
messages between them, which arrive in any order. -/

namespace RuntimeBridge.Lifecycle

open Library DataProvider

/-- Where the message of a call is, or what has become of it. -/
inductive Stage where
  | request (message : Bytes)
  | lookup (lookup : Lookup)
  | response (message : Bytes)
  deriving DecidableEq

/-- `returned` keeps what the database has answered for a call, and for which
key. -/
structure BlobWire where
  connection : Connection
  underWay : Nat → Option Stage
  returned : Nat → Option (String × DbAnswer)

inductive BlobWireEvent where
  | client (event : ConnectionEvent)
  /-- The decoder of the server has the message of a call. -/
  | receives (call : Nat)
  | answers (call : Nat) (answer : DbAnswer)
  /-- The decoder of the client has the response to a call. -/
  | data (call : Nat)
  | loses (call : Nat)
  deriving DecidableEq

namespace BlobWire

variable {crc32c : Bytes → UInt32}

def create : BlobWire where
  connection := .create
  underWay _ := none
  returned _ := none

def move (wire : BlobWire) (call : Nat) (stage : Option Stage) : BlobWire :=
  { wire with underWay := Function.update wire.underWay call stage }

/-- `get` writes the message of the call. -/
def client (crc32c : Bytes → UInt32) (wire : BlobWire) :
    ConnectionEvent → Option BlobWire
  | .get key id =>
      let call := wire.connection.calls.length
      let message := GetCall.message { key, id, promise := .pending }
      some { wire with
        connection := wire.connection.get key id
        underWay := Function.update wire.underWay call (some (.request message)) }
  | .data _ => none
  | event =>
      some { wire with connection := wire.connection.handle crc32c event }

def step (crc32c : Bytes → UInt32) (wire : BlobWire) :
    BlobWireEvent → Option BlobWire
  | .client event => wire.client crc32c event
  | .receives call =>
      match wire.underWay call with
      | some (.request message) =>
          some (wire.move call ((localServer message).map .lookup))
      | _ => none
  | .answers call answer =>
      match wire.underWay call with
      | some (.lookup lookup) =>
          some { wire.move call (some (.response (lookup.response crc32c answer)))
            with returned :=
              Function.update wire.returned call (some (lookup.key, answer)) }
      | _ => none
  | .data call =>
      match wire.underWay call with
      | some (.response message) =>
          some { wire.move call none with
            connection := wire.connection.data crc32c message }
      | _ => none
  | .loses call =>
      match wire.underWay call with
      | some _ => some (wire.move call none)
      | none => none

def machine (crc32c : Bytes → UInt32) : Machine BlobWire BlobWireEvent where
  start := create
  step := step crc32c

/-- A call has its id as long as its message, its lookup or its response is
under way. -/
def Outstanding (wire : BlobWire) (id : RequestId) : Prop :=
  ∃ call stage get, wire.underWay call = some stage ∧
    wire.connection.calls[call]? = some get ∧ get.id = id

/-- The keys that are asked for, and ids that are not in use. -/
def Admits (wire : BlobWire) : BlobWireEvent → Prop
  | .client (.get key id) => key ≠ "" ∧ trim key = key ∧ ¬ wire.Outstanding id
  | _ => True

end BlobWire

namespace Connection

variable (crc32c : Bytes → UInt32) (id : RequestId) (key : String)

/-- The frame of a response, read back. -/
theorem settle_response (answer : DbAnswer) (call : GetCall) :
    settle crc32c (Lookup.response crc32c { id := id.val, key } answer) call =
      call.resolve answer.buffer := by
  have hid := id.property
  have hempty : settle crc32c id.val call = call.resolve none :=
    if_pos (by omega)
  match answer with
  | .notFound => exact hempty
  | .failed _ => exact hempty
  | .found [] => exact hempty
  | .found (byte :: rest) =>
      have hcrc := crc32cBuffer_length crc32c (byte :: rest)
      have hhead : (id.val ++ crc32cBuffer crc32c (byte :: rest)).length = 16 := by
        rw [List.length_append, hid, hcrc]
      rw [Lookup.response_found, settle, if_neg, List.drop_left' hhead,
        List.append_assoc, List.drop_left' hid, List.take_left' hcrc]
      · exact if_neg (not_not_intro rfl)
      · rw [List.length_append, hhead, List.length_cons]
        omega

theorem response_id (answer : DbAnswer) :
    ∃ rest, Lookup.response crc32c { id := id.val, key } answer =
      id.val ++ rest := by
  match answer with
  | .notFound => exact ⟨[], (List.append_nil _).symm⟩
  | .failed _ => exact ⟨[], (List.append_nil _).symm⟩
  | .found [] => exact ⟨[], (List.append_nil _).symm⟩
  | .found (byte :: rest) =>
      exact ⟨_, (Lookup.response_found ..).trans (List.append_assoc ..)⟩

theorem data_of_take {data : Bytes} (connection : Connection)
    (hlong : ¬ data.length < 8) (htake : data.take 8 = id.val) :
    connection.data crc32c data =
      match connection.responseMap.lookup id with
      | none => connection
      | some call =>
          { connection with
            calls := connection.calls.modify call (settle crc32c data)
            responseMap := connection.responseMap.erase id } := by
  obtain ⟨bytes, hbytes⟩ := id
  cases htake
  exact dif_neg hlong

/-- A response does nothing but resolve the call that has its id. -/
theorem data_response (connection : Connection) (answer : DbAnswer) :
    connection.data crc32c
        (Lookup.response crc32c { id := id.val, key } answer) =
      match connection.responseMap.lookup id with
      | none => connection
      | some call =>
          { connection with
            calls := connection.calls.modify call (·.resolve answer.buffer)
            responseMap := connection.responseMap.erase id } := by
  obtain ⟨rest, hrest⟩ := response_id crc32c id key answer
  rw [data_of_take crc32c id, funext (settle_response crc32c id key answer)]
  · rw [hrest, List.length_append, id.property]
    omega
  · rw [hrest, List.take_left' id.property]

end Connection

/-- Nothing but an error can come to a call. -/
structure GetCall.Rejects (before after : GetCall) : Prop where
  key : after.key = before.key
  id : after.id = before.id
  settled : before.promise.isSettled = true → after = before
  resolved : ∀ buffer, after.promise = .resolved buffer →
    before.promise = .resolved buffer

theorem GetCall.Rejects.refl (call : GetCall) : call.Rejects call where
  key := rfl
  id := rfl
  settled _ := rfl
  resolved _ h := h

theorem GetCall.Rejects.trans {before middle after : GetCall}
    (first : before.Rejects middle) (second : middle.Rejects after) :
    before.Rejects after where
  key := second.key.trans first.key
  id := second.id.trans first.id
  settled h := by
    have hmiddle := first.settled h
    rw [second.settled (by rw [hmiddle]; exact h), hmiddle]
  resolved buffer h := first.resolved buffer (second.resolved buffer h)

theorem GetCall.rejects_reject (call : GetCall) (error : String) :
    call.Rejects (call.reject error) where
  key := rfl
  id := rfl
  settled h := by
    rw [GetCall.reject, Promise.reject_of_settled h]
  resolved _ h := Promise.resolved_of_reject h

/-- The same calls, except that errors may have come to them. -/
def Rejected (before after : List GetCall) : Prop :=
  ∀ call : Nat, Option.Rel GetCall.Rejects before[call]? after[call]?

theorem Rejected.refl (calls : List GetCall) : Rejected calls calls := by
  intro call
  cases calls[call]? with
  | none => exact .none
  | some get => exact .some (.refl get)

theorem GetCall.rejects_rel_trans {before middle after : Option GetCall}
    (first : Option.Rel Rejects before middle)
    (second : Option.Rel Rejects middle after) :
    Option.Rel Rejects before after := by
  cases first with
  | none => exact second
  | some hfirst =>
      cases second with
      | some hsecond => exact .some (hfirst.trans hsecond)

theorem Rejected.trans {before middle after : List GetCall}
    (first : Rejected before middle) (second : Rejected middle after) :
    Rejected before after := fun call =>
  GetCall.rejects_rel_trans (first call) (second call)

theorem Rejected.after {before after : List GetCall} {call : Nat}
    {get : GetCall} (h : Rejected before after)
    (hget : before[call]? = some get) :
    ∃ later, after[call]? = some later ∧ get.Rejects later := by
  have hrel := h call
  rw [hget] at hrel
  generalize after[call]? = found at hrel
  cases hrel with
  | some hrejects => exact ⟨_, rfl, hrejects⟩

theorem Rejected.before {before after : List GetCall} {call : Nat}
    {get : GetCall} (h : Rejected before after)
    (hget : after[call]? = some get) :
    ∃ earlier, before[call]? = some earlier ∧ earlier.Rejects get := by
  have hrel := h call
  rw [hget] at hrel
  generalize before[call]? = found at hrel
  cases hrel with
  | some hrejects => exact ⟨_, rfl, hrejects⟩

theorem rejected_modify (calls : List GetCall) (place : Nat) (error : String) :
    Rejected calls (calls.modify place (·.reject error)) := by
  intro call
  rw [List.getElem?_modify]
  cases calls[call]? with
  | none => exact .none
  | some get =>
      refine .some ?_
      split
      · exact get.rejects_reject error
      · exact .refl get

namespace Connection

/-- What `cleanup`, the timers and failed writes can do. -/
structure Fails (before after : Connection) : Prop where
  calls : Rejected before.calls after.calls
  responseMap : ∀ id call, after.responseMap.lookup id = some call →
    before.responseMap.lookup id = some call

theorem rejected_foldl (places : List Nat) (error : String)
    (calls : List GetCall) :
    Rejected calls (places.foldl
      (fun calls call => calls.modify call (·.reject error)) calls) := by
  induction places generalizing calls with
  | nil => exact .refl calls
  | cons place rest ih =>
      exact (rejected_modify calls place error).trans (ih _)

theorem lookup_of_erase {responseMap : AList fun _ : RequestId => Nat}
    {id other : RequestId} {call : Nat}
    (h : (responseMap.erase other).lookup id = some call) :
    responseMap.lookup id = some call := by
  rcases eq_or_ne id other with rfl | hne
  · rw [AList.lookup_erase] at h
    cases h
  · rw [AList.lookup_erase_ne hne] at h
    exact h

theorem fails_cleanup (connection : Connection) :
    connection.Fails connection.cleanup := by
  unfold cleanup
  split
  · exact ⟨.refl _, fun _ _ h => h⟩
  · refine ⟨rejected_foldl _ _ _, fun id call h => ?_⟩
    simp only [AList.lookup_empty] at h
    cases h

theorem fails_timeout (connection : Connection) (call : Nat) :
    connection.Fails (connection.timeout call) := by
  unfold timeout
  split
  · exact ⟨.refl _, fun _ _ h => h⟩
  · exact ⟨rejected_modify _ _ _, fun _ _ => lookup_of_erase⟩

end Connection

/-- What is under way for a call, and what the database has said about it. -/
def Stage.Of (crc32c : Bytes → UInt32) (get : GetCall)
    (returned : Option (String × DbAnswer)) : Stage → Prop
  | .request message =>
      message = get.message ∧ get.key ≠ "" ∧ trim get.key = get.key
  | .lookup asked => asked = { id := get.id.val, key := get.key }
  | .response message => ∃ answer, returned = some (get.key, answer) ∧
      message = Lookup.response crc32c { id := get.id.val, key := get.key } answer

theorem Stage.Of.rejects {crc32c : Bytes → UInt32} {before after : GetCall}
    {returned : Option (String × DbAnswer)} {stage : Stage}
    (h : stage.Of crc32c before returned) (rejects : before.Rejects after) :
    stage.Of crc32c after returned := by
  cases stage with
  | request message =>
      simpa only [Stage.Of, GetCall.message, rejects.key, rejects.id] using h
  | lookup asked =>
      simpa only [Stage.Of, rejects.key, rejects.id] using h
  | response message =>
      simpa only [Stage.Of, rejects.key, rejects.id] using h

namespace BlobWire

/-- A message under way belongs to the call that its id leads to, and a call
that is resolved has got the answer to its own lookup. -/
structure Sound (crc32c : Bytes → UInt32) (wire : BlobWire) : Prop where
  stages : ∀ call stage, wire.underWay call = some stage →
    ∃ get, wire.connection.calls[call]? = some get ∧
      stage.Of crc32c get (wire.returned call)
  matched : ∀ call stage get other, wire.underWay call = some stage →
    wire.connection.calls[call]? = some get →
      wire.connection.responseMap.lookup get.id = some other → other = call
  resolved : ∀ call get buffer, wire.connection.calls[call]? = some get →
    get.promise = .resolved buffer → wire.underWay call = none ∧
      ∃ answer, wire.returned call = some (get.key, answer) ∧
        answer.buffer = buffer

theorem sound_create (crc32c : Bytes → UInt32) : create.Sound crc32c where
  stages call stage h := by cases h
  matched call stage get other h := by cases h
  resolved call get buffer h := by cases h

namespace Sound

variable {crc32c : Bytes → UInt32} {wire : BlobWire} {call : Nat}

theorem fails (h : wire.Sound crc32c) {connection : Connection}
    (fails : wire.connection.Fails connection) :
    Sound crc32c { wire with connection } where
  stages call stage hstage := by
    obtain ⟨get, hget, hof⟩ := h.stages call stage hstage
    obtain ⟨later, hlater, hrejects⟩ := fails.calls.after hget
    exact ⟨later, hlater, hof.rejects hrejects⟩
  matched call stage get other hstage hget hlookup := by
    obtain ⟨earlier, hearlier, hrejects⟩ := fails.calls.before hget
    rw [hrejects.id] at hlookup
    exact h.matched call stage earlier other hstage hearlier
      (fails.responseMap _ other hlookup)
  resolved call get buffer hget hresolved := by
    obtain ⟨earlier, hearlier, hrejects⟩ := fails.calls.before hget
    rw [hrejects.key]
    exact h.resolved call earlier buffer hearlier
      (hrejects.resolved buffer hresolved)

theorem move (h : wire.Sound crc32c) {stage : Option Stage} {old : Stage}
    (hold : wire.underWay call = some old)
    (hstage : ∀ next get, stage = some next →
      wire.connection.calls[call]? = some get →
        next.Of crc32c get (wire.returned call)) :
    (wire.move call stage).Sound crc32c where
  stages other next hnext := by
    rcases update_some_cases hnext with ⟨rfl, hthis⟩ | ⟨_, hother⟩
    · obtain ⟨get, hget, _⟩ := h.stages other old hold
      exact ⟨get, hget, hstage next get hthis hget⟩
    · exact h.stages other next hother
  matched other next get place hnext hget hlookup := by
    rcases update_some_cases hnext with ⟨rfl, _⟩ | ⟨_, hother⟩
    · exact h.matched other old get place hold hget hlookup
    · exact h.matched other next get place hother hget hlookup
  resolved other get buffer hget hresolved := by
    obtain ⟨hnone, hanswer⟩ := h.resolved other get buffer hget hresolved
    refine ⟨(Function.update_of_ne ?_ ..).trans hnone, hanswer⟩
    rintro rfl
    rw [hold] at hnone
    cases hnone

theorem get (h : wire.Sound crc32c) {key : String} {id : RequestId}
    (hkey : key ≠ "") (htrim : trim key = key) (unused : ¬ wire.Outstanding id) :
    Sound crc32c
      { wire with
        connection := wire.connection.get key id
        underWay := Function.update wire.underWay wire.connection.calls.length
          (some (.request (GetCall.message { key, id, promise := .pending }))) }
    where
  stages call stage hstage := by
    rcases update_some_cases hstage with ⟨rfl, hthis⟩ | ⟨_, hother⟩
    · cases hthis
      exact ⟨_, List.getElem?_concat_length, rfl, hkey, htrim⟩
    · obtain ⟨get, hget, hof⟩ := h.stages call stage hother
      exact ⟨get, getElem?_concat_of_some hget _, hof⟩
  matched call stage get other hstage hget hlookup := by
    rcases update_some_cases hstage with ⟨rfl, _⟩ | ⟨_, hold⟩
    · cases List.getElem?_concat_length.symm.trans hget
      exact (Option.some.inj ((AList.lookup_insert _).symm.trans hlookup)).symm
    · obtain ⟨earlier, hearlier, _⟩ := h.stages call stage hold
      cases (getElem?_concat_of_some hearlier _).symm.trans hget
      have hne : get.id ≠ id := fun heq =>
        unused ⟨call, stage, get, hold, hearlier, heq⟩
      exact h.matched call stage get other hold hearlier
        ((AList.lookup_insert_ne hne).symm.trans hlookup)
  resolved call get buffer hget hresolved := by
    rcases getElem?_concat_cases hget with hold | ⟨_, rfl⟩
    · obtain ⟨hnone, hanswer⟩ := h.resolved call get buffer hold hresolved
      refine ⟨(Function.update_of_ne ?_ ..).trans hnone, hanswer⟩
      exact Nat.ne_of_lt (List.getElem?_eq_some_iff.mp hold).1
    · cases hresolved

theorem answers (h : wire.Sound crc32c) {lookup : Lookup}
    (hlookup : wire.underWay call = some (.lookup lookup)) (answer : DbAnswer) :
    Sound crc32c
      { wire.move call (some (.response (lookup.response crc32c answer))) with
        returned :=
          Function.update wire.returned call (some (lookup.key, answer)) } where
  stages other stage hstage := by
    rcases update_some_cases hstage with ⟨rfl, hthis⟩ | ⟨hne, hother⟩
    · obtain ⟨get, hget, rfl⟩ := h.stages other _ hlookup
      cases hthis
      exact ⟨get, hget, answer, Function.update_self .., rfl⟩
    · obtain ⟨get, hget, hof⟩ := h.stages other stage hother
      refine ⟨get, hget, ?_⟩
      simp only
      rw [Function.update_of_ne hne]
      exact hof
  matched other stage get place hstage hget hentry := by
    rcases update_some_cases hstage with ⟨rfl, _⟩ | ⟨_, hother⟩
    · exact h.matched other _ get place hlookup hget hentry
    · exact h.matched other stage get place hother hget hentry
  resolved other get buffer hget hresolved := by
    obtain ⟨hnone, hanswer⟩ := h.resolved other get buffer hget hresolved
    have hne : other ≠ call := by
      rintro rfl
      rw [hlookup] at hnone
      cases hnone
    refine ⟨(Function.update_of_ne hne ..).trans hnone, ?_⟩
    simp only
    rw [Function.update_of_ne hne]
    exact hanswer

/-- What the client does with the response to a call: it settles that call, if
it settles any. -/
theorem data_cases (h : wire.Sound crc32c) {message : Bytes}
    (hmessage : wire.underWay call = some (.response message)) :
    ∃ get answer, wire.connection.calls[call]? = some get ∧
      wire.returned call = some (get.key, answer) ∧
      (wire.connection.data crc32c message = wire.connection ∨
        wire.connection.data crc32c message =
          { wire.connection with
            calls := wire.connection.calls.modify call (·.resolve answer.buffer)
            responseMap := wire.connection.responseMap.erase get.id }) := by
  obtain ⟨get, hget, answer, hreturned, rfl⟩ := h.stages call _ hmessage
  refine ⟨get, answer, hget, hreturned, ?_⟩
  rw [Connection.data_response]
  cases hlookup : wire.connection.responseMap.lookup get.id with
  | none => exact Or.inl rfl
  | some other =>
      cases h.matched call _ get other hmessage hget hlookup
      exact Or.inr rfl

theorem resolve (h : wire.Sound crc32c) (hnone : wire.underWay call = none)
    {get : GetCall} (hget : wire.connection.calls[call]? = some get)
    {answer : DbAnswer}
    (hreturned : wire.returned call = some (get.key, answer)) :
    Sound crc32c
      { wire with
        connection := { wire.connection with
          calls := wire.connection.calls.modify call (·.resolve answer.buffer)
          responseMap := wire.connection.responseMap.erase get.id } } where
  stages other stage hstage := by
    obtain ⟨found, hfound, hof⟩ := h.stages other stage hstage
    refine ⟨found, ?_, hof⟩
    rw [List.getElem?_modify_ne, hfound]
    rintro rfl
    cases hnone.symm.trans hstage
  matched other stage found place hstage hfound hlookup := by
    obtain ⟨old, hold, ⟨rfl, _⟩ | ⟨_, rfl⟩⟩ := getElem?_modify_cases hfound
    · cases hnone.symm.trans hstage
    · exact h.matched other stage _ place hstage hold
        (Connection.lookup_of_erase hlookup)
  resolved other found buffer hfound hresolved := by
    obtain ⟨old, hold, ⟨rfl, rfl⟩ | ⟨_, rfl⟩⟩ := getElem?_modify_cases hfound
    · cases hold.symm.trans hget
      refine ⟨hnone, ?_⟩
      rcases Promise.resolved_of_resolve hresolved with hearlier | rfl
      · exact (h.resolved call _ buffer hget hearlier).2
      · exact ⟨answer, hreturned, rfl⟩
    · exact h.resolved other _ buffer hold hresolved

theorem data (h : wire.Sound crc32c) {message : Bytes}
    (hmessage : wire.underWay call = some (.response message)) :
    Sound crc32c
      { wire.move call none with
        connection := wire.connection.data crc32c message } := by
  have hmoved : (wire.move call none).Sound crc32c :=
    h.move hmessage fun _ _ hnone => by cases hnone
  obtain ⟨get, answer, hget, hreturned, hsame | hresolves⟩ :=
    h.data_cases hmessage
  · rw [hsame]
    exact hmoved
  · rw [hresolves]
    exact hmoved.resolve (Function.update_self ..) hget hreturned

end Sound

theorem client_cases {wire after : BlobWire} {event : ConnectionEvent}
    {crc32c : Bytes → UInt32} (h : wire.client crc32c event = some after) :
    (∃ key id, event = .get key id) ∨
      ∃ connection, after = { wire with connection } ∧
        wire.connection.Fails connection := by
  cases event with
  | get key id => exact Or.inl ⟨key, id, rfl⟩
  | data data => cases h
  | writeFails call error =>
      cases h
      exact Or.inr ⟨_, rfl, rejected_modify _ _ _, fun _ _ h => h⟩
  | timeout call =>
      cases h
      exact Or.inr ⟨_, rfl, Connection.fails_timeout _ call⟩
  | connect =>
      cases h
      exact Or.inr ⟨_, rfl, .refl _, fun _ _ h => h⟩
  | error error =>
      cases h
      have hcleanup := Connection.fails_cleanup { wire.connection with
        connectPromise := wire.connection.connectPromise.reject error }
      exact Or.inr ⟨_, rfl, hcleanup.calls, hcleanup.responseMap⟩
  | close =>
      cases h
      exact Or.inr ⟨_, rfl, Connection.fails_cleanup _⟩

theorem sound_preserves (crc32c : Bytes → UInt32) :
    (machine crc32c).Preserves Admits (Sound crc32c) := by
  intro before event after hadmits h hstep
  cases event with
  | client event =>
      rcases client_cases hstep with ⟨key, id, rfl⟩ | ⟨connection, rfl, hfails⟩
      · obtain ⟨hkey, htrim, unused⟩ := hadmits
        cases hstep
        exact h.get hkey htrim unused
      · exact h.fails hfails
  | receives call =>
      simp only [machine, step] at hstep
      split at hstep
      · next message hmessage =>
          cases hstep
          refine h.move hmessage fun next get hnext hget => ?_
          obtain ⟨found, hfound, rfl, hkey, htrim⟩ := h.stages call _ hmessage
          cases hfound.symm.trans hget
          rw [GetCall.message, localServer_message get.id.property hkey htrim]
            at hnext
          cases hnext
          rfl
      · contradiction
  | answers call answer =>
      simp only [machine, step] at hstep
      split at hstep
      · next lookup hlookup =>
          cases hstep
          exact h.answers hlookup answer
      · contradiction
  | data call =>
      simp only [machine, step] at hstep
      split at hstep
      · next message hmessage =>
          cases hstep
          exact h.data hmessage
      · contradiction
  | loses call =>
      simp only [machine, step] at hstep
      split at hstep
      · next stage hstage =>
          cases hstep
          exact h.move hstage fun _ _ hnone => by cases hnone
      · contradiction

/-- The client goes on, or the message of one call does. -/
theorem step_cases {wire after : BlobWire} {event : BlobWireEvent}
    (hstep : wire.step crc32c event = some after) :
    (∃ act, wire.client crc32c act = some after) ∨
      ∃ place old stage, wire.underWay place = some old ∧
        after.underWay = Function.update wire.underWay place stage ∧
        (after.connection = wire.connection ∨
          ∃ message, old = .response message ∧
            after.connection = wire.connection.data crc32c message) := by
  cases event with
  | client act => exact Or.inl ⟨act, hstep⟩
  | receives place =>
      simp only [step] at hstep
      split at hstep
      · next hold =>
          cases hstep
          exact Or.inr ⟨place, _, _, hold, rfl, Or.inl rfl⟩
      · contradiction
  | answers place answer =>
      simp only [step] at hstep
      split at hstep
      · next hold =>
          cases hstep
          exact Or.inr ⟨place, _, _, hold, rfl, Or.inl rfl⟩
      · contradiction
  | data place =>
      simp only [step] at hstep
      split at hstep
      · next message hold =>
          cases hstep
          exact Or.inr ⟨place, _, _, hold, rfl, Or.inr ⟨message, rfl, rfl⟩⟩
      · contradiction
  | loses place =>
      simp only [step] at hstep
      split at hstep
      · next hold =>
          cases hstep
          exact Or.inr ⟨place, _, _, hold, rfl, Or.inl rfl⟩
      · contradiction

theorem settled_step {wire after : BlobWire} (h : wire.Sound crc32c)
    {event : BlobWireEvent} {call : Nat} {get : GetCall}
    (hget : wire.connection.calls[call]? = some get)
    (settled : get.promise.isSettled = true)
    (hstep : wire.step crc32c event = some after) :
    after.connection.calls[call]? = some get := by
  rcases step_cases hstep with ⟨act, hact⟩ |
    ⟨place, old, stage, hold, _, hsame | ⟨message, rfl, hdata⟩⟩
  · rcases client_cases hact with ⟨key, id, rfl⟩ | ⟨connection, rfl, hfails⟩
    · cases hact
      exact getElem?_concat_of_some hget _
    · obtain ⟨later, hlater, hrejects⟩ := hfails.calls.after hget
      rw [hrejects.settled settled] at hlater
      exact hlater
  · rw [hsame]
    exact hget
  · rw [hdata]
    obtain ⟨_, answer, _, _, hsame | hresolves⟩ := h.data_cases hold
    · rw [hsame]
      exact hget
    · rw [hresolves]
      refine (List.getElem?_modify ..).trans ?_
      rw [hget]
      refine congrArg some ?_
      simp only
      split
      · rw [GetCall.resolve, Promise.resolve_of_settled settled]
      · rfl

/-- A call has one message, which does not come back. -/
theorem gone_step {wire after : BlobWire} {event : BlobWireEvent} {call : Nat}
    {get : GetCall} (hget : wire.connection.calls[call]? = some get)
    (gone : wire.underWay call = none)
    (hstep : wire.step crc32c event = some after) :
    after.underWay call = none := by
  rcases step_cases hstep with ⟨act, hact⟩ |
    ⟨place, old, stage, hold, hunderWay, _⟩
  · rcases client_cases hact with ⟨key, id, rfl⟩ | ⟨connection, rfl, _⟩
    · cases hact
      have hnew := Nat.ne_of_lt (List.getElem?_eq_some_iff.mp hget).1
      exact (Function.update_of_ne hnew ..).trans gone
    · exact gone
  · have hne : call ≠ place := by
      rintro rfl
      cases gone.symm.trans hold
    rw [hunderWay, Function.update_of_ne hne, gone]

theorem data_step {wire after : BlobWire} (h : wire.Sound crc32c) {call : Nat}
    (hstep : wire.step crc32c (.data call) = some after) :
    after.underWay call = none ∧ ∀ other, other ≠ call →
      after.connection.calls[other]? = wire.connection.calls[other]? := by
  simp only [step] at hstep
  split at hstep
  · next message hmessage =>
      cases hstep
      refine ⟨Function.update_self .., fun other hne => ?_⟩
      obtain ⟨_, answer, _, _, hsame | hresolves⟩ := h.data_cases hmessage
      · rw [hsame]
      · rw [hresolves]
        exact List.getElem?_modify_ne _ _ hne.symm
  · contradiction

/-- In every run whose calls have ids that are not in use, a call that resolves
has what the database has returned for its key.  A response settles no other
call, and none follows it; what is settled stays as it is. -/
theorem get_answered {crc32c : Bytes → UInt32} {wire : BlobWire}
    (h : (machine crc32c).Reaches Admits wire) :
    (∀ (call : Nat) (get : GetCall) (buffer : Option Bytes),
      wire.connection.calls[call]? = some get →
        get.promise = .resolved buffer →
          ∃ answer, wire.returned call = some (get.key, answer) ∧
            answer.buffer = buffer) ∧
    (∀ (call : Nat) (after : BlobWire),
      wire.step crc32c (.data call) = some after →
        after.underWay call = none ∧ ∀ other, other ≠ call →
          after.connection.calls[other]? = wire.connection.calls[other]?) ∧
    ∀ (event : BlobWireEvent) (after : BlobWire) (call : Nat) (get : GetCall),
      wire.step crc32c event = some after →
        wire.connection.calls[call]? = some get →
          (wire.underWay call = none → after.underWay call = none) ∧
            (get.promise.isSettled = true →
              after.connection.calls[call]? = some get) := by
  have hsound := (sound_preserves crc32c).reaches (sound_create crc32c) h
  refine ⟨?_, ?_, ?_⟩
  · intro call get buffer hget hresolved
    exact (hsound.resolved call get buffer hget hresolved).2
  · intro call after hstep
    exact data_step hsound hstep
  · intro event after call get hstep hget
    exact ⟨fun gone => gone_step hget gone hstep,
      fun settled => settled_step hsound hget settled hstep⟩

/-- The key is in order, and no earlier call has the id. -/
def admitsNew (wire : BlobWire) : BlobWireEvent → Bool
  | .client (.get key id) => key ≠ "" && trim key == key &&
      wire.connection.calls.all fun get => get.id ≠ id
  | _ => true

theorem admits_of_new (wire : BlobWire) (event : BlobWireEvent)
    (h : wire.admitsNew event = true) : wire.Admits event := by
  match event with
  | .client (.get key id) =>
      simp only [admitsNew, Bool.and_eq_true, decide_eq_true_eq, beq_iff_eq] at h
      obtain ⟨⟨hkey, htrim⟩, hnew⟩ := h
      refine ⟨hkey, htrim, ?_⟩
      rintro ⟨call, stage, get, _, hget, hid⟩
      have hne := List.all_eq_true.mp hnew get (List.mem_of_getElem? hget)
      exact of_decide_eq_true hne hid
  | .client (.writeFails _ _) => trivial
  | .client (.timeout _) => trivial
  | .client (.data _) => trivial
  | .client .connect => trivial
  | .client (.error _) => trivial
  | .client .close => trivial
  | .receives _ => trivial
  | .answers _ _ => trivial
  | .data _ => trivial
  | .loses _ => trivial

/-- The second call is answered first. -/
def crossed : List BlobWireEvent :=
  [.client (.get "header:7" ⟨[1, 0, 0, 0, 0, 0, 0, 0], rfl⟩),
    .client (.get "header:8" ⟨[2, 0, 0, 0, 0, 0, 0, 0], rfl⟩),
    .receives 0, .receives 1, .answers 1 .notFound, .answers 0 (.found [42]),
    .data 1, .data 0]

theorem get_answered_crossed :
    ∃ answer, ((machine fun _ => 7).endedIf admitsNew crossed).returned 0 =
      some ("header:7", answer) ∧ answer.buffer = some [42] :=
  (get_answered (Machine.reaches_endedIf admits_of_new
    (by decide +kernel))).1 0
      { key := "header:7", id := ⟨[1, 0, 0, 0, 0, 0, 0, 0], rfl⟩,
        promise := .resolved (some [42]) } (some [42]) (by decide +kernel) rfl

end BlobWire

end RuntimeBridge.Lifecycle
