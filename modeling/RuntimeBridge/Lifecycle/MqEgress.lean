import RuntimeBridge.Library.Numbered
import RuntimeBridge.Lifecycle.Worker

/-! `startSyncMessage` of `message.js` between pRuntime, which queues messages
for the chain, and the chain, which takes the messages of each origin in order.
A batch that was dispatched may be executed at any later time, or never, and the
loop of a context that was replaced may still be at its last step.  The pallets
of the chain are a parameter. -/

namespace RuntimeBridge.Lifecycle

open Library

variable {Origin Message : Type}

/-- The loop of `doMqEgressSync` over the origins. -/
structure EgressRound (Origin Message : Type) where
  rest : List (Origin × List Message)
  ret : List Message

/-- What `doMqEgressSync` awaits. -/
inductive EgressCall (Origin Message : Type) where
  | getEgressMessages
  | offchainIngress (round : EgressRound Origin Message)
  | dispatchTx

structure EgressLoop (Origin Message : Type) where
  sync : MessageSync
  call : EgressCall Origin Message
  messages : List (Origin × List Message)

inductive EgressLoopEvent (Origin Message : Type) where
  | stops
  | polls
  | getsMessages (messages : List (Origin × List Message))
  | getsIngress (onChainSequence : Nat)
  | dispatched
  | fails (error : String)
  | recovers
  /-- The error is `undefined` and has no `toString`. -/
  | recoveryFails

/-- A call that has failed, and the state in which it was made. -/
structure Refusal (State Message : Type) where
  state : State
  message : Message
  error : String

/-- The chain, as far as the loops see it: what it says and what it makes of the
calls. -/
structure PhalaMq (Origin Message : Type) where
  State : Type
  /-- The sequence that is expected of an origin. -/
  offchainIngress : State → Origin → Nat
  syncOffchainMessage : State → Message → Except String State
  /-- A batch of the calls above. -/
  forceBatch : State → List Message → State × List (Refusal State Message)

/-- The chain takes the next message of each origin, and no other.  The calls of
a batch are made one by one, and one that fails changes nothing. -/
structure PhalaMq.InOrder (numbering : Numbering Origin Message)
    [DecidableEq Origin] (pallet : PhalaMq Origin Message) : Prop where
  takes : ∀ state message, numbering.valid message →
    numbering.sequence message =
      pallet.offchainIngress state (numbering.origin message) →
    ∃ after, pallet.syncOffchainMessage state message = .ok after
  taken : ∀ state message after,
    pallet.syncOffchainMessage state message = .ok after →
    numbering.sequence message =
        pallet.offchainIngress state (numbering.origin message) ∧
      pallet.offchainIngress after =
        Function.update (pallet.offchainIngress state)
          (numbering.origin message) (numbering.sequence message + 1)
  batch_nil : ∀ state, pallet.forceBatch state [] = (state, [])
  batch_ok : ∀ state message rest after,
    pallet.syncOffchainMessage state message = .ok after →
    pallet.forceBatch state (message :: rest) = pallet.forceBatch after rest
  batch_error : ∀ state message rest error,
    pallet.syncOffchainMessage state message = .error error →
    pallet.forceBatch state (message :: rest) =
      ((pallet.forceBatch state rest).1,
        { state, message, error } :: (pallet.forceBatch state rest).2)

/-- The loops of the contexts that a worker has had, and the chain. -/
structure MqEgress (pallet : PhalaMq Origin Message) where
  loops : List (EgressLoop Origin Message)
  chain : pallet.State
  /-- The batches that are dispatched and not executed. -/
  sent : List (List Message)
  refused : List (Refusal pallet.State Message)

inductive MqEgressEvent (pallet : PhalaMq Origin Message) where
  | starts
  | loop (place : Nat) (event : EgressLoopEvent Origin Message)
  | executes (batch : List Message)
  /-- The chain goes on with what others send. -/
  | chainGoesOn (next : pallet.State)

namespace EgressLoop

def startSyncMessage : EgressLoop Origin Message where
  sync := .startSyncMessage
  call := .getEgressMessages
  messages := []

/-- The loop over the origins up to its next query, or what follows it; with it
comes the batch that is dispatched, if there is one. -/
def continues (loop : EgressLoop Origin Message)
    (round : EgressRound Origin Message) :
    EgressLoop Origin Message × Option (List Message) :=
  match round.rest, round.ret with
  | _ :: _, _ => ({ loop with call := .offchainIngress round }, none)
  | [], [] =>
      ({ loop with
          sync := MessageSync.resumed
            { loop.sync with
              synchedToTargetPromise :=
                loop.sync.synchedToTargetPromise.resolve () } },
        none)
  | [], message :: others =>
      ({ loop with
          sync := { loop.sync with dispatching := true }
          call := .dispatchTx },
        some (message :: others))

def getsMessages (loop : EgressLoop Origin Message)
    (messages : List (Origin × List Message)) :
    Option (EgressLoop Origin Message × Option (List Message)) :=
  match loop.sync.loop, loop.call with
  | .running _ _ _, .getEgressMessages =>
      some (continues { loop with messages } { rest := messages, ret := [] })
  | _, _ => none

/-- The node that is asked may be behind the chain. -/
def getsIngress (numbering : Numbering Origin Message) (ingress : Origin → Nat)
    (loop : EgressLoop Origin Message) (onChainSequence : Nat) :
    Option (EgressLoop Origin Message × Option (List Message)) :=
  match loop.sync.loop, loop.call with
  | .running _ _ _, .offchainIngress ⟨(origin, innerMessages) :: rest, ret⟩ =>
      if onChainSequence ≤ ingress origin then
        some (loop.continues
          { rest
            ret := ret ++ innerMessages.filter fun message =>
              decide (onChainSequence ≤ numbering.sequence message) })
      else
        none
  | _, _ => none

def dispatched (loop : EgressLoop Origin Message) :
    Option (EgressLoop Origin Message) :=
  match loop.sync.loop, loop.call with
  | .running _ _ _, .dispatchTx => some { loop with sync := loop.sync.resumed }
  | _, _ => none

/-- Behind the last attempt `throwFatal` stops the loop and throws. -/
def throwFatal (sync : MessageSync) (error : String) : MessageSync :=
  match sync.loop with
  | .fatal _ => { sync.stopSyncMessage with loop := .rejected error }
  | _ => sync

def recoveryFails (loop : EgressLoop Origin Message) :
    Option (EgressLoop Origin Message) :=
  (loop.sync.loop.step (.recoveryFails false)).map fun iterating =>
    { loop with
      sync := { loop.sync with loop := iterating }
      call := .getEgressMessages }

def step (numbering : Numbering Origin Message) (ingress : Origin → Nat)
    (loop : EgressLoop Origin Message) :
    EgressLoopEvent Origin Message →
      Option (EgressLoop Origin Message × Option (List Message))
  | .stops => some ({ loop with sync := loop.sync.stopSyncMessage }, none)
  | .polls => loop.sync.polls.map fun sync =>
      ({ loop with sync, call := .getEgressMessages }, none)
  | .getsMessages messages => loop.getsMessages messages
  | .getsIngress onChainSequence =>
      loop.getsIngress numbering ingress onChainSequence
  | .dispatched => loop.dispatched.map (·, none)
  | .fails error => loop.sync.failed.map fun sync =>
      ({ loop with sync := throwFatal sync error }, none)
  | .recovers => loop.sync.recovers.map fun sync => ({ loop with sync }, none)
  | .recoveryFails => loop.recoveryFails.map (·, none)

end EgressLoop

namespace MqEgress

variable {pallet : PhalaMq Origin Message}

def executes [DecidableEq Message] (state : MqEgress pallet)
    (batch : List Message) : Option (MqEgress pallet) :=
  if batch ∈ state.sent then
    let executed := pallet.forceBatch state.chain batch
    some { state with
      chain := executed.1
      sent := state.sent.erase batch
      refused := executed.2 ++ state.refused }
  else
    none

def step [DecidableEq Message] (numbering : Numbering Origin Message)
    (state : MqEgress pallet) : MqEgressEvent pallet → Option (MqEgress pallet)
  | .starts => some { state with loops := state.loops ++ [.startSyncMessage] }
  | .loop place event => do
      let (loop, batch) ← (← state.loops[place]?).step numbering
        (pallet.offchainIngress state.chain) event
      some { state with
        loops := state.loops.set place loop
        sent := batch.toList ++ state.sent }
  | .executes batch => state.executes batch
  | .chainGoesOn next => some { state with chain := next }

end MqEgress

def mqEgressMachine [DecidableEq Message] (numbering : Numbering Origin Message)
    (pallet : PhalaMq Origin Message) (chain : pallet.State) :
    Machine (MqEgress pallet) (MqEgressEvent pallet) where
  start := { loops := [], chain, sent := [], refused := [] }
  step := MqEgress.step numbering

/-- pRuntime keeps the messages of each origin in order, and drops none that
the chain does not have.  What the chain expects never falls. -/
def answersQueues (numbering : Numbering Origin Message)
    {pallet : PhalaMq Origin Message} (state : MqEgress pallet) :
    MqEgressEvent pallet → Prop
  | .loop _ (.getsMessages messages) => ∀ pair ∈ messages,
      numbering.Follows (pallet.offchainIngress state.chain) pair.1 pair.2
  | .chainGoesOn next => ∀ origin,
      pallet.offchainIngress state.chain origin ≤
        pallet.offchainIngress next origin
  | _ => True

/-- The loop ends through a stop alone, which leaves no promise pending. -/
structure StopOk (sync : MessageSync) : Prop where
  settled : sync.shouldStop = true →
    sync.synchedToTargetPromise.isSettled = true
  stopped : sync.loop = .ended ∨ (∃ error, sync.loop = .rejected error) →
    sync.shouldStop = true
  rejected : ∀ reason, sync.synchedToTargetPromise = .rejected reason →
    sync.shouldStop = true

/-- What is left of a round follows from what the chain has, and so does what
has been put together. -/
structure RoundOk [DecidableEq Origin] (numbering : Numbering Origin Message)
    (ingress : Origin → Nat) (messages : List (Origin × List Message))
    (round : EgressRound Origin Message) : Prop where
  ret : numbering.NoGap ingress round.ret
  rest : ∀ pair ∈ round.rest, numbering.Follows ingress pair.1 pair.2
  done : ∀ pair ∈ messages, pair ∈ round.rest ∨
    ∀ message ∈ pair.2, message ∈ round.ret ∨
      numbering.sequence message < ingress (numbering.origin message)

structure EgressLoopOk [DecidableEq Origin] (numbering : Numbering Origin Message)
    (ingress : Origin → Nat) (loop : EgressLoop Origin Message) : Prop where
  round : ∀ round, loop.call = .offchainIngress round →
    RoundOk numbering ingress loop.messages round
  stop : StopOk loop.sync

/-- The chain has what it was asked to take then. -/
def Refusal.Had (numbering : Numbering Origin Message)
    (pallet : PhalaMq Origin Message)
    (refusal : Refusal pallet.State Message) : Prop :=
  numbering.sequence refusal.message <
    pallet.offchainIngress refusal.state (numbering.origin refusal.message)

structure MqEgressOk [DecidableEq Origin] (numbering : Numbering Origin Message)
    {pallet : PhalaMq Origin Message} (state : MqEgress pallet) : Prop where
  sent : ∀ batch ∈ state.sent,
    numbering.NoGap (pallet.offchainIngress state.chain) batch
  refused : ∀ refusal ∈ state.refused, refusal.Had numbering pallet
  loops : ∀ loop ∈ state.loops,
    EgressLoopOk numbering (pallet.offchainIngress state.chain) loop

section

variable {sync after : MessageSync} {error : String}

theorem stopOk_start : StopOk .startSyncMessage where
  settled h := by cases h
  stopped h := by
    rcases h with h | ⟨_, h⟩
    · cases h
    · cases h
  rejected _ h := by cases h

theorem stopOk_stopSyncMessage (sync : MessageSync) :
    StopOk sync.stopSyncMessage where
  settled _ := Promise.isSettled_reject _ _
  stopped _ := rfl
  rejected _ _ := rfl

theorem StopOk.resolve (h : StopOk sync) :
    StopOk { sync with
      synchedToTargetPromise := sync.synchedToTargetPromise.resolve () } where
  settled _ := Promise.isSettled_resolve _ _
  stopped := h.stopped
  rejected reason hrejected :=
    h.rejected reason (Promise.rejected_of_resolve hrejected)

theorem StopOk.resumed (h : StopOk sync) : StopOk sync.resumed := by
  unfold MessageSync.resumed
  split
  · next hstop =>
      exact
        { settled := fun _ => Promise.isSettled_reject _ _
          stopped := fun _ => hstop
          rejected := fun _ _ => hstop }
  · exact
      { settled := h.settled
        stopped := fun hover => by
          rcases hover with hended | ⟨_, hrejected⟩
          · cases hended
          · cases hrejected
        rejected := h.rejected }

/-- The loop goes on. -/
theorem StopOk.setLoop (h : StopOk sync) {loop : Loop Unit}
    (hended : loop ≠ .ended) (hrejected : ∀ error, loop ≠ .rejected error)
    (dispatching : Bool) : StopOk { sync with loop, dispatching } where
  settled := h.settled
  stopped hover := by
    rcases hover with hover | ⟨error, hover⟩
    · exact absurd hover hended
    · exact absurd hover (hrejected error)
  rejected := h.rejected

theorem StopOk.polls (h : StopOk sync) (taken : sync.polls = some after) :
    StopOk after := by
  unfold MessageSync.polls at taken
  split at taken
  · next hloop =>
      obtain ⟨loop, hstep, rfl⟩ := Option.map_eq_some_iff.mp taken
      rw [hloop] at hstep
      cases Option.some.inj hstep
      exact h.setLoop (by simp) (by simp) sync.dispatching
  · cases taken

theorem StopOk.recovers (h : StopOk sync)
    (taken : sync.recovers = some after) : StopOk after := by
  obtain ⟨loop, -, rfl⟩ := Option.map_eq_some_iff.mp taken
  exact h.resumed

theorem StopOk.failed (h : StopOk sync) (taken : sync.failed = some after) :
    StopOk (EgressLoop.throwFatal after error) := by
  obtain ⟨loop, hstep, rfl⟩ := Option.map_eq_some_iff.mp taken
  obtain ⟨fn, attempt, ignore, -, rfl | rfl⟩ := Loop.step_fails hstep
  · exact h.setLoop (by simp) (by simp) false
  · exact
      { settled := fun _ => Promise.isSettled_reject _ _
        stopped := fun _ => rfl
        rejected := fun _ _ => rfl }

end

variable [DecidableEq Origin] {numbering : Numbering Origin Message}
  {ingress later : Origin → Nat} {messages : List (Origin × List Message)}
  {round : EgressRound Origin Message} {loop stepped : EgressLoop Origin Message}
  {batch : Option (List Message)} {event : EgressLoopEvent Origin Message}
  {pallet : PhalaMq Origin Message} {state after : MqEgress pallet}

theorem RoundOk.mono (h : RoundOk numbering ingress messages round)
    (hle : ∀ origin, ingress origin ≤ later origin) :
    RoundOk numbering later messages round where
  ret := h.ret.mono hle
  rest pair hmember := (h.rest pair hmember).mono hle
  done pair hmember := (h.done pair hmember).imp_right
    fun hdone message hmessage => (hdone message hmessage).imp_right
      fun hlt => Nat.lt_of_lt_of_le hlt (hle _)

theorem roundOk_start (hanswers : ∀ pair ∈ messages,
      numbering.Follows ingress pair.1 pair.2) :
    RoundOk numbering ingress messages { rest := messages, ret := [] } where
  ret := True.intro
  rest := hanswers
  done _ hmember := Or.inl hmember

/-- What is left out of an origin's messages is on the chain. -/
theorem RoundOk.next {origin : Origin} {innerMessages ret : List Message}
    {rest : List (Origin × List Message)} {onChainSequence : Nat}
    (h : RoundOk numbering ingress messages
      { rest := (origin, innerMessages) :: rest, ret })
    (hseen : onChainSequence ≤ ingress origin) :
    RoundOk numbering ingress messages
      { rest
        ret := ret ++ innerMessages.filter fun message =>
          decide (onChainSequence ≤ numbering.sequence message) } := by
  have hfollows := h.rest _ List.mem_cons_self
  refine
    { ret := h.ret.append (hfollows.noGap hseen)
      rest := fun pair hmember => h.rest pair (List.mem_cons_of_mem _ hmember)
      done := fun pair hmember => ?_ }
  rcases h.done pair hmember with hrest | hdone
  · rcases List.mem_cons.mp hrest with rfl | hlater
    · refine Or.inr fun message hmessage => ?_
      by_cases hnew : onChainSequence ≤ numbering.sequence message
      · exact Or.inl (List.mem_append_right _
          (List.mem_filter.mpr ⟨hmessage, decide_eq_true hnew⟩))
      · rw [(hfollows.1 message hmessage).2]
        exact Or.inr (Nat.lt_of_lt_of_le (Nat.lt_of_not_le hnew) hseen)
    · exact Or.inl hlater
  · refine Or.inr fun message hmessage => ?_
    exact (hdone message hmessage).imp_left (List.mem_append_left _)

/-- What a step of a loop leaves: the loop, and a batch without a gap. -/
structure EgressLoopOk.Leaves (numbering : Numbering Origin Message)
    (ingress : Origin → Nat)
    (result : EgressLoop Origin Message × Option (List Message)) : Prop where
  loop : EgressLoopOk numbering ingress result.1
  batch : ∀ batch ∈ result.2, numbering.NoGap ingress batch

namespace EgressLoopOk

theorem mono (h : EgressLoopOk numbering ingress loop)
    (hle : ∀ origin, ingress origin ≤ later origin) :
    EgressLoopOk numbering later loop where
  round round hcall := (h.round round hcall).mono hle
  stop := h.stop

theorem start : EgressLoopOk numbering ingress .startSyncMessage where
  round _ hcall := by cases hcall
  stop := stopOk_start

theorem leaves (h : EgressLoopOk numbering ingress loop) :
    Leaves numbering ingress (loop, none) where
  loop := h
  batch _ hbatch := by cases hbatch

theorem setSync (h : EgressLoopOk numbering ingress loop) {sync : MessageSync}
    (hsync : StopOk sync) :
    EgressLoopOk numbering ingress { loop with sync } where
  round := h.round
  stop := hsync

/-- The loop is about to ask pRuntime. -/
theorem asks {sync : MessageSync} (hsync : StopOk sync) :
    EgressLoopOk numbering ingress
      { loop with sync, call := .getEgressMessages } where
  round _ hcall := by cases hcall
  stop := hsync

theorem continues (hstop : StopOk loop.sync)
    (hidle : ∀ round, loop.call = .offchainIngress round →
      RoundOk numbering ingress loop.messages round)
    (hround : RoundOk numbering ingress loop.messages round) :
    Leaves numbering ingress (loop.continues round) := by
  obtain ⟨rest, ret⟩ := round
  cases rest with
  | cons pair rest =>
      refine leaves { round := fun other hcall => ?_, stop := hstop }
      cases hcall
      exact hround
  | nil =>
      cases ret with
      | nil => exact leaves { round := hidle, stop := hstop.resolve.resumed }
      | cons message others =>
          exact
            { loop :=
                { round := fun other hcall => by cases hcall
                  stop :=
                    { settled := hstop.settled
                      stopped := hstop.stopped
                      rejected := hstop.rejected } }
              batch := fun batch hbatch => by
                cases hbatch
                exact hround.ret }

theorem getsMessages (h : EgressLoopOk numbering ingress loop)
    (hanswers : ∀ pair ∈ messages, numbering.Follows ingress pair.1 pair.2)
    {result} (taken : loop.getsMessages messages = some result) :
    Leaves numbering ingress result := by
  unfold EgressLoop.getsMessages at taken
  split at taken
  · next hcall =>
      cases Option.some.inj taken
      refine continues h.stop (fun other hother => ?_) (roundOk_start hanswers)
      rw [hcall] at hother
      cases hother
  · cases taken

end EgressLoopOk

omit [DecidableEq Origin] in
theorem getsIngress_eq_some {onChainSequence : Nat} {result}
    (taken : loop.getsIngress numbering ingress onChainSequence = some result) :
    ∃ origin innerMessages rest ret,
      loop.call =
        .offchainIngress { rest := (origin, innerMessages) :: rest, ret } ∧
      onChainSequence ≤ ingress origin ∧
      result = loop.continues
        { rest
          ret := ret ++ innerMessages.filter fun message =>
            decide (onChainSequence ≤ numbering.sequence message) } := by
  unfold EgressLoop.getsIngress at taken
  split at taken
  · next hcall =>
      split at taken
      · next hseen =>
          exact ⟨_, _, _, _, hcall, hseen, (Option.some.inj taken).symm⟩
      · cases taken
  · cases taken

theorem egressLoopOk_step (h : EgressLoopOk numbering ingress loop)
    (hanswers : ∀ messages, event = .getsMessages messages →
      ∀ pair ∈ messages, numbering.Follows ingress pair.1 pair.2)
    {result} (taken : loop.step numbering ingress event = some result) :
    EgressLoopOk.Leaves numbering ingress result := by
  cases event with
  | stops =>
      cases Option.some.inj taken
      exact (h.setSync (stopOk_stopSyncMessage _)).leaves
  | polls =>
      obtain ⟨sync, hsync, rfl⟩ := Option.map_eq_some_iff.mp taken
      exact (EgressLoopOk.asks (h.stop.polls hsync)).leaves
  | getsMessages messages => exact h.getsMessages (hanswers messages rfl) taken
  | getsIngress onChainSequence =>
      obtain ⟨origin, innerMessages, rest, ret, hcall, hseen, rfl⟩ :=
        getsIngress_eq_some taken
      exact EgressLoopOk.continues h.stop h.round
        ((h.round _ hcall).next hseen)
  | dispatched =>
      obtain ⟨resumed, hnext, rfl⟩ := Option.map_eq_some_iff.mp taken
      unfold EgressLoop.dispatched at hnext
      split at hnext
      · cases Option.some.inj hnext
        exact (h.setSync h.stop.resumed).leaves
      · cases hnext
  | fails error =>
      obtain ⟨sync, hsync, rfl⟩ := Option.map_eq_some_iff.mp taken
      exact (h.setSync (h.stop.failed hsync)).leaves
  | recovers =>
      obtain ⟨sync, hsync, rfl⟩ := Option.map_eq_some_iff.mp taken
      exact (h.setSync (h.stop.recovers hsync)).leaves
  | recoveryFails =>
      obtain ⟨recovered, hnext, rfl⟩ := Option.map_eq_some_iff.mp taken
      obtain ⟨iterating, hloop, rfl⟩ := Option.map_eq_some_iff.mp hnext
      obtain ⟨fn, attempt, ignore, -, rfl⟩ := Loop.step_recoveryFails hloop
      exact (EgressLoopOk.asks
        (h.stop.setLoop (by simp) (by simp) loop.sync.dispatching)).leaves

/-- A batch without a gap brings the chain as far as its messages do, and those
that are refused it has. -/
theorem PhalaMq.InOrder.forceBatch_of_noGap (law : pallet.InOrder numbering)
    {chain : pallet.State} {batch : List Message}
    (h : numbering.NoGap (pallet.offchainIngress chain) batch) :
    pallet.offchainIngress (pallet.forceBatch chain batch).1 =
        numbering.reached (pallet.offchainIngress chain) batch ∧
      ∀ refusal ∈ (pallet.forceBatch chain batch).2,
        refusal.Had numbering pallet := by
  induction batch generalizing chain with
  | nil =>
      rw [law.batch_nil]
      exact ⟨rfl, List.forall_mem_nil _⟩
  | cons message rest ih =>
      obtain ⟨hvalid, hmessage, hrest⟩ := h
      cases hcall : pallet.syncOffchainMessage chain message with
      | ok after =>
          obtain ⟨hnext, hafter⟩ := law.taken chain message after hcall
          rw [law.batch_ok chain message rest after hcall]
          rw [← hnext, Nat.max_eq_right (Nat.le_succ _), ← hafter] at hrest
          obtain ⟨hreached, hrefused⟩ := ih hrest
          refine ⟨?_, hrefused⟩
          rw [hreached, Numbering.reached, ← hnext,
            Nat.max_eq_right (Nat.le_succ _), ← hafter]
      | error error =>
          have hhas : numbering.sequence message <
              pallet.offchainIngress chain (numbering.origin message) := by
            refine Nat.lt_of_le_of_ne hmessage fun hnext => ?_
            obtain ⟨after, htaken⟩ := law.takes chain message hvalid hnext
            rw [hcall] at htaken
            cases htaken
          rw [law.batch_error chain message rest error hcall]
          rw [Nat.max_eq_left hhas, Function.update_eq_self] at hrest
          obtain ⟨hreached, hrefused⟩ := ih hrest
          refine ⟨?_, List.forall_mem_cons.mpr ⟨hhas, hrefused⟩⟩
          rw [hreached, Numbering.reached, Nat.max_eq_left hhas,
            Function.update_eq_self]

/-- The chain goes forward. -/
theorem MqEgressOk.mono (h : MqEgressOk numbering state) {next : pallet.State}
    (hle : ∀ origin, pallet.offchainIngress state.chain origin ≤
      pallet.offchainIngress next origin) :
    MqEgressOk numbering { state with chain := next } where
  sent batch hmember := (h.sent batch hmember).mono hle
  refused := h.refused
  loops loop hmember := (h.loops loop hmember).mono hle

theorem MqEgressOk.executes [DecidableEq Message]
    (h : MqEgressOk numbering state) (law : pallet.InOrder numbering)
    {batch : List Message} (taken : state.executes batch = some after) :
    MqEgressOk numbering after ∧ ∀ message ∈ batch,
      numbering.sequence message <
        pallet.offchainIngress after.chain (numbering.origin message) := by
  unfold MqEgress.executes at taken
  split at taken
  · next hsent =>
      cases Option.some.inj taken
      obtain ⟨hreached, hrefused⟩ := law.forceBatch_of_noGap (h.sent batch hsent)
      have hle : ∀ origin, pallet.offchainIngress state.chain origin ≤
          pallet.offchainIngress (pallet.forceBatch state.chain batch).1
            origin := fun origin => by
        rw [hreached]
        exact Numbering.le_reached batch origin
      have hmono := h.mono hle
      refine ⟨?_, fun message hmember => ?_⟩
      · exact
          { hmono with
            sent := fun other hmember =>
              hmono.sent other (List.mem_of_mem_erase hmember)
            refused := List.forall_mem_append.mpr ⟨hrefused, h.refused⟩ }
      · rw [hreached]
        exact Numbering.lt_reached hmember
  · cases taken

omit [DecidableEq Origin] in
theorem loop_eq_some [DecidableEq Message] {place : Nat}
    (taken : state.step numbering (.loop place event) = some after) :
    ∃ loop result, state.loops[place]? = some loop ∧
      loop.step numbering (pallet.offchainIngress state.chain) event =
        some result ∧
      after = { state with
        loops := state.loops.set place result.1
        sent := result.2.toList ++ state.sent } := by
  obtain ⟨loop, hloop, hrest⟩ := Option.bind_eq_some_iff.mp taken
  obtain ⟨result, hresult, hafter⟩ := Option.bind_eq_some_iff.mp hrest
  exact ⟨loop, result, hloop, hresult, (Option.some.inj hafter).symm⟩

theorem mqEgressOk_step [DecidableEq Message] {event : MqEgressEvent pallet}
    (h : MqEgressOk numbering state) (law : pallet.InOrder numbering)
    (hanswers : answersQueues numbering state event)
    (taken : state.step numbering event = some after) :
    MqEgressOk numbering after := by
  cases event with
  | starts =>
      cases Option.some.inj taken
      exact
        { h with
          loops := List.forall_mem_append.mpr
            ⟨h.loops, List.forall_mem_singleton.mpr EgressLoopOk.start⟩ }
  | loop place event =>
      obtain ⟨loop, result, hloop, hresult, rfl⟩ := loop_eq_some taken
      have hleaves := egressLoopOk_step
        (h.loops loop (List.mem_of_getElem? hloop))
        (fun messages hmessages => by
          subst hmessages
          exact hanswers)
        hresult
      refine
        { sent := List.forall_mem_append.mpr ⟨fun batch hbatch => ?_, h.sent⟩
          refused := h.refused
          loops := fun other hother => ?_ }
      · exact hleaves.batch batch (Option.mem_toList.mp hbatch)
      · rcases List.mem_or_eq_of_mem_set hother with hold | rfl
        · exact h.loops other hold
        · exact hleaves.loop
  | executes batch => exact (h.executes law taken).1
  | chainGoesOn next =>
      cases Option.some.inj taken
      exact h.mono hanswers

theorem mqEgressOk_reaches [DecidableEq Message] {chain : pallet.State}
    (law : pallet.InOrder numbering)
    (h : (mqEgressMachine numbering pallet chain).Reaches
      (answersQueues numbering) state) : MqEgressOk numbering state := by
  refine Machine.Preserves.reaches ?_ ?_ h
  · exact fun before event after hanswers hbefore taken =>
      mqEgressOk_step hbefore law hanswers taken
  · exact
      { sent := List.forall_mem_nil _
        refused := List.forall_mem_nil _
        loops := List.forall_mem_nil _ }

omit [DecidableEq Origin] in
/-- The promise resolves behind a round that has found nothing to send. -/
theorem continues_resolves
    (hpending : loop.sync.synchedToTargetPromise = .pending)
    (hresolved : (loop.continues round).1.sync.synchedToTargetPromise =
      .resolved ()) :
    round.rest = [] ∧ round.ret = [] ∧
      (loop.continues round).1.messages = loop.messages := by
  obtain ⟨rest, ret⟩ := round
  cases rest with
  | cons pair rest =>
      simp only [EgressLoop.continues] at hresolved
      rw [hpending] at hresolved
      cases hresolved
  | nil =>
      cases ret with
      | nil => exact ⟨rfl, rfl, rfl⟩
      | cons message others =>
          simp only [EgressLoop.continues] at hresolved
          rw [hpending] at hresolved
          cases hresolved

theorem loop_resumed_resolved {sync : MessageSync}
    (h : sync.resumed.synchedToTargetPromise = .resolved ()) :
    sync.synchedToTargetPromise = .resolved () := by
  unfold MessageSync.resumed at h
  split at h
  · exact Promise.resolved_of_reject h
  · exact h

theorem step_resolves (h : EgressLoopOk numbering ingress loop)
    (taken : loop.step numbering ingress event = some (stepped, batch))
    (hpending : loop.sync.synchedToTargetPromise = .pending)
    (hresolved : stepped.sync.synchedToTargetPromise = .resolved ()) :
    ∀ pair ∈ stepped.messages, ∀ message ∈ pair.2,
      numbering.sequence message < ingress (numbering.origin message) := by
  have hnever : loop.sync.synchedToTargetPromise ≠ .resolved () := by
    rw [hpending]
    simp
  cases event with
  | getsMessages messages =>
      simp only [EgressLoop.step, EgressLoop.getsMessages] at taken
      split at taken
      · have hnext := congrArg Prod.fst (Option.some.inj taken)
        subst hnext
        obtain ⟨hrest, -, hmessages⟩ :=
          @continues_resolves _ _ _ { loop with messages } hpending hresolved
        simp only at hrest
        rw [hmessages, hrest]
        exact List.forall_mem_nil _
      · cases taken
  | getsIngress onChainSequence =>
      obtain ⟨origin, innerMessages, rest, ret, hcall, hseen, hresult⟩ :=
        getsIngress_eq_some taken
      have hnext := congrArg Prod.fst hresult
      subst hnext
      obtain ⟨hrest, hret, hmessages⟩ := continues_resolves hpending hresolved
      have hround := (h.round _ hcall).next hseen
      rw [hmessages]
      intro pair hmember message hmessage
      rcases hround.done pair hmember with hleft | hdone
      · rw [hrest] at hleft
        cases hleft
      · rcases hdone message hmessage with hsent | hlt
        · rw [hret] at hsent
          cases hsent
        · exact hlt
  | stops =>
      cases Option.some.inj taken
      exact absurd (Promise.resolved_of_reject hresolved) hnever
  | polls =>
      obtain ⟨sync, hsync, hnext⟩ := Option.map_eq_some_iff.mp taken
      cases hnext
      unfold MessageSync.polls at hsync
      split at hsync
      · obtain ⟨iterating, -, rfl⟩ := Option.map_eq_some_iff.mp hsync
        exact absurd hresolved hnever
      · cases hsync
  | dispatched =>
      obtain ⟨after, hnext, hresult⟩ := Option.map_eq_some_iff.mp taken
      cases hresult
      unfold EgressLoop.dispatched at hnext
      split at hnext
      · cases Option.some.inj hnext
        exact absurd (loop_resumed_resolved hresolved) hnever
      · cases hnext
  | fails error =>
      obtain ⟨sync, hsync, hnext⟩ := Option.map_eq_some_iff.mp taken
      cases hnext
      obtain ⟨iterating, hloop, rfl⟩ := Option.map_eq_some_iff.mp hsync
      obtain ⟨fn, attempt, ignore, -, rfl | rfl⟩ := Loop.step_fails hloop
      · exact absurd hresolved hnever
      · exact absurd (Promise.resolved_of_reject hresolved) hnever
  | recovers =>
      obtain ⟨sync, hsync, hnext⟩ := Option.map_eq_some_iff.mp taken
      cases hnext
      obtain ⟨-, -, rfl⟩ := Option.map_eq_some_iff.mp hsync
      exact absurd (loop_resumed_resolved hresolved) hnever
  | recoveryFails =>
      obtain ⟨after, hnext, hresult⟩ := Option.map_eq_some_iff.mp taken
      cases hresult
      obtain ⟨iterating, -, rfl⟩ := Option.map_eq_some_iff.mp hnext
      exact absurd hresolved hnever

/-- Whatever fails, is executed late, twice or never, however far the node is
behind, and whatever the loops of earlier contexts still do: the chain refuses a
message only if it has it, a batch that is executed leaves none of its messages
undelivered, the promise of a loop resolves when the chain has all that pRuntime
has answered it with, and only a stop ends a loop, which then leaves no promise
pending. -/
theorem egress_in_order [DecidableEq Message]
    (numbering : Numbering Origin Message) (pallet : PhalaMq Origin Message)
    (law : pallet.InOrder numbering) (chain : pallet.State)
    (state : MqEgress pallet)
    (h : (mqEgressMachine numbering pallet chain).Reaches
      (answersQueues numbering) state) :
    (∀ refusal ∈ state.refused, numbering.sequence refusal.message <
      pallet.offchainIngress refusal.state
        (numbering.origin refusal.message)) ∧
    (∀ batch after, state.executes batch = some after →
      ∀ message ∈ batch, numbering.sequence message <
        pallet.offchainIngress after.chain (numbering.origin message)) ∧
    ∀ loop ∈ state.loops,
      (∀ event stepped batch,
        loop.step numbering (pallet.offchainIngress state.chain) event =
          some (stepped, batch) →
        loop.sync.synchedToTargetPromise = .pending →
        stepped.sync.synchedToTargetPromise = .resolved () →
        ∀ pair ∈ stepped.messages, ∀ message ∈ pair.2,
          numbering.sequence message <
            pallet.offchainIngress state.chain (numbering.origin message)) ∧
      (loop.sync.loop = .ended ∨
          (∃ error, loop.sync.loop = .rejected error) →
        loop.sync.shouldStop = true ∧
          loop.sync.synchedToTargetPromise.isSettled = true) := by
  have hok := mqEgressOk_reaches law h
  refine ⟨hok.refused, fun batch after taken => (hok.executes law taken).2,
    fun loop hloop => ?_⟩
  have hown := hok.loops loop hloop
  refine ⟨fun event stepped batch => step_resolves hown, fun hover => ?_⟩
  have hstop := hown.stop.stopped hover
  exact ⟨hstop, hown.stop.settled hstop⟩

/-- A message is its origin and its number. -/
def plainNumbering : Numbering Nat (Nat × Nat) where
  origin := Prod.fst
  sequence := Prod.snd
  valid _ := True

/-- A chain that keeps nothing but what it expects. -/
def plainSyncOffchainMessage (next : Nat → Nat) (message : Nat × Nat) :
    Except String (Nat → Nat) :=
  if message.2 = next message.1 then
    .ok (Function.update next message.1 (message.2 + 1))
  else
    .error "BadSequence"

def plainForceBatch (next : Nat → Nat) : List (Nat × Nat) →
    (Nat → Nat) × List (Refusal (Nat → Nat) (Nat × Nat))
  | [] => (next, [])
  | message :: rest =>
      match plainSyncOffchainMessage next message with
      | .ok after => plainForceBatch after rest
      | .error error =>
          let later := plainForceBatch next rest
          (later.1, { state := next, message, error } :: later.2)

def plainMq : PhalaMq Nat (Nat × Nat) where
  State := Nat → Nat
  offchainIngress := id
  syncOffchainMessage := plainSyncOffchainMessage
  forceBatch := plainForceBatch

theorem plainMq_inOrder : plainMq.InOrder plainNumbering where
  takes state message _ hnext := ⟨_, if_pos hnext⟩
  taken state message after htaken := by
    simp only [plainMq, plainSyncOffchainMessage] at htaken
    split at htaken
    · next hnext =>
        cases htaken
        exact ⟨hnext, rfl⟩
    · cases htaken
  batch_nil _ := rfl
  batch_ok state message rest after htaken := by
    simp only [plainMq] at htaken ⊢
    simp only [plainForceBatch, htaken]
  batch_error state message rest error hrefused := by
    simp only [plainMq] at hrefused ⊢
    simp only [plainForceBatch, hrefused]

/-- The worker is restarted while its loop asks for the sequence: message 4 is
dispatched by both loops before the first batch is executed. -/
def egressTwice : List (MqEgressEvent plainMq) :=
  let asks (place : Nat) : List (MqEgressEvent plainMq) :=
    [.starts, .loop place .polls,
      .loop place (.getsMessages [(0, [(0, 3), (0, 4)])])]
  asks 0 ++ [.loop 0 .stops] ++ asks 1 ++
    [.loop 0 (.getsIngress 4), .loop 1 (.getsIngress 4), .executes [(0, 4)],
      .executes [(0, 4)], .loop 1 .dispatched]

instance (next : Nat → Nat) (origin : Nat) (messages : List (Nat × Nat)) :
    Decidable (plainNumbering.Follows next origin messages) := by
  unfold Numbering.Follows plainNumbering
  infer_instance

def plainAnswers (state : MqEgress plainMq) : MqEgressEvent plainMq → Bool
  | .loop _ (.getsMessages messages) => messages.all fun pair =>
      decide (plainNumbering.Follows (plainMq.offchainIngress state.chain)
        pair.1 pair.2)
  | .chainGoesOn _ => false
  | _ => true

theorem answersQueues_of_plain {state : MqEgress plainMq}
    {event : MqEgressEvent plainMq} (h : plainAnswers state event = true) :
    answersQueues plainNumbering state event := by
  unfold plainAnswers at h
  split at h
  · intro pair hmember
    exact of_decide_eq_true (List.all_eq_true.mp h pair hmember)
  · cases h
  · next hother hmoves =>
      unfold answersQueues
      split
      · exact absurd rfl (hother _ _)
      · exact absurd rfl (hmoves _)
      · exact True.intro

theorem egress_in_order_twice :
    let state := (mqEgressMachine plainNumbering plainMq fun _ => 4).endedIf
      plainAnswers egressTwice
    state.refused.map (fun refusal => (refusal.message, refusal.state 0)) =
        [((0, 4), 5)] ∧
      ∀ refusal ∈ state.refused, plainNumbering.sequence refusal.message <
        plainMq.offchainIngress refusal.state
          (plainNumbering.origin refusal.message) :=
  ⟨by decide +kernel, (egress_in_order plainNumbering plainMq plainMq_inOrder
    (fun _ => 4) _ (Machine.reaches_endedIf
      (fun _ _ => answersQueues_of_plain) (by decide +kernel))).1⟩

end RuntimeBridge.Lifecycle
