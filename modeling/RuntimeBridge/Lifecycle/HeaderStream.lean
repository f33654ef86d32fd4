import RuntimeBridge.DataProvider.SetBuffers
import RuntimeBridge.Lifecycle.PRuntime

/-! The relay headers on their way from the window loop to pRuntime: a data
provider whose answers may be kept by every worker, the header step of
`single_sync.js`, and a pRuntime that verifies what it is sent. -/

namespace RuntimeBridge.Lifecycle

open Library DataProvider

/-- pRuntime has the relay chain up to the header that it expects. -/
structure PRuntime.OnRelayChain (chain : Chain) (pRuntime : PRuntime)
    (state : pRuntime.State) : Prop where
  relayHeaders : pRuntime.relayHeaders state =
    (chain.parents (chain.genesis.parentNumber + 1)
      (pRuntime.info state).headernum).map (·.header)
  genesis : chain.genesis.parentNumber < (pRuntime.info state).headernum
  cut : chain.Cut (pRuntime.info state).headernum

/-- pRuntime verifies with the set that the relay chain has now. -/
def PRuntime.KnowsSet (chain : Chain) (pRuntime : PRuntime)
    (state : pRuntime.State) : Prop :=
  pRuntime.setId state =
    (chain.parent ((pRuntime.info state).headernum - 1)).setId

structure PRuntime.KeepsHeaders (pRuntime : PRuntime)
    (before after : pRuntime.State) : Prop where
  headernum : (pRuntime.info after).headernum = (pRuntime.info before).headernum
  relayHeaders : pRuntime.relayHeaders after = pRuntime.relayHeaders before
  setId : pRuntime.setId after = pRuntime.setId before

/-- pRuntime skips the headers that it has and takes the rest up to `stop`, with
the authority set that comes with them. -/
structure PRuntime.TakesHeaders (chain : Chain) (pRuntime : PRuntime)
    (first stop : Nat) (request : SyncCombinedHeadersReq)
    (before after : pRuntime.State) : Prop where
  first_le : first ≤ (pRuntime.info before).headernum
  le_stop : (pRuntime.info before).headernum ≤ stop
  headernum : (pRuntime.info after).headernum = stop + 1
  relayHeaders : pRuntime.relayHeaders after = pRuntime.relayHeaders before ++
    (request.relaychainHeaders.map (·.header)).drop
      ((pRuntime.info before).headernum - first)
  setId : pRuntime.setId after =
    if request.authoritySetChange.isSome then (chain.parent stop).setId
    else pRuntime.setId before

/-- What is relied on of pRuntime when it is sent headers of the chain. -/
structure PRuntime.HeaderRules (chain : Chain) (pRuntime : PRuntime) :
    Prop where
  /-- One justification stands for all the headers of a request. -/
  whole : ∀ state number first stop request,
    pRuntime.OnRelayChain chain state →
    Continues chain number first stop request →
    pRuntime.KeepsHeaders state
        (pRuntime.serves state (.syncCombinedHeaders request)) ∨
      pRuntime.TakesHeaders chain first stop request state
        (pRuntime.serves state (.syncCombinedHeaders request))
  /-- `stop` is justified by the authorities of the block before it. -/
  verifies : ∀ state first stop request,
    pRuntime.OnRelayChain chain state →
    Continues chain (pRuntime.info state).headernum first stop request →
    pRuntime.setId state = (chain.parent (stop - 1)).setId →
    (pRuntime.info (pRuntime.serves state
      (.syncCombinedHeaders request))).headernum = stop + 1
  dispatch : ∀ state blocks,
    pRuntime.relayHeaders (pRuntime.serves state (.dispatchBlock blocks)) =
        pRuntime.relayHeaders state ∧
      pRuntime.setId (pRuntime.serves state (.dispatchBlock blocks)) =
        pRuntime.setId state

structure HeaderStream (pRuntime : PRuntime) where
  loop : WalkState
  /-- What the data provider has answered, to any worker and at any time. -/
  records : List (Nat × RangeMeta)
  buffers : List (HeaderKey × SyncCombinedHeadersReq)
  served : Served pRuntime

inductive HeaderStreamEvent where
  | loop (event : WalkEvent)
  | answersRecord (number : Nat)
  | answersBuffer (key : HeaderKey)
  | sendHeaders (rangeMeta : RangeMeta) (request : SyncCombinedHeadersReq)
  /-- Of any blocks: the headers do not depend on them. -/
  | sendBlocks (rangeIndex : ParaRangeIndex) (blocks : List Bytes)
  | served (event : ServedEvent)

namespace HeaderStream

variable {pRuntime : PRuntime}

def startSync (chain : Chain) (fetchStatus : Option FetchStatus)
    (start : RuntimeStart pRuntime (pRuntime.OnRelayChain chain)) :
    HeaderStream pRuntime where
  loop := (walkMachine chain).start
  records := []
  buffers := []
  served := .startSync fetchStatus start

/-- What `getHeaderBlob` may find for the next header: answers that are shared,
cached or new. -/
def Finds (state : HeaderStream pRuntime) (rangeMeta : RangeMeta)
    (request : SyncCombinedHeadersReq) : Prop :=
  ∃ answer ∈ state.records,
    (answer.1 : Int) = state.served.driven.sync.headerSyncNumber ∧
      answer.2 = rangeMeta ∧
      (rangeMeta.bufferKey state.served.driven.sync.paraHeaderSyncNumber,
        request) ∈ state.buffers

instance (state : HeaderStream pRuntime) (rangeMeta : RangeMeta)
    (request : SyncCombinedHeadersReq) :
    Decidable (state.Finds rangeMeta request) :=
  inferInstanceAs (Decidable (∃ answer ∈ state.records, _ ∧ _ ∧ _))

def sendHeaders (state : HeaderStream pRuntime) (rangeMeta : RangeMeta)
    (request : SyncCombinedHeadersReq) : Option (HeaderStream pRuntime) :=
  if state.Finds rangeMeta request then
    (state.served.sendHeaders request).map fun served => { state with served }
  else
    none

/-- The loop asks for the header that pRuntime expects. -/
def Follows (state : HeaderStream pRuntime) : Prop :=
  state.served.driven.sync.headerSyncNumber =
    (pRuntime.info state.served.runtime).headernum

end HeaderStream

def headerStreamMachine (chain : Chain) (pRuntime : PRuntime)
    (fetchStatus : Option FetchStatus)
    (start : RuntimeStart pRuntime (pRuntime.OnRelayChain chain)) :
    Machine (HeaderStream pRuntime) HeaderStreamEvent where
  start := .startSync chain fetchStatus start
  step state
    | .loop event =>
        ((walkMachine chain).step state.loop event).map fun loop =>
          { state with loop }
    | .answersRecord number =>
        (state.loop.db.rangeByParentBlock number).map fun rangeMeta =>
          { state with records := (number, rangeMeta) :: state.records }
    | .answersBuffer key =>
        (state.loop.db.headerBuffer key).map fun request =>
          { state with buffers := (key, request) :: state.buffers }
    | .sendHeaders rangeMeta request => state.sendHeaders rangeMeta request
    | .sendBlocks rangeIndex blocks =>
        (state.served.sendBlocks rangeIndex blocks).map fun served =>
          { state with served }
    | .served event =>
        (state.served.step event).map fun served => { state with served }

/-- No walk of the window loop begins at a set change that it does not see. -/
def seesSets (chain : Chain) {pRuntime : PRuntime}
    (state : HeaderStream pRuntime) : HeaderStreamEvent → Prop
  | .loop event => seesFirst chain state.loop event
  | _ => True

def HeadersFit (chain : Chain) : RuntimeRequest → Prop
  | .syncCombinedHeaders request =>
      ∃ number first stop, Continues chain number first stop request
  | .dispatchBlock _ => True

/-- One authority set is enough for the request. -/
def SetsFit (chain : Chain) : RuntimeRequest → Prop
  | .syncCombinedHeaders request =>
      ∃ number first stop, Continues chain number first stop request ∧
        OneSet chain first stop request
  | .dispatchBlock _ => True

/-- pRuntime has the relay chain up to a cut, and what is on its way to it was
read from buffers that are stored. -/
structure StreamOk (chain : Chain) {pRuntime : PRuntime}
    (state : HeaderStream pRuntime) : Prop where
  loop : (walkMachine chain).Reachable state.loop
  records : ∀ answer ∈ state.records,
    Navigates chain state.loop.db answer.1 answer.2
  buffers : ∀ answer ∈ state.buffers,
    state.loop.db.headerBuffer answer.1 = some answer.2
  served : ServedOk (pRuntime.OnRelayChain chain) (HeadersFit chain)
    state.served

/-- pRuntime also knows the set of the next header. -/
structure StreamSets (chain : Chain) {pRuntime : PRuntime}
    (state : HeaderStream pRuntime) : Prop where
  loop : (walkMachine chain).Reaches (seesFirst chain) state.loop
  served : ServedOk
    (fun runtime => pRuntime.OnRelayChain chain runtime ∧
      pRuntime.KnowsSet chain runtime)
    (SetsFit chain) state.served

variable {chain : Chain} {pRuntime : PRuntime}
  {fetchStatus : Option FetchStatus}
  {start : RuntimeStart pRuntime (pRuntime.OnRelayChain chain)}
  {state after : HeaderStream pRuntime} {before next : pRuntime.State}
  {number first stop headernum : Nat} {rangeMeta : RangeMeta}
  {request : SyncCombinedHeadersReq} {sent : RuntimeRequest}

theorem parents_extend {base : Nat} (hbase : base ≤ first)
    (hfirst : first ≤ headernum) (hstop : headernum ≤ stop + 1) :
    chain.parents base headernum ++
        (chain.parents first (stop + 1)).drop (headernum - first) =
      chain.parents base (stop + 1) := by
  rw [← Chain.parents_append hfirst hstop,
    List.drop_left' (by simp [Chain.parents]),
    Chain.parents_append (Nat.le_trans hbase hfirst) hstop]

namespace PRuntime

theorem OnRelayChain.keeps (h : pRuntime.OnRelayChain chain before)
    (hkeeps : pRuntime.KeepsHeaders before next) :
    pRuntime.OnRelayChain chain next where
  relayHeaders := by rw [hkeeps.relayHeaders, hkeeps.headernum, h.relayHeaders]
  genesis := by rw [hkeeps.headernum]; exact h.genesis
  cut := by rw [hkeeps.headernum]; exact h.cut

theorem OnRelayChain.takes (h : pRuntime.OnRelayChain chain before)
    (hcontinues : Continues chain number first stop request)
    (htakes : pRuntime.TakesHeaders chain first stop request before next) :
    pRuntime.OnRelayChain chain next where
  relayHeaders := by
    rw [htakes.relayHeaders, htakes.headernum, hcontinues.relay,
      h.relayHeaders, ← List.map_drop, ← List.map_append,
      parents_extend hcontinues.genesis htakes.first_le
        (Nat.le_succ_of_le htakes.le_stop)]
  genesis := by
    have := h.genesis
    have := htakes.le_stop
    rw [htakes.headernum]
    omega
  cut := by
    rw [htakes.headernum]
    exact Or.inr hcontinues.justified

theorem HeaderRules.keeps (rules : pRuntime.HeaderRules chain)
    (before : pRuntime.State) (blocks : List Bytes) :
    pRuntime.KeepsHeaders before
      (pRuntime.serves before (.dispatchBlock blocks)) where
  headernum := (pRuntime.forward before (.dispatchBlock blocks)).1
  relayHeaders := (rules.dispatch before blocks).1
  setId := (rules.dispatch before blocks).2

theorem HeaderRules.onRelayChain (rules : pRuntime.HeaderRules chain)
    (h : pRuntime.OnRelayChain chain before) (hfits : HeadersFit chain sent) :
    pRuntime.OnRelayChain chain (pRuntime.serves before sent) := by
  cases sent with
  | dispatchBlock blocks => exact h.keeps (rules.keeps before blocks)
  | syncCombinedHeaders request =>
      obtain ⟨number, first, stop, hcontinues⟩ := hfits
      rcases rules.whole before number first stop request h hcontinues with
        hkeeps | htakes
      · exact h.keeps hkeeps
      · exact h.takes hcontinues htakes

theorem KnowsSet.keeps (h : pRuntime.KnowsSet chain before)
    (hkeeps : pRuntime.KeepsHeaders before next) :
    pRuntime.KnowsSet chain next := by
  rw [KnowsSet, hkeeps.setId, hkeeps.headernum]
  exact h

/-- The change that pRuntime needs next comes with the headers it takes. -/
theorem KnowsSet.takes (hgrandpa : chain.Grandpa)
    (hmonotone : chain.MonotoneSets) (h : pRuntime.KnowsSet chain before)
    (hcontinues : Continues chain number first stop request)
    (hset : OneSet chain first stop request)
    (htakes : pRuntime.TakesHeaders chain first stop request before next) :
    pRuntime.KnowsSet chain next := by
  rw [KnowsSet, htakes.headernum, htakes.setId, Nat.add_sub_cancel]
  split
  · rfl
  · next hnone =>
      have hquiet : ¬ chain.SetIdGrows stop := fun hgrows => by
        have hjustified := hgrandpa stop (Nat.lt_of_lt_of_le
          hcontinues.genesis hset.ordered) hgrows
        rw [hset.carries hgrows, (chain.parent stop).authority_iff] at hnone
        exact hnone hjustified
      rw [h, hset.setId hmonotone htakes.first_le htakes.le_stop,
        setId_quiet hmonotone hquiet]

theorem HeaderRules.knowsSet (rules : pRuntime.HeaderRules chain)
    (hgrandpa : chain.Grandpa) (hmonotone : chain.MonotoneSets)
    (hchain : pRuntime.OnRelayChain chain before)
    (h : pRuntime.KnowsSet chain before) (hfits : SetsFit chain sent) :
    pRuntime.KnowsSet chain (pRuntime.serves before sent) := by
  cases sent with
  | dispatchBlock blocks => exact h.keeps (rules.keeps before blocks)
  | syncCombinedHeaders request =>
      obtain ⟨number, first, stop, hcontinues, hset⟩ := hfits
      rcases rules.whole before number first stop request hchain hcontinues with
        hkeeps | htakes
      · exact h.keeps hkeeps
      · exact h.takes hgrandpa hmonotone hcontinues hset htakes

end PRuntime

theorem SetsFit.headers (h : SetsFit chain sent) : HeadersFit chain sent := by
  cases sent with
  | dispatchBlock blocks => exact True.intro
  | syncCombinedHeaders request =>
      obtain ⟨number, first, stop, hcontinues, -⟩ := h
      exact ⟨number, first, stop, hcontinues⟩

theorem sendHeaders_finds
    (taken : state.sendHeaders rangeMeta request = some after) :
    state.Finds rangeMeta request ∧ ∃ served,
      state.served.sendHeaders request = some served ∧
        after = { state with served } := by
  simp only [HeaderStream.sendHeaders] at taken
  split at taken
  · next hfinds =>
      obtain ⟨served, hserved, rfl⟩ := Option.map_eq_some_iff.mp taken
      exact ⟨hfinds, served, hserved, rfl⟩
  · cases taken

namespace StreamOk

/-- What the step finds continues from the header that the loop asks for. -/
theorem found (h : StreamOk chain state)
    (hfinds : state.Finds rangeMeta request) :
    ∃ number first stop : Nat,
      (number : Int) = state.served.driven.sync.headerSyncNumber ∧
        Continues chain number first stop request := by
  obtain ⟨answer, hmember, hnumber, rfl, hbuffer⟩ := hfinds
  obtain ⟨stored, first, stop, hstored, hcontinues⟩ :=
    h.records answer hmember state.served.driven.sync.paraHeaderSyncNumber
  cases Option.some.inj ((h.buffers _ hbuffer).symm.trans hstored)
  exact ⟨answer.1, first, stop, hnumber, hcontinues⟩

theorem stored (h : StreamOk chain state)
    (hfinds : state.Finds rangeMeta request) :
    ∃ key, state.loop.db.headerBuffer key = some request := by
  obtain ⟨-, -, -, -, hbuffer⟩ := hfinds
  exact ⟨_, h.buffers _ hbuffer⟩

theorem loopStep (hgrandpa : chain.Grandpa) {event : WalkEvent}
    {loop : WalkState} (h : StreamOk chain state)
    (taken : (walkMachine chain).step state.loop event = some loop) :
    StreamOk chain { state with loop } := by
  have hkept : WriteOnce state.loop.db loop.db :=
    ((buffered_reachable hgrandpa h.loop).step hgrandpa taken).2
  exact
    { h with
      loop := h.loop.leads (Machine.Next.leads ⟨event, True.intro, taken⟩)
      records := fun answer hmember => (h.records answer hmember).mono hkept
      buffers := fun answer hmember => hkept _ _ (h.buffers answer hmember) }

theorem step (hgrandpa : chain.Grandpa) (rules : pRuntime.HeaderRules chain)
    {event : HeaderStreamEvent} (h : StreamOk chain state)
    (taken : (headerStreamMachine chain pRuntime fetchStatus start).step state
      event = some after) : StreamOk chain after := by
  cases event with
  | loop event =>
      obtain ⟨loop, hloop, rfl⟩ := Option.map_eq_some_iff.mp taken
      exact h.loopStep hgrandpa hloop
  | answersRecord number =>
      obtain ⟨rangeMeta, hmeta, rfl⟩ := Option.map_eq_some_iff.mp taken
      have hbuffers := (buffered_reachable hgrandpa h.loop).1
      exact
        { h with
          records := List.forall_mem_cons.mpr
            ⟨hbuffers.navigates number rangeMeta hmeta, h.records⟩ }
  | answersBuffer key =>
      obtain ⟨request, hrequest, rfl⟩ := Option.map_eq_some_iff.mp taken
      exact
        { h with buffers := List.forall_mem_cons.mpr ⟨hrequest, h.buffers⟩ }
  | sendHeaders rangeMeta request =>
      obtain ⟨hfinds, served, hserved, rfl⟩ := sendHeaders_finds taken
      obtain ⟨number, first, stop, -, hcontinues⟩ := h.found hfinds
      exact
        { h with
          served := h.served.sendHeaders ⟨number, first, stop, hcontinues⟩
            hserved }
  | sendBlocks rangeIndex blocks =>
      obtain ⟨served, hserved, rfl⟩ := Option.map_eq_some_iff.mp taken
      exact { h with served := h.served.sendBlocks True.intro hserved }
  | served event =>
      obtain ⟨served, hserved, rfl⟩ := Option.map_eq_some_iff.mp taken
      exact
        { h with
          served := h.served.step
            (fun _ _ hchain hfits => rules.onRelayChain hchain hfits) hserved }

end StreamOk

theorem streamOk_reachable (hgrandpa : chain.Grandpa)
    (rules : pRuntime.HeaderRules chain)
    (h : (headerStreamMachine chain pRuntime fetchStatus start).Reachable
      state) : StreamOk chain state := by
  refine Machine.Preserves.reaches ?_ ?_ h
  · exact fun _ _ _ _ hbefore taken => hbefore.step hgrandpa rules taken
  · exact
      { loop := Relation.ReflTransGen.refl
        records := fun _ hnone => by cases hnone
        buffers := fun _ hnone => by cases hnone
        served := ServedOk.startSync fetchStatus start start.resumes }

namespace StreamSets

theorem found (hgrandpa : chain.Grandpa)
    (hdistinct : Function.Injective fun number => (chain.parent number).header)
    (hok : StreamOk chain state) (h : StreamSets chain state)
    (hfinds : state.Finds rangeMeta request)
    (hcontinues : Continues chain number first stop request) :
    OneSet chain first stop request := by
  obtain ⟨key, hstored⟩ := hok.stored hfinds
  obtain ⟨left, right, hset⟩ := oneSet_reaches hgrandpa h.loop hstored
  exact hset.of_continues hdistinct hcontinues

theorem step (hgrandpa : chain.Grandpa) (rules : pRuntime.HeaderRules chain)
    (hmonotone : chain.MonotoneSets)
    (hdistinct : Function.Injective fun number => (chain.parent number).header)
    {event : HeaderStreamEvent} (hok : StreamOk chain state)
    (h : StreamSets chain state) (hsees : seesSets chain state event)
    (taken : (headerStreamMachine chain pRuntime fetchStatus start).step state
      event = some after) : StreamSets chain after := by
  cases event with
  | loop event =>
      obtain ⟨loop, hloop, rfl⟩ := Option.map_eq_some_iff.mp taken
      exact
        { h with
          loop := h.loop.leads (Machine.Next.leads ⟨event, hsees, hloop⟩) }
  | answersRecord number =>
      obtain ⟨rangeMeta, -, rfl⟩ := Option.map_eq_some_iff.mp taken
      exact { loop := h.loop, served := h.served }
  | answersBuffer key =>
      obtain ⟨request, -, rfl⟩ := Option.map_eq_some_iff.mp taken
      exact { loop := h.loop, served := h.served }
  | sendHeaders rangeMeta request =>
      obtain ⟨hfinds, served, hserved, rfl⟩ := sendHeaders_finds taken
      obtain ⟨number, first, stop, -, hcontinues⟩ := hok.found hfinds
      have hset := h.found hgrandpa hdistinct hok hfinds hcontinues
      exact
        { h with
          served := h.served.sendHeaders
            ⟨number, first, stop, hcontinues, hset⟩ hserved }
  | sendBlocks rangeIndex blocks =>
      obtain ⟨served, hserved, rfl⟩ := Option.map_eq_some_iff.mp taken
      exact { h with served := h.served.sendBlocks True.intro hserved }
  | served event =>
      obtain ⟨served, hserved, rfl⟩ := Option.map_eq_some_iff.mp taken
      exact
        { h with
          served := h.served.step
            (fun _ _ hgood hfits =>
              ⟨rules.onRelayChain hgood.1 hfits.headers,
                rules.knowsSet hgrandpa hmonotone hgood.1 hgood.2 hfits⟩)
            hserved }

end StreamSets

theorem streamSets_reaches (hgrandpa : chain.Grandpa)
    (rules : pRuntime.HeaderRules chain) (hmonotone : chain.MonotoneSets)
    (hdistinct : Function.Injective fun number => (chain.parent number).header)
    (hknows : ∀ runtime ∈ start.runtime :: start.checkpoints,
      pRuntime.KnowsSet chain runtime)
    (h : (headerStreamMachine chain pRuntime fetchStatus start).Reaches
      (seesSets chain) state) : StreamOk chain state ∧ StreamSets chain state := by
  have hpreserved : (headerStreamMachine chain pRuntime fetchStatus
      start).Preserves (seesSets chain) fun state =>
        StreamOk chain state ∧ StreamSets chain state := by
    rintro before event after hsees ⟨hok, hsets⟩ taken
    exact ⟨hok.step hgrandpa rules taken,
      hsets.step hgrandpa rules hmonotone hdistinct hok hsees taken⟩
  refine hpreserved.reaches ⟨?_, ?_⟩ h
  · exact streamOk_reachable hgrandpa rules Relation.ReflTransGen.refl
  · exact
      { loop := Relation.ReflTransGen.refl
        served := ServedOk.startSync fetchStatus start fun runtime hmember =>
          ⟨start.resumes runtime hmember, hknows runtime hmember⟩ }

/-- A request for the header that pRuntime expects goes on from it. -/
theorem StreamOk.sends (h : StreamOk chain state) (hfollows : state.Follows)
    (hfinds : state.Finds rangeMeta request) :
    ∃ first stop, Continues chain
      (pRuntime.info state.served.runtime).headernum first stop request := by
  obtain ⟨number, first, stop, hnumber, hcontinues⟩ := h.found hfinds
  cases Int.ofNat.inj (hnumber.trans hfollows)
  exact ⟨first, stop, hcontinues⟩

/-- pRuntime knows the set that the request is justified with, and takes it. -/
theorem StreamSets.sends (hgrandpa : chain.Grandpa)
    (rules : pRuntime.HeaderRules chain) (hmonotone : chain.MonotoneSets)
    (hdistinct : Function.Injective fun number => (chain.parent number).header)
    (hok : StreamOk chain state) (h : StreamSets chain state)
    (hfollows : state.Follows) (hfinds : state.Finds rangeMeta request) :
    (pRuntime.info state.served.runtime).headernum <
      (pRuntime.info (pRuntime.serves state.served.runtime
        (.syncCombinedHeaders request))).headernum := by
  obtain ⟨first, stop, hcontinues⟩ := hok.sends hfollows hfinds
  have hset := h.found hgrandpa hdistinct hok hfinds hcontinues
  obtain ⟨hchain, hknows⟩ := h.served.runtime
  have hverified := hknows.trans
    (hset.setId hmonotone hcontinues.first_le hcontinues.le_stop)
  rw [rules.verifies _ first stop request hchain hcontinues hverified]
  exact Nat.lt_succ_of_le hcontinues.le_stop

/-- In every run of the window loop and of a worker beside it, whatever fails,
is kept in a cache or is lost, pRuntime has the relay headers of the chain in
order and without a gap.  A request for the header that it expects goes on from
it, and is taken when pRuntime has the set that justifies its last block; that it
has whenever no walk has begun unseen at a set change.  A finished window always
holds a request for a header that it expects there. -/
theorem relay_headers_stream (chain : Chain) (hgrandpa : chain.Grandpa)
    (pRuntime : PRuntime) (rules : pRuntime.HeaderRules chain)
    (fetchStatus : Option FetchStatus)
    (start : RuntimeStart pRuntime (pRuntime.OnRelayChain chain))
    (state : HeaderStream pRuntime)
    (h : (headerStreamMachine chain pRuntime fetchStatus start).Reachable
      state) :
    pRuntime.OnRelayChain chain state.served.runtime ∧
      (∀ rangeMeta request after,
        state.sendHeaders rangeMeta request = some after → state.Follows →
        ∃ first stop,
          Continues chain (pRuntime.info state.served.runtime).headernum first
              stop request ∧
            (pRuntime.setId state.served.runtime =
                (chain.parent (stop - 1)).setId →
              (pRuntime.info (pRuntime.serves state.served.runtime
                (.syncCombinedHeaders request))).headernum = stop + 1)) ∧
      (∀ id window, state.loop.db.window id = some window →
        window.isFinished = true →
        (pRuntime.info state.served.runtime).headernum ≤ window.stop →
        ∃ rangeMeta,
          state.loop.db.rangeByParentBlock
              (pRuntime.info state.served.runtime).headernum =
            some rangeMeta ∧
            Navigates chain state.loop.db
              (pRuntime.info state.served.runtime).headernum rangeMeta) ∧
      (chain.MonotoneSets →
        (Function.Injective fun number => (chain.parent number).header) →
        (∀ runtime ∈ start.runtime :: start.checkpoints,
          pRuntime.KnowsSet chain runtime) →
        (headerStreamMachine chain pRuntime fetchStatus start).Reaches
          (seesSets chain) state →
        pRuntime.KnowsSet chain state.served.runtime ∧
          ∀ rangeMeta request after,
            state.sendHeaders rangeMeta request = some after →
            state.Follows →
            (pRuntime.info state.served.runtime).headernum <
              (pRuntime.info (pRuntime.serves state.served.runtime
                (.syncCombinedHeaders request))).headernum) := by
  have hok := streamOk_reachable hgrandpa rules h
  have hchain := hok.served.runtime
  refine ⟨hchain, ?_, ?_, ?_⟩
  · intro rangeMeta request after taken hfollows
    obtain ⟨hfinds, -⟩ := sendHeaders_finds taken
    obtain ⟨first, stop, hcontinues⟩ := hok.sends hfollows hfinds
    exact ⟨first, stop, hcontinues,
      rules.verifies _ first stop request hchain hcontinues⟩
  · intro id window stored hfinished hle
    obtain ⟨count, hdb, -⟩ := stateOk_reachable hgrandpa hok.loop
    have hid := (hdb.windows.isFinished_iff stored).mp hfinished
    have hpast := hdb.stop_lt_past hid stored
    obtain ⟨-, -, -, rangeMeta, -, -, hmeta, -⟩ :=
      hdb.range_at hchain.genesis (Nat.lt_of_le_of_lt hle hpast) hchain.cut
    exact ⟨rangeMeta, hmeta,
      (buffered_reachable hgrandpa hok.loop).1.navigates _ _ hmeta⟩
  · intro hmonotone hdistinct hknows hreached
    obtain ⟨-, hsets⟩ := streamSets_reaches hgrandpa rules hmonotone hdistinct
      hknows hreached
    refine ⟨hsets.served.runtime.2, fun _ _ _ taken hfollows => ?_⟩
    obtain ⟨hfinds, -⟩ := sendHeaders_finds taken
    exact hsets.sends hgrandpa rules hmonotone hdistinct hok hfollows hfinds

/-- A header is as long as its number, and every even one changes the set. -/
def countedChain : Chain :=
  Chain.fetched { paraNumber := 0, parentNumber := 0 } fun number =>
    { header := List.replicate number 0, justifications := some [(FRNK, [])]
      setId := number / 2, paraNumber := 0, paraProof := []
      authoritySet := [] }

structure Counted where
  info : Info
  relayHeaders : List Bytes
  setId : Nat

/-- The headers of one request are verified with the set before the last one. -/
def Counted.takes (state : Counted) (first stop : Nat)
    (request : SyncCombinedHeadersReq) : Counted :=
  if first ≤ state.info.headernum ∧ state.info.headernum ≤ stop ∧
      state.setId = (stop - 1) / 2 then
    { info := { state.info with headernum := stop + 1 }
      relayHeaders := state.relayHeaders ++
        (request.relaychainHeaders.map (·.header)).drop
          (state.info.headernum - first)
      setId :=
        if request.authoritySetChange.isSome then stop / 2 else state.setId }
  else
    state

def Counted.syncHeaders (state : Counted) (request : SyncCombinedHeadersReq) :
    Counted :=
  let numbers := request.relaychainHeaders.map (·.header.length)
  state.takes (numbers.headD 0) (numbers.getLastD 0) request

def countedRuntime : PRuntime where
  State := Counted
  info := Counted.info
  relayHeaders := Counted.relayHeaders
  setId := Counted.setId
  dispatched _ := []
  serves state
    | .syncCombinedHeaders request => state.syncHeaders request
    | .dispatchBlock _ => state
  forward state request := by
    cases request with
    | dispatchBlock blocks => exact ⟨rfl, rfl, Nat.le_refl _⟩
    | syncCombinedHeaders request =>
        simp only [Counted.syncHeaders, Counted.takes]
        split
        · next h => exact ⟨Nat.le_succ_of_le h.2.1, Nat.le_refl _, rfl⟩
        · exact ⟨Nat.le_refl _, Nat.le_refl _, rfl⟩

theorem counted_numbers
    (h : Continues countedChain number first stop request) :
    (request.relaychainHeaders.map (·.header.length)).headD 0 = first ∧
      (request.relaychainHeaders.map (·.header.length)).getLastD 0 = stop := by
  have hnumbers : request.relaychainHeaders.map (·.header.length) =
      List.range' first (stop - first + 1) := by
    have hlengths := congrArg (List.map List.length) h.relay
    rw [List.map_map, List.map_map, Chain.parents, List.map_map,
      Nat.sub_add_comm h.ordered] at hlengths
    refine hlengths.trans ((List.map_congr_left fun other _ => ?_).trans
      (List.map_id _))
    exact List.length_replicate
  rw [hnumbers]
  refine ⟨rfl, ?_⟩
  rw [List.getLastD_eq_getLast?, List.getLast?_range', if_neg (by omega),
    Option.getD_some]
  have := h.ordered
  omega

theorem counted_syncHeaders
    (h : Continues countedChain number first stop request) (state : Counted) :
    state.syncHeaders request = state.takes first stop request := by
  obtain ⟨hfirst, hstop⟩ := counted_numbers h
  simp only [Counted.syncHeaders, hfirst, hstop]

theorem countedRuntime_rules : countedRuntime.HeaderRules countedChain where
  whole := fun (state : Counted) number first stop request _ hcontinues => by
    have hserved := counted_syncHeaders hcontinues state
    unfold Counted.takes at hserved
    split at hserved
    · next htaken =>
        right
        show countedRuntime.TakesHeaders countedChain first stop request state
          (state.syncHeaders request)
        rw [hserved]
        exact ⟨htaken.1, htaken.2.1, rfl, rfl, rfl⟩
    · left
      show countedRuntime.KeepsHeaders state (state.syncHeaders request)
      rw [hserved]
      exact ⟨rfl, rfl, rfl⟩
  verifies := fun (state : Counted) first stop request _ hcontinues hset => by
    have hserved := counted_syncHeaders hcontinues state
    rw [Counted.takes, if_pos ⟨hcontinues.first_le, hcontinues.le_stop, hset⟩]
      at hserved
    exact congrArg (·.info.headernum) hserved
  dispatch := fun _ _ => ⟨rfl, rfl⟩

def countedStart :
    RuntimeStart countedRuntime (countedRuntime.OnRelayChain countedChain) where
  runtime :=
    { info := { headernum := 1, paraHeadernum := 2, blocknum := 2 }
      relayHeaders := []
      setId := 0 }
  checkpoints := []
  resumes := fun state hmember => by
    cases List.mem_singleton.mp hmember
    exact ⟨rfl, Nat.zero_lt_one, Or.inl rfl⟩

/-- The first window is closed, and its blob takes pRuntime behind it; the reply
is lost. -/
def countedRun : List HeaderStreamEvent :=
  let origin : Origin := { parentStart := 1, paraStart := 1 }
  let key := countedChain.blobKey origin 2
  let request := countedChain.blobReq origin 2
  List.replicate 8 (.loop .proceed) ++
    [.answersRecord 1, .answersBuffer (.blob key), .served (.drives .polls),
      .sendHeaders
        (WindowDb.pointToBlob key (countedChain.rangeMeta origin 1 1)) request,
      .served (.serves (some "timeout"))]

def seen (state : HeaderStream countedRuntime) : HeaderStreamEvent → Bool
  | .loop event => DataProvider.seen countedChain state.loop event
  | _ => true

theorem seesSets_of_seen (state : HeaderStream countedRuntime)
    (event : HeaderStreamEvent) (h : seen state event = true) :
    seesSets countedChain state event := by
  cases event with
  | loop event => exact seesFirst_of_seen h
  | _ => exact True.intro

theorem relay_headers_counted :
    let machine := headerStreamMachine countedChain countedRuntime
      (some fetched) countedStart
    let runtime := (machine.endedIf seen countedRun).served.runtime
    (countedRuntime.info runtime).headernum = 3 ∧
      countedRuntime.relayHeaders runtime = [[0], [0, 0]] ∧
      countedRuntime.setId runtime = 1 := by
  intro machine runtime
  have hreached : machine.Reaches (seesSets countedChain)
      (machine.endedIf seen countedRun) :=
    Machine.reaches_endedIf seesSets_of_seen rfl
  obtain ⟨hchain, -, -, hsets⟩ := relay_headers_stream countedChain
    (fun _ _ _ => rfl) countedRuntime countedRuntime_rules (some fetched)
    countedStart (machine.endedIf seen countedRun) hreached.reachable
  have hmonotone : countedChain.MonotoneSets :=
    fun number => Nat.div_le_div_right (Nat.le_succ number)
  have hdistinct :
      Function.Injective fun number => (countedChain.parent number).header :=
    fun left right hsame =>
      (List.length_replicate ..).symm.trans
        ((congrArg List.length hsame).trans (List.length_replicate ..))
  have hheadernum : (countedRuntime.info runtime).headernum = 3 := rfl
  have hknows := (hsets hmonotone hdistinct (by
    intro runtime hmember
    cases List.mem_singleton.mp hmember
    rfl) hreached).1
  have hheaders := hchain.relayHeaders
  rw [hheadernum] at hheaders
  rw [PRuntime.KnowsSet, hheadernum] at hknows
  exact ⟨hheadernum, hheaders, hknows⟩

end RuntimeBridge.Lifecycle
