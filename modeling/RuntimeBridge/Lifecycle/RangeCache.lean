import RuntimeBridge.DataProvider.CommittedHeight
import RuntimeBridge.DataProvider.WalkInvariant
import RuntimeBridge.DataProvider.WalkProgress

/-! How a runner reads the record of a range in `getHeaderBlob`: reads of one
key share the request that is on its way, and only those far enough behind the
reported height go through the LRU cache. -/

namespace RuntimeBridge.Lifecycle

open Library DataProvider

/-- An entry of `promiseStore` under `rangeByParentBlock:n:pb`. -/
structure PendingRead where
  /-- What the data provider has answered, while the answer is on its way. -/
  answer : Option (Option RangeMeta)
  /-- A caller of `getCachedBuffer` waits for it. -/
  cached : Bool
  deriving DecidableEq

structure RangeReader where
  promiseStore : Nat → Option PendingRead
  cache : Nat → Option RangeMeta

namespace RangeReader

def empty : RangeReader where
  promiseStore _ := none
  cache _ := none

def getBuffer (reader : RangeReader) (number : Nat) (cached : Bool) :
    RangeReader :=
  let pending : PendingRead :=
    match reader.promiseStore number with
    | some pending => { pending with cached := pending.cached || cached }
    | none => { answer := none, cached }
  { reader with
    promiseStore := Function.update reader.promiseStore number (some pending) }

def getCachedBuffer (disableLru : Bool) (reader : RangeReader)
    (number : Nat) : RangeReader :=
  if disableLru = false ∧ (reader.cache number).isSome then
    reader
  else
    reader.getBuffer number true

/-- The read that `getHeaderBlob` makes through `waitForRangeByParentNumber`,
once for every pass of its loop. -/
def waitForRangeByParentNumber (disableLru : Bool) (reader : RangeReader)
    (number : Nat) (currentCommittedNumber : Int) : RangeReader :=
  if 600 < currentCommittedNumber - number then
    reader.getCachedBuffer disableLru number
  else
    reader.getBuffer number false

def dropPending (reader : RangeReader) (number : Nat) : RangeReader :=
  { reader with promiseStore := Function.update reader.promiseStore number none }

def setCache (reader : RangeReader) (number : Nat)
    (record : Option RangeMeta) : RangeReader :=
  { reader with cache := Function.update reader.cache number record }

/-- The data provider looks the key up. -/
def answer (reader : RangeReader) (number : Nat)
    (record : Option RangeMeta) : Option RangeReader :=
  match reader.promiseStore number with
  | some { answer := none, cached } =>
      some { reader with
        promiseStore := Function.update reader.promiseStore number
          (some { answer := some record, cached }) }
  | _ => none

/-- The answer arrives; an empty one is not cached. -/
def reply (disableLru : Bool) (reader : RangeReader) (number : Nat) :
    Option RangeReader :=
  match reader.promiseStore number with
  | some { answer := some record, cached } =>
      if cached && !disableLru && record.isSome then
        some ((reader.dropPending number).setCache number record)
      else
        some (reader.dropPending number)
  | _ => none

end RangeReader

/-- The window loop, and a runner that reads its database. -/
structure SharedRanges where
  loop : WalkState
  reader : RangeReader

inductive RangeEvent where
  | loop (event : WalkEvent)
  | read (number : Nat) (currentCommittedNumber : Int)
  | answer (number : Nat)
  | reply (number : Nat)
  /-- The request times out or fails. -/
  | fail (number : Nat)
  | evict (number : Nat)
  | restart
  deriving DecidableEq

/-- The runner may still know any height that was reported, or `-1`. -/
def rangeMachine (chain : Chain) (disableLru : Bool) :
    Machine SharedRanges RangeEvent where
  start := { loop := (walkMachine chain).start, reader := .empty }
  step state
    | .loop event =>
        ((walkMachine chain).step state.loop event).map fun loop =>
          { state with loop }
    | .read number currentCommittedNumber =>
        if currentCommittedNumber = -1 ∨
            currentCommittedNumber ∈ state.loop.committedHeights then
          some { state with
            reader := state.reader.waitForRangeByParentNumber disableLru
              number currentCommittedNumber }
        else
          none
    | .answer number =>
        (state.reader.answer number
          (state.loop.db.rangeByParentBlock number)).map fun reader =>
            { state with reader }
    | .reply number =>
        (state.reader.reply disableLru number).map fun reader =>
          { state with reader }
    | .fail number => some { state with reader := state.reader.dropPending number }
    | .evict number =>
        some { state with reader := state.reader.setCache number none }
    | .restart => some { state with reader := .empty }

/-- A read that goes through the cache does not share an answer that is on its
way and has been overtaken by a write. -/
def sharesCurrent (disableLru : Bool) (state : SharedRanges) :
    RangeEvent → Prop
  | .read number currentCommittedNumber =>
      disableLru = false → 600 < currentCommittedNumber - number →
        state.reader.cache number = none →
        ∀ pending record, state.reader.promiseStore number = some pending →
          pending.answer = some record →
          record = state.loop.db.rangeByParentBlock number
  | _ => True

/-- What the cache holds, and will hold, lies below `bound` and is current. -/
structure ReaderOk (disableLru : Bool) (bound : Nat)
    (ranges : Nat → Option RangeMeta) (reader : RangeReader) : Prop where
  cache : ∀ number record, reader.cache number = some record →
    number < bound ∧ ranges number = some record
  pending : disableLru = false → ∀ number pending,
    reader.promiseStore number = some pending → pending.cached = true →
      number < bound ∧
        ∀ record, pending.answer = some record → ranges number = record

namespace ReaderOk

variable {disableLru : Bool} {bound past : Nat}
  {ranges written : Nat → Option RangeMeta} {reader after : RangeReader}
  {number : Nat}

theorem empty : ReaderOk disableLru bound ranges .empty where
  cache := fun _ _ h => by cases h
  pending := fun _ _ _ h => by cases h

theorem mono (h : ReaderOk disableLru bound ranges reader)
    (hbound : bound ≤ past)
    (hsame : ∀ number, number < bound → written number = ranges number) :
    ReaderOk disableLru past written reader where
  cache := fun number record hcache => by
    obtain ⟨hlt, hrecord⟩ := h.cache number record hcache
    exact ⟨Nat.lt_of_lt_of_le hlt hbound, (hsame number hlt).trans hrecord⟩
  pending := fun hlru number pending hpending hcached => by
    obtain ⟨hlt, hanswer⟩ := h.pending hlru number pending hpending hcached
    refine ⟨Nat.lt_of_lt_of_le hlt hbound, fun record hrecord => ?_⟩
    rw [hsame number hlt]
    exact hanswer record hrecord

/-- Only the entry of `number` changes. -/
theorem update {entry : Option PendingRead}
    (h : ReaderOk disableLru bound ranges reader)
    (hentry : disableLru = false → ∀ pending, entry = some pending →
      pending.cached = true → number < bound ∧
        ∀ record, pending.answer = some record → ranges number = record) :
    ReaderOk disableLru bound ranges
      { reader with
        promiseStore := Function.update reader.promiseStore number entry } where
  cache := h.cache
  pending := fun hlru other pending hpending => by
    by_cases heq : other = number
    · subst heq
      simp only [Function.update_self] at hpending
      exact hentry hlru pending hpending
    · simp only [Function.update_of_ne heq] at hpending
      exact h.pending hlru other pending hpending

theorem dropPending (h : ReaderOk disableLru bound ranges reader)
    (number : Nat) :
    ReaderOk disableLru bound ranges (reader.dropPending number) :=
  h.update fun _ _ hnone => by cases hnone

theorem setCache {record : Option RangeMeta}
    (h : ReaderOk disableLru bound ranges reader)
    (hrecord : ∀ value, record = some value →
      number < bound ∧ ranges number = some value) :
    ReaderOk disableLru bound ranges (reader.setCache number record) where
  cache := fun other value hvalue => by
    by_cases heq : other = number
    · subst heq
      simp only [RangeReader.setCache, Function.update_self] at hvalue
      exact hrecord value hvalue
    · simp only [RangeReader.setCache, Function.update_of_ne heq] at hvalue
      exact h.cache other value hvalue
  pending := h.pending

theorem getBuffer {cached : Bool}
    (h : ReaderOk disableLru bound ranges reader)
    (hshared : disableLru = false → cached = true → number < bound ∧
      ∀ pending record, reader.promiseStore number = some pending →
        pending.answer = some record → record = ranges number) :
    ReaderOk disableLru bound ranges (reader.getBuffer number cached) := by
  refine h.update fun hlru pending hentry hcached => ?_
  cases Option.some.inj hentry
  cases hstored : reader.promiseStore number with
  | none =>
      simp only [hstored] at hcached ⊢
      obtain ⟨hlt, -⟩ := hshared hlru hcached
      exact ⟨hlt, fun _ hanswer => by cases hanswer⟩
  | some stored =>
      simp only [hstored, Bool.or_eq_true] at hcached ⊢
      rcases hcached with hwaiting | hcached
      · exact h.pending hlru number stored hstored hwaiting
      · obtain ⟨hlt, hcurrent⟩ := hshared hlru hcached
        exact ⟨hlt, fun record hanswer =>
          (hcurrent stored record hstored hanswer).symm⟩

theorem waitForRangeByParentNumber {currentCommittedNumber : Int}
    (h : ReaderOk disableLru bound ranges reader)
    (hfinal : 600 < currentCommittedNumber - number → number < bound)
    (hshared : disableLru = false → 600 < currentCommittedNumber - number →
      reader.cache number = none →
      ∀ pending record, reader.promiseStore number = some pending →
        pending.answer = some record → record = ranges number) :
    ReaderOk disableLru bound ranges
      (reader.waitForRangeByParentNumber disableLru number
        currentCommittedNumber) := by
  unfold RangeReader.waitForRangeByParentNumber
  split
  · next hbehind =>
      unfold RangeReader.getCachedBuffer
      split
      · exact h
      · next hmissing =>
          refine h.getBuffer fun hlru _ => ⟨hfinal hbehind, ?_⟩
          refine hshared hlru hbehind ?_
          simpa [hlru] using hmissing
  · exact h.getBuffer fun _ hcached => by cases hcached

theorem answer (h : ReaderOk disableLru bound ranges reader)
    (hanswer : reader.answer number (ranges number) = some after) :
    ReaderOk disableLru bound ranges after := by
  unfold RangeReader.answer at hanswer
  split at hanswer
  · next cached hstored =>
      cases hanswer
      refine h.update fun hlru pending hentry hcached => ?_
      cases Option.some.inj hentry
      obtain ⟨hlt, -⟩ := h.pending hlru number _ hstored hcached
      exact ⟨hlt, fun record hrecord => Option.some.inj hrecord⟩
  · cases hanswer

theorem reply (h : ReaderOk disableLru bound ranges reader)
    (hreply : reader.reply disableLru number = some after) :
    ReaderOk disableLru bound ranges after := by
  unfold RangeReader.reply at hreply
  split at hreply
  · next record cached hstored =>
      split at hreply
      · next hcaches =>
          cases hreply
          simp only [Bool.and_eq_true, Bool.not_eq_true'] at hcaches
          obtain ⟨⟨hcached, hlru⟩, -⟩ := hcaches
          obtain ⟨hlt, hcurrent⟩ := h.pending hlru number _ hstored hcached
          refine (h.dropPending number).setCache fun value hvalue => ?_
          exact ⟨hlt, (hcurrent record rfl).trans hvalue⟩
      · cases hreply
        exact h.dropPending number
  · cases hreply

end ReaderOk

variable {chain : Chain} {disableLru : Bool} {before after : SharedRanges}

def SharedOk (chain : Chain) (disableLru : Bool) (state : SharedRanges) :
    Prop :=
  ∃ count, PlaceOk chain count state.loop.db state.loop.proc ∧
    (∀ height ∈ state.loop.committedHeights,
      height < chain.past state.loop.db count) ∧
    ReaderOk disableLru (chain.past state.loop.db count)
      state.loop.db.rangeByParentBlock state.reader

theorem sharedOk_loop {event : WalkEvent} {loop : WalkState}
    (h : SharedOk chain disableLru before)
    (htaken : (walkMachine chain).step before.loop event = some loop) :
    SharedOk chain disableLru { before with loop } := by
  obtain ⟨count, hplace, hheights, hreader⟩ := h
  cases event with
  | proceed =>
      cases Option.some.inj htaken
      obtain ⟨next, hsteps⟩ := walkStep_steps hplace
      exact ⟨next, hsteps.place, hsteps.heights_lt hheights,
        hreader.mono hsteps.past_le hsteps.frame.ranges⟩
  | crash =>
      cases Option.some.inj htaken
      exact ⟨count, placeOk_restart hplace, hheights, hreader⟩

theorem sharedOk_preserved (chain : Chain) (disableLru : Bool) :
    (rangeMachine chain disableLru).Preserves (sharesCurrent disableLru)
      (SharedOk chain disableLru) := by
  intro before event after hguard hbefore htaken
  cases event with
  | loop event =>
      obtain ⟨loop, hloop, rfl⟩ := Option.map_eq_some_iff.mp htaken
      exact sharedOk_loop hbefore hloop
  | read number height =>
      obtain ⟨count, hplace, hheights, hreader⟩ := hbefore
      simp only [rangeMachine] at htaken
      split at htaken
      · next hknown =>
          cases htaken
          refine ⟨count, hplace, hheights,
            hreader.waitForRangeByParentNumber ?_ hguard⟩
          intro hbehind
          rcases hknown with rfl | hmem
          · omega
          · have := hheights height hmem
            omega
      · cases htaken
  | answer number =>
      obtain ⟨count, hplace, hheights, hreader⟩ := hbefore
      obtain ⟨reader, hanswer, rfl⟩ := Option.map_eq_some_iff.mp htaken
      exact ⟨count, hplace, hheights, hreader.answer hanswer⟩
  | reply number =>
      obtain ⟨count, hplace, hheights, hreader⟩ := hbefore
      obtain ⟨reader, hreply, rfl⟩ := Option.map_eq_some_iff.mp htaken
      exact ⟨count, hplace, hheights, hreader.reply hreply⟩
  | fail number =>
      cases Option.some.inj htaken
      obtain ⟨count, hplace, hheights, hreader⟩ := hbefore
      exact ⟨count, hplace, hheights, hreader.dropPending number⟩
  | evict number =>
      cases Option.some.inj htaken
      obtain ⟨count, hplace, hheights, hreader⟩ := hbefore
      exact ⟨count, hplace, hheights,
        hreader.setCache fun _ hnone => by cases hnone⟩
  | restart =>
      cases Option.some.inj htaken
      obtain ⟨count, hplace, hheights, -⟩ := hbefore
      exact ⟨count, hplace, hheights, .empty⟩

theorem sharedOk_reaches {state : SharedRanges}
    (h : (rangeMachine chain disableLru).Reaches (sharesCurrent disableLru)
      state) : SharedOk chain disableLru state := by
  refine (sharedOk_preserved chain disableLru).reaches ?_ h
  exact ⟨0, placeOk_empty chain, fun _ hmem => (by cases hmem), .empty⟩

/-- What the loop does alone, it does while the runner waits. -/
theorem loop_leads {loop later : WalkState} (reader : RangeReader)
    (h : (walkMachine chain).Leads uninterrupted loop later) :
    (rangeMachine chain disableLru).Leads (sharesCurrent disableLru)
      { loop, reader } { loop := later, reader } := by
  let place (loop : WalkState) : SharedRanges := { loop, reader }
  refine Relation.ReflTransGen.lift place ?_ _ _ h
  intro before after ⟨event, _, htaken⟩
  refine ⟨.loop event, True.intro, ?_⟩
  simp only [rangeMachine, place, htaken, Option.map_some]

theorem cached_records_final (chain : Chain) (disableLru : Bool) :
    (∀ state later, (walkMachine chain).Reachable state →
      (walkMachine chain).Leads Machine.anyEvent state later →
      ∀ height ∈ state.committedHeights, ∀ number : Nat,
        (number : Int) ≤ height →
        later.db.rangeByParentBlock number =
          state.db.rangeByParentBlock number) ∧
    (∀ state, (rangeMachine chain disableLru).Reaches
        (sharesCurrent disableLru) state →
      ∀ number record, state.reader.cache number = some record →
        state.loop.db.rangeByParentBlock number = some record) := by
  constructor
  · intro state later hreach hleads height hmem number hle
    exact record_settled (heightsBehind_reachable hreach) hleads hmem hle
  · intro state hreach number record hcache
    obtain ⟨count, -, -, hreader⟩ := sharedOk_reaches hreach
    exact (hreader.cache number record hcache).2

def longWindows : Chain := Chain.setsEvery 602

theorem longWindows_grows (number : Nat) :
    longWindows.SetIdGrows number ↔ (number - 1) / 602 < number / 602 :=
  Iff.rfl

/-- The first window closes at block 602. -/
theorem longWindows_past {db : WindowDb} {count : Nat}
    (h : WindowsOk longWindows db.window (count + 1)) :
    longWindows.past db 1 = 603 := by
  obtain ⟨window, hstored, -, hclosed⟩ := h.finished 0 (Nat.succ_pos count)
  have hstart : window.parentStartBlock = 1 :=
    congrArg Origin.parentStart (h.first window hstored)
  have hgrows := (longWindows_grows _).mp hclosed.grows
  have hsame : ¬ 602 < window.stop := fun hlt => by
    refine hclosed.sameSet 602 (by omega) hlt ?_
    rw [longWindows_grows]
    omega
  rw [past_succ hstored]
  omega

/-- The record of the first block is pointed to its blob when the first window
is closed. -/
theorem longWindows_pointed {state : WalkState} {count : Nat}
    (hreach : (walkMachine longWindows).Reachable state)
    (hwindows : WindowsOk longWindows state.db.window (count + 1)) :
    ∃ record, state.db.rangeByParentBlock 1 = some record ∧
      record.blobParentStopBlock.isSome = true := by
  have hgrandpa : longWindows.Grandpa := fun _ _ _ => rfl
  obtain ⟨settled, hdb, -⟩ := stateOk_reachable hgrandpa hreach
  obtain ⟨window, hstored, hfinished, hclosed⟩ :=
    hwindows.finished 0 (Nat.succ_pos count)
  have hpos : 0 < settled := by
    refine Nat.pos_of_ne_zero fun hzero => ?_
    subst hzero
    rw [hdb.windows.current window hstored] at hfinished
    contradiction
  have hstart : window.parentStartBlock = 1 :=
    congrArg Origin.parentStart (hwindows.first window hstored)
  have hordered := hclosed.ordered
  have hsealed := hdb.sealed 0 window hpos hstored
  have hrange : longWindows.IsRange window.origin 1 1 := by
    have hopen := @Chain.OpenRange.start longWindows window.origin
    rw [origin_parentStart, hstart] at hopen
    exact { hopen with closes := rfl }
  obtain ⟨record, hrecord⟩ := Option.isSome_iff_exists.mp
    (hsealed.covered 1 1 hrange (by omega))
  have hpoints := hsealed.blob.points 1 record
    (Nat.le_of_eq hstart) (by omega) hrecord
  refine ⟨record, hrecord, ?_⟩
  rw [← hpoints]
  rfl

theorem longWindows_walked {state : WalkState} {walk : Walk}
    (hreach : (walkMachine longWindows).Reachable state)
    (hproc : state.proc = .block walk)
    (hid : walk.currentWindow.windowId = 0) (hle : walk.parentNumber ≤ 602) :
    ∃ later, (walkMachine longWindows).Leads uninterrupted state later ∧
      (602 : Int) ∈ later.committedHeights ∧
      ∃ record, later.db.rangeByParentBlock 1 = some record ∧
        record.blobParentStopBlock.isSome = true := by
  obtain ⟨count, hwindows, hat⟩ := placeOk_reachable hreach
  obtain ⟨db, proc, heights⟩ := state
  cases hproc
  obtain ⟨first, number, hwalk⟩ := hat
  have hzero : count = 0 :=
    (hwindows.windowId count _ hwalk.window).symm.trans hid
  subst hzero
  have hnumber := hwalk.parentNumber
  obtain ⟨closed, hclosed⟩ := @walked_block longWindows db 0 number first 602
    walk heights (602 - number) hwindows hwalk (by omega)
    (show 1 < 602 by omega) ((longWindows_grows 602).mpr (by omega))
  obtain ⟨window, hnext⟩ := hclosed.next
  have hleads := hclosed.leads
  have hplace := hclosed.place
  have hpast := longWindows_past hplace.windows
  obtain ⟨closedDb, closedProc, closedHeights⟩ := closed
  cases hnext
  simp only at hpast
  obtain ⟨later, hlater⟩ := @walked_window longWindows closedDb 1 1204
    closedHeights (some window) hplace (by omega)
    ((longWindows_grows 1204).mpr (by omega))
  have hthrough := hleads.trans hlater.leads
  refine ⟨later, hthrough, ?_, ?_⟩
  · have hreported := hlater.reported
    rwa [hpast] at hreported
  · exact longWindows_pointed
      (hreach.leads (hthrough.mono fun _ _ _ => True.intro))
      hlater.place.windows

def firstRead : SharedRanges :=
  (rangeMachine longWindows false).ended
    [.loop .proceed, .loop .proceed, .loop .proceed, .read 1 (-1), .answer 1]

theorem firstRead_loop :
    (walkMachine longWindows).Reaches uninterrupted firstRead.loop :=
  Machine.reaches_ended (by simp [uninterrupted])
    (show ((walkMachine longWindows).run _
      [.proceed, .proceed, .proceed]).isSome = true from rfl)

/-- The first record is read before its window closes, and the answer is still
on its way when two windows are done. -/
theorem cached_records_stale :
    ¬ ∀ state, (rangeMachine longWindows false).Reachable state →
      ∀ number record, state.reader.cache number = some record →
        state.loop.db.rangeByParentBlock number = some record := by
  intro hclaim
  obtain ⟨later, hleads, hreported, record, hrecord, hpointed⟩ :=
    longWindows_walked firstRead_loop.reachable rfl rfl (show 2 ≤ 602 by omega)
  let joined : SharedRanges :=
    { loop := later
      reader := firstRead.reader.waitForRangeByParentNumber false 1 602 }
  have hfirst : (rangeMachine longWindows false).Reachable firstRead :=
    Machine.reachable_ended rfl
  have hwalked := Machine.Leads.mono (fun _ _ _ => True.intro)
    (@loop_leads longWindows false _ _ firstRead.reader hleads)
  have hread : (rangeMachine longWindows false).step
      { loop := later, reader := firstRead.reader } (.read 1 602) =
        some joined := by
    simp only [rangeMachine, hreported, or_true, if_true, joined]
  obtain ⟨filled, hreply, hloop, hcache⟩ : ∃ filled,
      (rangeMachine longWindows false).step joined (.reply 1) = some filled ∧
        filled.loop = later ∧
        filled.reader.cache 1 = firstRead.loop.db.rangeByParentBlock 1 :=
    ⟨_, rfl, rfl, rfl⟩
  have hreach := ((hfirst.leads hwalked).leads
    (Machine.Next.leads ⟨.read 1 602, True.intro, hread⟩)).leads
    (Machine.Next.leads ⟨.reply 1, True.intro, hreply⟩)
  obtain ⟨dry, hdry, hunpointed⟩ : ∃ dry,
      firstRead.loop.db.rangeByParentBlock 1 = some dry ∧
        dry.blobParentStopBlock = none :=
    ⟨_, rfl, rfl⟩
  have hcurrent := hclaim filled hreach 1 dry (hcache.trans hdry)
  rw [hloop, hrecord] at hcurrent
  cases Option.some.inj hcurrent
  rw [hunpointed] at hpointed
  contradiction

/-- A read that begins when the height is reported caches the last record. -/
theorem cached_records_current :
    ∃ (state : SharedRanges) (record : RangeMeta),
      state.reader.cache 1 = some record ∧
      state.loop.db.rangeByParentBlock 1 = some record ∧
      ∀ later, (walkMachine longWindows).Leads Machine.anyEvent state.loop
          later →
        later.db.rangeByParentBlock 1 =
          state.loop.db.rangeByParentBlock 1 := by
  obtain ⟨later, hleads, hreported, record, hrecord, -⟩ :=
    longWindows_walked firstRead_loop.reachable rfl rfl
      (show 2 ≤ 602 by omega)
  have hloop : (walkMachine longWindows).Reaches uninterrupted later :=
    firstRead_loop.leads hleads
  let start : SharedRanges := { loop := later, reader := .empty }
  have hstart : (rangeMachine longWindows false).Reaches (sharesCurrent false)
      start := @loop_leads longWindows false _ _ .empty hloop
  let asked : SharedRanges :=
    { start with
      reader := RangeReader.empty.waitForRangeByParentNumber false 1 602 }
  have hread : (rangeMachine longWindows false).step start (.read 1 602) =
      some asked := by
    simp only [rangeMachine, start, hreported, or_true, if_true, asked]
  have hshares : sharesCurrent false start (.read 1 602) :=
    fun _ _ _ _ _ hnone => by cases hnone
  obtain ⟨answered, hanswer, hheld, hstored⟩ : ∃ answered,
      (rangeMachine longWindows false).step asked (.answer 1) =
          some answered ∧
        answered.loop = later ∧
        answered.reader.promiseStore 1 =
          some { answer := some (later.db.rangeByParentBlock 1)
                 cached := true } :=
    ⟨_, rfl, rfl, rfl⟩
  obtain ⟨filled, hreply, hfilled, hcache⟩ : ∃ filled,
      (rangeMachine longWindows false).step answered (.reply 1) =
          some filled ∧
        filled.loop = later ∧ filled.reader.cache 1 = some record := by
    simp only [rangeMachine, RangeReader.reply, hstored, hrecord]
    exact ⟨_, rfl, hheld, rfl⟩
  have hreach := ((hstart.leads
    (Machine.Next.leads ⟨.read 1 602, hshares, hread⟩)).leads
    (Machine.Next.leads ⟨.answer 1, True.intro, hanswer⟩)).leads
    (Machine.Next.leads ⟨.reply 1, True.intro, hreply⟩)
  have hclaim := cached_records_final longWindows false
  refine ⟨filled, record, hcache, hclaim.2 filled hreach 1 record hcache, ?_⟩
  intro after hafter
  rw [hfilled] at hafter ⊢
  exact hclaim.1 later after hloop.reachable hafter 602 hreported 1 (by omega)

end RuntimeBridge.Lifecycle
