import RuntimeBridge.DataProvider.BlobMerge
import RuntimeBridge.DataProvider.WalkPosition

/-! The header buffers that range records name.  A stored buffer never changes,
so a record that was read long ago still leads to the headers of its block. -/

namespace RuntimeBridge.DataProvider

open Library

/-- The keys `drySyncHeader:` and `blobRange:`. -/
inductive HeaderKey where
  | dry (key : RangeKey)
  | blob (key : RangeKey)
  deriving DecidableEq, Repr

def WindowDb.headerBuffer (db : WindowDb) :
    HeaderKey → Option SyncCombinedHeadersReq
  | .dry key => db.drySyncHeader key
  | .blob key => db.blobRange key

/-- The `bufferKey` of `getHeaderBlob`. -/
def RangeMeta.bufferKey (rangeMeta : RangeMeta) (paraHeaderSyncNumber : Int) :
    HeaderKey :=
  if paraHeaderSyncNumber = 1 then
    .dry rangeMeta.drySyncHeaderReqKey
  else
    match rangeMeta.blobSyncHeaderReqKey with
    | some key => .blob key
    | none => .dry rangeMeta.drySyncHeaderReqKey

/-- The relay headers `first, ..., stop`, the last one with its justification,
and no authority set but that of `stop`. -/
structure Continues (chain : Chain) (number first stop : Nat)
    (request : SyncCombinedHeadersReq) : Prop where
  genesis : chain.genesis.parentNumber < first
  first_le : first ≤ number
  le_stop : number ≤ stop
  justified : chain.Justified stop
  headers : request.relaychainHeaders =
    keepLastJustification ((chain.parents first (stop + 1)).map
      (·.syncHeaderData))
  authoritySet : ∀ authoritySet,
    request.authoritySetChange = some authoritySet →
      (chain.parent stop).authoritySetChange = some authoritySet

/-- What is stored under a header key stays there. -/
def WriteOnce (db written : WindowDb) : Prop :=
  ∀ key request, db.headerBuffer key = some request →
    written.headerBuffer key = some request

/-- Every buffer key of `rangeMeta` leads on from `number`. -/
def Navigates (chain : Chain) (db : WindowDb) (number : Nat)
    (rangeMeta : RangeMeta) : Prop :=
  ∀ paraHeaderSyncNumber, ∃ request first stop,
    db.headerBuffer (rangeMeta.bufferKey paraHeaderSyncNumber) = some request ∧
      Continues chain number first stop request

structure BuffersOk (chain : Chain) (db : WindowDb) : Prop where
  marked : ∀ key request, db.drySyncHeader key = some request →
    db.rangeWritten key = true
  blobs : ∀ key request, db.blobRange key = some request →
    ∃ id window stop, db.window id = some window ∧
      key = chain.blobKey window.origin stop ∧
      request = chain.blobReq window.origin stop
  navigates : ∀ number rangeMeta,
    db.rangeByParentBlock number = some rangeMeta →
    Navigates chain db number rangeMeta

/-- What one step of the window loop writes. -/
inductive Writes (chain : Chain) (db : WindowDb) (count : Nat) :
    WindowDb → Prop where
  | other (written : WindowDb)
      (ranges : written.rangeByParentBlock = db.rangeByParentBlock)
      (requests : written.drySyncHeader = db.drySyncHeader)
      (marks : written.rangeWritten = db.rangeWritten)
      (blobs : written.blobRange = db.blobRange)
      (windows : ∀ id window, db.window id = some window →
        ∃ after, written.window id = some after ∧
          after.origin = window.origin) :
      Writes chain db count written
  | range (window : Window) (first stop : Nat) (changed : Bool)
      (stored : db.window count = some window)
      (isRange : chain.IsRange window.origin first stop)
      (unmarked : db.rangeWritten (chain.rangeKey window.origin first stop) =
        false) :
      Writes chain db count (chain.writeRange window.origin db first stop changed)
  | blob (window : Window) (stop : Nat) (stored : db.window count = some window)
      (start_le : window.parentStartBlock ≤ stop)
      (grows : chain.SetIdGrows stop) :
      Writes chain db count (chain.writeBlob window.origin db stop)

variable {chain : Chain} {db written : WindowDb} {count number first stop : Nat}
  {window : Window} {walk : Walk} {visit : Visit} {rangeMeta : RangeMeta}
  {request : SyncCombinedHeadersReq} {state : WalkState} {heights : List Int}

namespace Writes

theorem refl (chain : Chain) (db : WindowDb) (count : Nat) :
    Writes chain db count db :=
  .other db rfl rfl rfl rfl fun _ window stored => ⟨window, stored, rfl⟩

theorem putWindow (hsame : ∀ current, db.window window.windowId = some current →
      window.origin = current.origin) :
    Writes chain db count (db.putWindow window) := by
  refine .other _ rfl rfl rfl rfl fun id current stored => ?_
  by_cases heq : id = window.windowId
  · subst heq
    exact ⟨window, putWindow_self window, hsame current stored⟩
  · exact ⟨current, by rw [putWindow_of_ne heq, stored], rfl⟩

/-- No step moves the origin of a stored window. -/
theorem window_origin (h : Writes chain db count written) {id : Nat}
    (stored : db.window id = some window) :
    ∃ after, written.window id = some after ∧
      after.origin = window.origin := by
  cases h with
  | other _ _ _ _ _ windows => exact windows id window stored
  | range => exact ⟨window, stored, rfl⟩
  | blob => exact ⟨window, stored, rfl⟩

end Writes

theorem writes_block (h : PlaceOk chain count db (.block walk)) :
    Writes chain db count (walkStep chain ⟨db, .block walk, heights⟩).db := by
  obtain ⟨-, first, number, hwalk⟩ := h
  obtain ⟨visit, hvisit, -⟩ := hwalk.visitBlock
  simp only [walkStep, hvisit, Chain.visitedDb]
  split
  · next hwrites =>
      exact .range walk.currentWindow first number _ hwalk.window
        { hwalk.range with closes := hwrites.1 } hwrites.2
  · exact Writes.refl chain db count

theorem writes_visited (h : PlaceOk chain count db (.visited visit)) :
    Writes chain db count (walkStep chain ⟨db, .visited visit, heights⟩).db := by
  obtain ⟨hwindows, number, hvisited⟩ := h
  have hid := hwindows.windowId count _ hvisited.window
  cases hchanged : setIdChanged visit.currParentBlock visit.lastParentBlock with
  | true =>
      obtain ⟨window, written, -, ⟨hfinish, -⟩ | ⟨key, hfinish, -, hwritten⟩⟩ :=
        hvisited.finish_changed hchanged
      · simp only [walkStep, hfinish]
        exact Writes.refl chain db count
      · simp only [walkStep, hfinish, hwritten]
        exact .blob visit.currentWindow number hvisited.window
          hvisited.toArrived.start_le (hvisited.toArrived.grows hchanged).1
  | false =>
      obtain ⟨written, first, walk, hfinish, -, hwalkId, horigin, -, hwritten⟩ :=
        hvisited.finish_quiet hid hchanged
      simp only [walkStep, hfinish]
      rcases hwritten with rfl | rfl
      · exact Writes.refl chain _ count
      · refine Writes.putWindow fun current stored => ?_
        rw [hwalkId, hvisited.window] at stored
        rw [horigin, Option.some.inj stored]

theorem writes_close (h : PlaceOk chain count db (.close window)) :
    Writes chain db count (walkStep chain ⟨db, .close window, heights⟩).db := by
  obtain ⟨hwindows, number, visit, hcloses, -⟩ := h
  have hvisited := hcloses.visited
  obtain ⟨closed, hclose, hid, horigin, -⟩ :=
    hvisited.toArrived.closedWindow
      (hwindows.windowId count _ hvisited.window) hcloses.changed
  cases Option.some.inj (hclose.symm.trans hcloses.closes)
  refine Writes.putWindow fun current stored => ?_
  rw [hid, hvisited.window] at stored
  rw [horigin, Option.some.inj stored]

theorem writes_next {id : Nat} {last : Option Window}
    (h : PlaceOk chain count db (.next id last)) :
    Writes chain db count (walkStep chain ⟨db, .next id last, heights⟩).db := by
  cases hstored : db.window id with
  | some window =>
      simp only [walkStep, walkWindow, WindowDb.getWindow, hstored]
      split
      · exact Writes.refl chain db count
      · exact Writes.refl chain db count
  | none =>
      cases h.id_eq hstored
      obtain ⟨origin, parent, hfirst, -⟩ :=
        firstBlocks_placed h.windows h.proc.2
      simp only [walkStep, walkWindow, WindowDb.getWindow, hstored, hfirst,
        Option.bind_eq_bind, Option.bind_some, Option.pure_def,
        Option.getD_some]
      refine Writes.putWindow fun current hcurrent => ?_
      simp only [WindowDb.emptyWindow, hstored] at hcurrent
      contradiction

theorem walkStep_writes (h : PlaceOk chain count state.db state.proc) :
    Writes chain state.db count (walkStep chain state).db := by
  obtain ⟨db, proc, heights⟩ := state
  cases proc with
  | next id last => exact writes_next h
  | block walk => exact writes_block h
  | visited visit => exact writes_visited h
  | mark window key =>
      exact .other _ rfl rfl rfl rfl fun _ window stored => ⟨window, stored, rfl⟩
  | close window => exact writes_close h
  | commit window =>
      exact .other _ rfl rfl rfl rfl fun _ window stored => ⟨window, stored, rfl⟩
  | exited => exact h.proc.elim

theorem WindowsOk.start_inj {windows : Nat → Option Window} {left right : Nat}
    {leftWindow rightWindow : Window} (h : WindowsOk chain windows count)
    (hleft : windows left = some leftWindow)
    (hright : windows right = some rightWindow)
    (hstart : leftWindow.parentStartBlock = rightWindow.parentStartBlock) :
    leftWindow = rightWindow := by
  rcases Nat.lt_trichotomy left right with hlt | rfl | hlt
  · have hstop := h.stop_lt_start hlt hleft hright
    have hcount := h.le_count hright
    have := (h.closed (by omega) hleft).ordered
    omega
  · exact Option.some.inj (hleft.symm.trans hright)
  · have hstop := h.stop_lt_start hlt hright hleft
    have hcount := h.le_count hleft
    have := (h.closed (by omega) hright).ordered
    omega

theorem keepLastJustification_concat (headers : List HeaderToSync)
    (last : HeaderToSync)
    (hbare : ∀ header ∈ headers, header.justification = none) :
    keepLastJustification (headers ++ [last]) = headers ++ [last] := by
  induction headers with
  | nil => rfl
  | cons header rest ih =>
      have hrest := ih fun other hmember => hbare other (by simp [hmember])
      have hheader : { header with justification := none } = header := by
        rw [← hbare header (by simp)]
      cases hsplit : rest ++ [last] with
      | nil => simp at hsplit
      | cons next others =>
          rw [List.cons_append, hsplit, keepLastJustification, ← hsplit, hrest,
            hheader]

/-- Only the last block of a dry range is justified. -/
theorem range_headers {origin : Origin}
    (h : chain.IsRange origin first stop) :
    keepLastJustification ((chain.parents first (stop + 1)).map
        (·.syncHeaderData)) =
      (chain.parents first (stop + 1)).map (·.syncHeaderData) := by
  rw [Chain.parents_succ h.ordered, List.map_append, List.map_singleton]
  refine keepLastJustification_concat _ _ fun header hmember => ?_
  simp only [Chain.parents, List.map_map, List.mem_map, List.mem_range'_1,
    Function.comp_apply] at hmember
  obtain ⟨number, ⟨hle, hlt⟩, rfl⟩ := hmember
  have hquiet := h.quiet number hle (by omega)
  rw [Chain.Justified, (chain.parent number).justified_iff] at hquiet
  simpa using hquiet

theorem continues_range {origin : Origin} {changed : Bool}
    (hgenesis : chain.genesis.parentNumber < origin.parentStart)
    (h : chain.IsRange origin first stop) :
    Continues chain first first stop
      (chain.rangeReq origin first stop changed) where
  genesis := Nat.lt_of_lt_of_le hgenesis h.start_le
  first_le := Nat.le_refl first
  le_stop := h.ordered
  justified := h.closes
  headers := (range_headers h).symm
  authoritySet := fun authoritySet hcarried => by
    cases changed with
    | false => cases hcarried
    | true => exact hcarried

theorem continues_blob {origin : Origin}
    (hgenesis : chain.genesis.parentNumber < origin.parentStart)
    (hstart : origin.parentStart ≤ number) (hstop : number ≤ stop)
    (hjustified : chain.Justified stop) :
    Continues chain number origin.parentStart stop
      (chain.blobReq origin stop) where
  genesis := hgenesis
  first_le := hstart
  le_stop := hstop
  justified := hjustified
  headers := blobRelaychainHeaders_eq _
  authoritySet := fun _ hcarried => hcarried

theorem keepLastJustification_headers (headers : List HeaderToSync) :
    (keepLastJustification headers).map (·.header) =
      headers.map (·.header) := by
  induction headers with
  | nil => rfl
  | cons header rest ih =>
      cases rest with
      | nil => rfl
      | cons next rest =>
          rw [keepLastJustification, List.map_cons, ih]
          rfl

namespace Continues

theorem ordered (h : Continues chain number first stop request) :
    first ≤ stop :=
  Nat.le_trans h.first_le h.le_stop

theorem relay (h : Continues chain number first stop request) :
    request.relaychainHeaders.map (·.header) =
      (chain.parents first (stop + 1)).map (·.header) := by
  rw [h.headers, keepLastJustification_headers, List.map_map]
  exact List.map_congr_left fun block _ => block.sync_header

end Continues

theorem Navigates.mono (h : Navigates chain db number rangeMeta)
    (hkept : WriteOnce db written) :
    Navigates chain written number rangeMeta := by
  intro paraHeaderSyncNumber
  obtain ⟨request, first, stop, hstored, hcontinues⟩ := h paraHeaderSyncNumber
  exact ⟨request, first, stop, hkept _ request hstored, hcontinues⟩

namespace BuffersOk

theorem writeOnce (h : BuffersOk chain db)
    (hwindows : WindowsOk chain db.window count)
    (hwrites : Writes chain db count written) : WriteOnce db written := by
  intro key request hstored
  cases hwrites with
  | other _ ranges requests marks blobs windows =>
      cases key with
      | dry key =>
          rw [← hstored]
          exact congrFun requests key
      | blob key =>
          rw [← hstored]
          exact congrFun blobs key
  | range window first stop changed stored isRange unmarked =>
      cases key with
      | dry key =>
          have hne : key ≠ chain.rangeKey window.origin first stop := by
            rintro rfl
            rw [h.marked _ request hstored] at unmarked
            contradiction
          simpa [WindowDb.headerBuffer, Chain.writeRange, hne] using hstored
      | blob key => exact hstored
  | blob window stop stored start_le grows =>
      cases key with
      | dry key => exact hstored
      | blob key =>
          by_cases heq : key = chain.blobKey window.origin stop
          · obtain ⟨id, other, otherStop, hother, hkey, hrequest⟩ :=
              h.blobs key request hstored
            have hstart : other.parentStartBlock = window.parentStartBlock :=
              congrArg RangeKey.parentStartBlock (hkey.symm.trans heq)
            cases hwindows.start_inj hother stored hstart
            rw [hkey] at heq
            rw [hrequest, hkey, blobKey_inj heq]
            simp [WindowDb.headerBuffer, Chain.writeBlob]
          · simpa [WindowDb.headerBuffer, Chain.writeBlob, heq] using hstored

theorem navigates_writeRange {window : Window} {changed : Bool}
    (h : BuffersOk chain db)
    (hgenesis : chain.genesis.parentNumber < window.parentStartBlock)
    (hrange : chain.IsRange window.origin first stop)
    (hkept : WriteOnce db (chain.writeRange window.origin db first stop changed))
    (hmeta : (chain.writeRange window.origin db first stop
      changed).rangeByParentBlock number = some rangeMeta) :
    Navigates chain (chain.writeRange window.origin db first stop changed)
      number rangeMeta := by
  rcases update_some_cases hmeta with ⟨rfl, hnew⟩ | ⟨-, hold⟩
  · cases hnew
    intro paraHeaderSyncNumber
    refine ⟨chain.rangeReq window.origin number stop changed, number, stop, ?_,
      continues_range hgenesis hrange⟩
    have hkey : (chain.rangeMeta window.origin number stop).bufferKey
        paraHeaderSyncNumber =
          .dry (chain.rangeKey window.origin number stop) := by
      unfold RangeMeta.bufferKey
      split <;> rfl
    rw [hkey]
    exact Function.update_self ..
  · exact (h.navigates number rangeMeta hold).mono hkept

theorem navigates_writeBlob {window : Window} (h : BuffersOk chain db)
    (hgenesis : chain.genesis.parentNumber < window.parentStartBlock)
    (hjustified : chain.Justified stop)
    (hkept : WriteOnce db (chain.writeBlob window.origin db stop))
    (hmeta : (chain.writeBlob window.origin db stop).rangeByParentBlock number =
      some rangeMeta) :
    Navigates chain (chain.writeBlob window.origin db stop) number
      rangeMeta := by
  obtain ⟨old, hold, rfl | ⟨⟨hstart, hstop⟩, rfl⟩⟩ := writeBlob_record hmeta
  · exact (h.navigates number rangeMeta hold).mono hkept
  · intro paraHeaderSyncNumber
    by_cases hdry : paraHeaderSyncNumber = 1
    · subst hdry
      exact (h.navigates number old hold).mono hkept 1
    · refine ⟨chain.blobReq window.origin stop, window.parentStartBlock, stop,
        ?_, continues_blob hgenesis hstart hstop hjustified⟩
      rw [RangeMeta.bufferKey, if_neg hdry]
      exact Function.update_self ..

/-- Every write of the loop keeps the buffers and what the records name. -/
theorem step (h : BuffersOk chain db) (hgrandpa : chain.Grandpa)
    (hwindows : WindowsOk chain db.window count)
    (hwrites : Writes chain db count written) : BuffersOk chain written := by
  have hkept := h.writeOnce hwindows hwrites
  have hblobs : ∀ key request, db.blobRange key = some request →
      ∃ id window stop, written.window id = some window ∧
        key = chain.blobKey window.origin stop ∧
        request = chain.blobReq window.origin stop := by
    intro key request hstored
    obtain ⟨id, window, stop, hwindow, hkey, hrequest⟩ :=
      h.blobs key request hstored
    obtain ⟨after, hafter, horigin⟩ := hwrites.window_origin hwindow
    exact ⟨id, after, stop, hafter, by rw [horigin, hkey],
      by rw [horigin, hrequest]⟩
  cases hwrites with
  | other _ ranges requests marks blobs windows =>
      constructor
      · intro key request hstored
        rw [requests] at hstored
        rw [marks]
        exact h.marked key request hstored
      · rw [blobs]
        exact hblobs
      · intro number rangeMeta hmeta
        rw [ranges] at hmeta
        exact (h.navigates number rangeMeta hmeta).mono hkept
  | range window first stop changed stored isRange unmarked =>
      constructor
      · intro key request hstored
        rcases update_some_cases hstored with ⟨rfl, -⟩ | ⟨hne, hold⟩
        · exact Function.update_self ..
        · exact (Function.update_of_ne hne ..).trans (h.marked key request hold)
      · exact hblobs
      · intro number rangeMeta hmeta
        exact h.navigates_writeRange (hwindows.genesis_lt stored) isRange hkept
          hmeta
  | blob window stop stored start_le grows =>
      have hgenesis := hwindows.genesis_lt stored
      constructor
      · exact h.marked
      · intro key request hstored
        rcases update_some_cases hstored with ⟨rfl, hnew⟩ | ⟨-, hold⟩
        · cases hnew
          exact ⟨count, window, stop, stored, rfl, rfl⟩
        · exact hblobs key request hold
      · intro number rangeMeta hmeta
        exact h.navigates_writeBlob hgenesis
          (hgrandpa stop (by omega) grows) hkept hmeta

end BuffersOk

theorem buffersOk_empty (chain : Chain) : BuffersOk chain .empty where
  marked := fun _ _ hstored => by cases hstored
  blobs := fun _ _ hstored => by cases hstored
  navigates := fun _ _ hstored => by cases hstored

theorem WriteOnce.trans {middle : WindowDb} (first : WriteOnce db middle)
    (second : WriteOnce middle written) : WriteOnce db written :=
  fun key request hstored => second key request (first key request hstored)

def Buffered (chain : Chain) (state : WalkState) : Prop :=
  BuffersOk chain state.db ∧ ∃ count, PlaceOk chain count state.db state.proc

theorem Buffered.step {event : WalkEvent} {after : WalkState}
    (hgrandpa : chain.Grandpa) (h : Buffered chain state)
    (taken : (walkMachine chain).step state event = some after) :
    Buffered chain after ∧ WriteOnce state.db after.db := by
  obtain ⟨hbuffers, count, hplace⟩ := h
  cases event with
  | proceed =>
      cases Option.some.inj taken
      have hwrites := walkStep_writes hplace
      obtain ⟨next, hsteps⟩ := walkStep_steps hplace
      exact ⟨⟨hbuffers.step hgrandpa hplace.windows hwrites, next,
        hsteps.place⟩, hbuffers.writeOnce hplace.windows hwrites⟩
  | crash =>
      cases Option.some.inj taken
      exact ⟨⟨hbuffers, count, placeOk_restart hplace⟩, fun _ _ hstored => hstored⟩

theorem buffered_reachable (hgrandpa : chain.Grandpa)
    (h : (walkMachine chain).Reachable state) : Buffered chain state := by
  refine Machine.Preserves.reaches ?_ ?_ h
  · exact fun _ _ _ _ hbefore taken => (hbefore.step hgrandpa taken).1
  · exact ⟨buffersOk_empty chain, 0, placeOk_empty chain⟩

theorem Buffered.leads {after : WalkState} (hgrandpa : chain.Grandpa)
    (h : Buffered chain state)
    (hleads : (walkMachine chain).Leads Machine.anyEvent state after) :
    Buffered chain after ∧ WriteOnce state.db after.db := by
  induction hleads with
  | refl => exact ⟨h, fun _ _ hstored => hstored⟩
  | tail _ next ih =>
      obtain ⟨event, -, taken⟩ := next
      obtain ⟨hnext, hkept⟩ := ih.1.step hgrandpa taken
      exact ⟨hnext, ih.2.trans hkept⟩

/-- In every run of the window loop, crashes included, a header buffer is never
rewritten, and a record that was read at any time still names a buffer that goes
on from its block to a later justified one. -/
theorem stale_records_navigate (chain : Chain) (hgrandpa : chain.Grandpa)
    (read later : WalkState) (hread : (walkMachine chain).Reachable read)
    (hleads : (walkMachine chain).Leads Machine.anyEvent read later) :
    WriteOnce read.db later.db ∧
      ∀ number rangeMeta, read.db.rangeByParentBlock number = some rangeMeta →
        Navigates chain later.db number rangeMeta := by
  have hbefore := buffered_reachable hgrandpa hread
  obtain ⟨-, hkept⟩ := hbefore.leads hgrandpa hleads
  exact ⟨hkept, fun number rangeMeta hmeta =>
    (hbefore.1.navigates number rangeMeta hmeta).mono hkept⟩

/-- The record of block 1 is read before its window closes. -/
theorem stale_records_navigate_open :
    let machine := walkMachine (Chain.evenSets fun number => number)
    ∃ rangeMeta,
      (machine.ended (List.replicate 2 .proceed)).db.rangeByParentBlock 1 =
          some rangeMeta ∧
        rangeMeta.blobSyncHeaderReqKey = none ∧
        Navigates (Chain.evenSets fun number => number)
          (machine.ended (List.replicate 9 .proceed)).db 1 rangeMeta := by
  intro machine
  have hleads : machine.Leads Machine.anyEvent
      (machine.ended (List.replicate 2 .proceed))
      (machine.ended (List.replicate 9 .proceed)) :=
    @Machine.leads_of_run _ _ _ _ _ _ (List.replicate 7 .proceed)
      (fun _ _ _ => True.intro) rfl
  refine ⟨_, rfl, rfl, ?_⟩
  exact (stale_records_navigate _ (evenSets_grandpa _) _ _
    (Machine.reachable_ended rfl) hleads).2 1 _ rfl

end RuntimeBridge.DataProvider
