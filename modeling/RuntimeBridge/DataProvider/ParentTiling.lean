import RuntimeBridge.DataProvider.WalkInvariant
import RuntimeBridge.Library.Tiling

/-! The finished windows and the dry ranges inside them partition the relay
chain, and the records lead a worker from one stored key to the next. -/

namespace RuntimeBridge.DataProvider

open Library

def Window.interval (window : Window) : Nat × Nat :=
  (window.parentStartBlock, window.stop)

def RangeMeta.interval (rangeMeta : RangeMeta) : Nat × Nat :=
  (rangeMeta.parentStartBlock, rangeMeta.parentStopBlock)

structure WindowDb.Finished (db : WindowDb) (count : Nat) : Prop where
  stored : ∀ id, id < count → (db.window id).isSome
  finished : ∀ id window, db.window id = some window →
    (window.isFinished = true ↔ id < count)

/-- `getHeaderBlob`: the record of the block and the buffer it names. -/
def WindowDb.getHeaderBlob (db : WindowDb) (blockNumber : Nat)
    (paraHeaderSyncNumber : Int) :
    Option (RangeMeta × Option SyncCombinedHeadersReq) := do
  let rangeMeta ← db.rangeByParentBlock blockNumber
  let buffer :=
    if paraHeaderSyncNumber = 1 then
      db.drySyncHeader rangeMeta.drySyncHeaderReqKey
    else
      match rangeMeta.blobSyncHeaderReqKey with
      | some key => db.blobRange key
      | none => db.drySyncHeader rangeMeta.drySyncHeaderReqKey
  return (rangeMeta, buffer)

def RangeMeta.servedStop (rangeMeta : RangeMeta) (paraHeaderSyncNumber : Int) :
    Int :=
  if paraHeaderSyncNumber = 1 ∨ rangeMeta.blobSyncHeaderReqKey = none then
    rangeMeta.parentStopBlock
  else
    rangeMeta.blobParentStopBlock.getD (-1)

/-- A worker at `number` takes a blob and moves behind its last header. -/
def WindowDb.Hop (db : WindowDb) (number next : Nat) : Prop :=
  ∃ paraHeaderSyncNumber rangeMeta buffer,
    db.getHeaderBlob number paraHeaderSyncNumber = some (rangeMeta, buffer) ∧
      (next : Int) = rangeMeta.servedStop paraHeaderSyncNumber + 1

structure ParentTiling (chain : Chain) (db : WindowDb) (count : Nat) :
    Prop where
  finished : db.Finished count
  stop_known : ∀ id window, id < count → db.window id = some window →
    window.parentStopBlock = window.stop
  windows : Tiles (chain.genesis.parentNumber + 1)
    (((List.range count).filterMap db.window).map Window.interval)
    (chain.past db count)
  windowRanges : ∀ id window, id < count → db.window id = some window →
    Tiles window.parentStartBlock
      ((entries db.rangeByParentBlock window.parentStartBlock
        (window.stop + 1)).map RangeMeta.interval) (window.stop + 1)
  ranges : Tiles (chain.genesis.parentNumber + 1)
    ((entries db.rangeByParentBlock (chain.genesis.parentNumber + 1)
      (chain.past db count)).map RangeMeta.interval) (chain.past db count)
  record : ∀ first rangeMeta, db.rangeByParentBlock first = some rangeMeta →
    chain.genesis.parentNumber < first ∧ rangeMeta.parentStartBlock = first ∧
      rangeMeta.parentRange =
        List.range' first (rangeMeta.parentStopBlock + 1 - first)
  next : ∀ first rangeMeta, db.rangeByParentBlock first = some rangeMeta →
    rangeMeta.parentStopBlock + 1 < chain.past db count →
    (db.rangeByParentBlock (rangeMeta.parentStopBlock + 1)).isSome
  blobNext : ∀ first rangeMeta stop,
    db.rangeByParentBlock first = some rangeMeta →
    rangeMeta.blobParentStopBlock = some stop →
    stop + 1 < chain.past db count →
    0 ≤ stop ∧ (db.rangeByParentBlock (stop.toNat + 1)).isSome
  served : ∀ first, first < chain.past db count →
    (db.rangeByParentBlock first).isSome → ∀ paraHeaderSyncNumber,
    ∃ rangeMeta request stop,
      db.getHeaderBlob first paraHeaderSyncNumber =
          some (rangeMeta, some request) ∧
        rangeMeta.servedStop paraHeaderSyncNumber = (stop : Nat) ∧
        first ≤ stop ∧
        request.relaychainHeaders.getLast? =
          some (chain.parent stop).syncHeaderData
  navigable : ∀ number,
    Relation.ReflTransGen db.Hop (chain.genesis.parentNumber + 1) number →
    chain.past db count ≤ number ∨ (db.rangeByParentBlock number).isSome

/-- A relay block that opens a dry range. -/
def Chain.Cut (chain : Chain) (number : Nat) : Prop :=
  number = chain.genesis.parentNumber + 1 ∨ chain.Justified (number - 1)

variable {chain : Chain} {db : WindowDb} {count id first last number : Nat}
  {window : Window} {rangeMeta : RangeMeta}

namespace RangeOk

variable {stop : Nat} {origin : Origin}

theorem parentStop (h : RangeOk chain db id origin first stop rangeMeta) :
    rangeMeta.parentStopBlock = stop :=
  (congrArg RangeMeta.parentStopBlock h.content).trans
    (Chain.rangeMeta_stop _ _)

theorem parentStart (h : RangeOk chain db id origin first stop rangeMeta) :
    rangeMeta.parentStartBlock = first :=
  congrArg RangeMeta.parentStartBlock h.content

theorem requestKey (h : RangeOk chain db id origin first stop rangeMeta) :
    rangeMeta.drySyncHeaderReqKey = chain.rangeKey origin first stop :=
  congrArg RangeMeta.drySyncHeaderReqKey h.content

theorem servedStop_ge (h : RangeOk chain db id origin first stop rangeMeta)
    (paraHeaderSyncNumber : Int) :
    (first : Int) ≤ rangeMeta.servedStop paraHeaderSyncNumber := by
  rw [RangeMeta.servedStop]
  split
  · rw [h.parentStop]
    exact Int.ofNat_le.mpr h.range.ordered
  · next hpointed =>
      have hsome : rangeMeta.blobParentStopBlock.isSome := by
        rw [← h.pointed, Option.isSome_iff_ne_none]
        exact fun hnone => hpointed (Or.inr hnone)
      obtain ⟨number, hnumber⟩ := Option.isSome_iff_exists.mp hsome
      rw [hnumber]
      exact h.blob number hnumber

end RangeOk

namespace DbOk

theorem finished (h : DbOk chain db count) : db.Finished count where
  stored := fun id hlt => by
    obtain ⟨window, hstored, -⟩ := h.windows.finished id hlt
    simp [hstored]
  finished := fun _ _ stored => h.windows.isFinished_iff stored

theorem stop_lt_past (h : DbOk chain db count) (hlt : id < count)
    (stored : db.window id = some window) :
    window.stop < chain.past db count := by
  have := h.windows.past_mono (Nat.succ_le_of_lt hlt) (Nat.le_refl count)
  rw [past_succ stored] at this
  omega

theorem window_at (h : DbOk chain db count)
    (hgenesis : chain.genesis.parentNumber < number) {bound : Nat}
    (hbound : bound ≤ count) (hlt : number < chain.past db bound) :
    ∃ id window, id < bound ∧ db.window id = some window ∧
      window.parentStartBlock ≤ number ∧ number ≤ window.stop := by
  induction bound with
  | zero =>
      simp only [Chain.past] at hlt
      omega
  | succ bound ih =>
      obtain ⟨window, hstored, -⟩ := h.windows.finished bound hbound
      rcases Nat.lt_or_ge number (chain.past db bound) with hbefore | hfrom
      · obtain ⟨id, other, hid, hother, hrange⟩ := ih (by omega) hbefore
        exact ⟨id, other, by omega, hother, hrange⟩
      · rw [past_succ hstored] at hlt
        rw [← h.windows.start_eq_past hstored] at hfrom
        exact ⟨bound, window, Nat.lt_succ_self _, hstored, hfrom, by omega⟩

theorem stop_justified (h : DbOk chain db count) (hlt : id < count)
    (stored : db.window id = some window) : chain.Justified window.stop := by
  obtain ⟨first, hrange, -⟩ := (h.sealed id window hlt stored).last
  exact hrange.closes

theorem cut_past (h : DbOk chain db count) (hle : id ≤ count) :
    chain.Cut (chain.past db id) := by
  cases id with
  | zero => exact Or.inl rfl
  | succ id =>
      obtain ⟨window, hstored, -⟩ := h.windows.finished id hle
      rw [past_succ hstored]
      exact Or.inr (h.stop_justified hle hstored)

theorem range_at (h : DbOk chain db count)
    (hgenesis : chain.genesis.parentNumber < number)
    (hlt : number < chain.past db count) (hcut : chain.Cut number) :
    ∃ id window stop rangeMeta, id < count ∧ db.window id = some window ∧
      db.rangeByParentBlock number = some rangeMeta ∧
      RangeOk chain db id window.origin number stop rangeMeta ∧
      stop ≤ window.stop := by
  obtain ⟨id, window, hid, hstored, hstart, hstop⟩ :=
    h.window_at hgenesis (Nat.le_refl count) hlt
  have hsealed := h.sealed id window hid hstored
  have hgenesisStart := h.windows.genesis_lt hstored
  have hbegins : number = window.origin.parentStart ∨
      chain.Justified (number - 1) := by
    rcases hcut with rfl | hjustified
    · apply Or.inl
      rw [origin_parentStart]
      omega
    · exact Or.inr hjustified
  obtain ⟨stop, hle, hrange⟩ := @Chain.exists_range chain window.origin number
    window.stop hstart hbegins hstop (h.stop_justified hid hstored)
  obtain ⟨rangeMeta, hmeta⟩ := Option.isSome_iff_exists.mp
    (hsealed.covered number stop hrange (Nat.lt_succ_of_le hle))
  obtain ⟨other, hok, -⟩ := h.range_of_window hstored hmeta hstart
    (fun _ => hstop)
  rw [← hrange.stop_unique hok.range] at hok
  exact ⟨id, window, stop, rangeMeta, hid, hstored, hmeta, hok, hle⟩

theorem range_skips (h : DbOk chain db count) {stop : Nat}
    (stored : db.window id = some window)
    (hok : RangeOk chain db id window.origin first stop rangeMeta)
    (hstop : stop ≤ window.stop) (hlt : first < number)
    (hle : number ≤ stop) : db.rangeByParentBlock number = none := by
  rw [← Option.not_isSome_iff_eq_none]
  intro hsome
  obtain ⟨other, hother⟩ := Option.isSome_iff_exists.mp hsome
  have hstart : window.parentStartBlock ≤ first := hok.range.start_le
  obtain ⟨otherStop, hinner, -⟩ := h.range_of_window stored hother (by omega)
    (fun _ => by omega)
  have := hok.range.begins_outside hinner.range hlt
  omega

/-- Induction along the stored ranges between two cuts. -/
theorem ranges_induction (h : DbOk chain db count)
    {motive : Nat → List RangeMeta → Prop}
    (hgenesis : chain.genesis.parentNumber < first)
    (hfirst : chain.Cut first) (hlast : chain.Cut last) (hle : first ≤ last)
    (hpast : last ≤ chain.past db count) (done : motive last [])
    (step : ∀ key id window stop rangeMeta rest, id < count →
      db.window id = some window →
      RangeOk chain db id window.origin key stop rangeMeta →
      stop ≤ window.stop → stop < last → motive (stop + 1) rest →
      motive key (rangeMeta :: rest)) :
    motive first (entries db.rangeByParentBlock first last) := by
  have hcuts : ∀ key, chain.Cut key ∧ chain.genesis.parentNumber < key →
      key < last → ∃ value, db.rangeByParentBlock key = some value ∧
        key ≤ value.parentStopBlock ∧ value.parentStopBlock < last ∧
        (chain.Cut (value.parentStopBlock + 1) ∧
          chain.genesis.parentNumber < value.parentStopBlock + 1) ∧
        (∀ other, key < other → other < value.parentStopBlock + 1 →
          db.rangeByParentBlock other = none) ∧
        ∀ rest, motive (value.parentStopBlock + 1) rest →
          motive key (value :: rest) := by
    intro key ⟨hcut, hkey⟩ hlt
    obtain ⟨id, window, stop, rangeMeta, hid, hstored, hmeta, hok, hstop⟩ :=
      h.range_at hkey (by omega) hcut
    have hordered := hok.range.ordered
    have hbefore : stop < last := by
      rcases hlast with hgenesisLast | hjustified
      · omega
      · by_contra hge
        exact hok.range.quiet (last - 1) (by omega) (by omega) hjustified
    refine ⟨rangeMeta, hmeta, ?_⟩
    rw [hok.parentStop]
    refine ⟨hordered, hbefore, ⟨Or.inr hok.range.closes, by omega⟩, ?_, ?_⟩
    · intro other hother hotherLt
      exact h.range_skips hstored hok hstop hother (by omega)
    · intro rest hrest
      exact step key id window stop rangeMeta rest hid hstored hok hstop hbefore
        hrest
  exact entries_induction done hcuts ⟨hfirst, hgenesis⟩ hle

theorem tiles_ranges (h : DbOk chain db count)
    (hgenesis : chain.genesis.parentNumber < first)
    (hfirst : chain.Cut first) (hlast : chain.Cut last) (hle : first ≤ last)
    (hpast : last ≤ chain.past db count) :
    Tiles first ((entries db.rangeByParentBlock first last).map
      RangeMeta.interval) last := by
  refine @ranges_induction chain db count first last h
    (fun key rest => Tiles key (rest.map RangeMeta.interval) last) hgenesis
    hfirst hlast hle hpast rfl ?_
  intro key id window stop rangeMeta rest _ _ hok _ _ hrest
  refine ⟨hok.parentStart, ?_, ?_⟩
  · simp only [RangeMeta.interval, hok.parentStart, hok.parentStop]
    exact hok.range.ordered
  · simp only [RangeMeta.interval, hok.parentStop]
    exact hrest

theorem tiles_windows (h : DbOk chain db count) (hle : id ≤ count) :
    Tiles (chain.genesis.parentNumber + 1)
      (((List.range id).filterMap db.window).map Window.interval)
      (chain.past db id) := by
  induction id with
  | zero => exact rfl
  | succ id ih =>
      obtain ⟨window, hstored, -, hclosed⟩ := h.windows.finished id hle
      have hlast : [id].filterMap db.window = [window] := by simp [hstored]
      rw [List.range_succ, List.filterMap_append, List.map_append, hlast]
      apply (ih (by omega)).append
      refine ⟨h.windows.start_eq_past hstored, hclosed.ordered, ?_⟩
      rw [past_succ hstored]
      exact rfl

theorem finished_of_lt (h : DbOk chain db count) (hlt : first < chain.past db count)
    (stored : db.window id = some window)
    (hstart : window.parentStartBlock ≤ first) : id < count := by
  refine Nat.lt_of_le_of_ne (h.windows.le_count stored) ?_
  rintro rfl
  rw [h.windows.start_eq_past stored] at hstart
  omega

theorem genesis_lt_first (h : DbOk chain db count)
    (hmeta : db.rangeByParentBlock first = some rangeMeta) :
    chain.genesis.parentNumber < first := by
  obtain ⟨id, window, stop, hstored, hok, -⟩ := h.ranges first rangeMeta hmeta
  have hstart : window.parentStartBlock ≤ first := hok.range.start_le
  have := h.windows.genesis_lt hstored
  omega

theorem stored_behind (h : DbOk chain db count)
    (hgenesis : chain.genesis.parentNumber < number)
    (hjustified : chain.Justified number)
    (hlt : number + 1 < chain.past db count) :
    (db.rangeByParentBlock (number + 1)).isSome := by
  obtain ⟨-, -, -, rangeMeta, -, -, hmeta, -⟩ :=
    h.range_at (Nat.lt_succ_of_lt hgenesis) hlt (Or.inr hjustified)
  simp [hmeta]

end DbOk

theorem blobRelaychainHeaders_getLast? (blocks : List ParentBlock) :
    (WindowDb.blobRelaychainHeaders blocks).getLast? =
      blocks.getLast?.map (·.syncHeaderData) := by
  induction blocks with
  | nil => rfl
  | cons block rest ih =>
      cases rest with
      | nil => rfl
      | cons next rest =>
          rw [WindowDb.blobRelaychainHeaders, List.getLast?_cons_cons, ← ih]
          cases hrest : WindowDb.blobRelaychainHeaders (next :: rest) with
          | nil =>
              cases rest <;> simp [WindowDb.blobRelaychainHeaders] at hrest
          | cons head tail => rw [List.getLast?_cons_cons]

namespace DbOk

/-- The buffer that `getHeaderBlob` names before `past` ends with the header of
a justified block. -/
theorem served (h : DbOk chain db count) (hlt : first < chain.past db count)
    (hmeta : db.rangeByParentBlock first = some rangeMeta)
    (paraHeaderSyncNumber : Int) :
    ∃ request stop,
      db.getHeaderBlob first paraHeaderSyncNumber =
          some (rangeMeta, some request) ∧
        rangeMeta.servedStop paraHeaderSyncNumber = (stop : Nat) ∧
        first ≤ stop ∧ chain.Justified stop ∧
        request.relaychainHeaders.getLast? =
          some (chain.parent stop).syncHeaderData := by
  obtain ⟨id, window, stop, hstored, hok, hbound⟩ :=
    h.ranges first rangeMeta hmeta
  have hid := h.finished_of_lt hlt hstored hok.range.start_le
  have hordered := hok.range.ordered
  have hwithin := hbound hid
  have hblob := (h.sealed id window hid hstored).blob
  have hpoints := hblob.points first rangeMeta hok.range.start_le (by omega)
    hmeta
  have hkey : rangeMeta.blobSyncHeaderReqKey =
      some (chain.blobKey window.origin window.stop) :=
    (congrArg RangeMeta.blobSyncHeaderReqKey hpoints).symm
  have hblobStop : rangeMeta.blobParentStopBlock = some (window.stop : Int) :=
    (congrArg RangeMeta.blobParentStopBlock hpoints).symm
  simp only [WindowDb.getHeaderBlob, RangeMeta.servedStop, hmeta, hkey,
    hblobStop, hok.requestKey, Option.bind_eq_bind, Option.bind_some,
    Option.pure_def, Option.getD_some]
  by_cases hdry : paraHeaderSyncNumber = 1
  · obtain ⟨changed, hrequest, -⟩ := hok.request
    refine ⟨_, stop, by rw [if_pos hdry, hrequest], ?_, hordered,
      hok.range.closes, ?_⟩
    · rw [if_pos (Or.inl hdry), hok.parentStop]
    · simp only [Chain.rangeReq, WindowDb.drySyncHeaderReq, List.getLast?_map,
        Chain.parents_getLast? hordered, Option.map_some]
  · refine ⟨_, window.stop, by rw [if_neg hdry, hblob.stored], ?_, by omega,
      h.stop_justified hid hstored, ?_⟩
    · rw [if_neg (by simp [hdry])]
    · have hclosed := (h.windows.closed hid hstored).ordered
      simp only [Chain.blobReq, WindowDb.blobSyncHeaderReq,
        blobRelaychainHeaders_getLast?, origin_parentStart,
        Chain.parents_getLast? hclosed, Option.map_some]

theorem hop (h : DbOk chain db count) {next : Nat} (hhop : db.Hop number next) :
    chain.past db count ≤ next ∨ (db.rangeByParentBlock next).isSome := by
  obtain ⟨paraHeaderSyncNumber, rangeMeta, buffer, hget, hnext⟩ := hhop
  cases hmeta : db.rangeByParentBlock number with
  | none => simp [WindowDb.getHeaderBlob, hmeta] at hget
  | some stored =>
      have hsame : stored = rangeMeta := by
        simp only [WindowDb.getHeaderBlob, hmeta, Option.bind_eq_bind,
          Option.bind_some, Option.pure_def, Option.some.injEq,
          Prod.mk.injEq] at hget
        exact hget.1
      subst hsame
      rcases Nat.lt_or_ge number (chain.past db count) with hlt | hge
      · obtain ⟨-, stop, -, hserved, hle, hjustified, -⟩ :=
          h.served hlt hmeta paraHeaderSyncNumber
        have hgenesis := h.genesis_lt_first hmeta
        have hnextStop : next = stop + 1 := by omega
        subst hnextStop
        rcases Nat.lt_or_ge (stop + 1) (chain.past db count) with hin | hout
        · exact Or.inr (h.stored_behind (by omega) hjustified hin)
        · exact Or.inl hout
      · obtain ⟨_, _, _, _, hok, -⟩ := h.ranges number stored hmeta
        have := hok.servedStop_ge paraHeaderSyncNumber
        exact Or.inl (by omega)

theorem navigable (h : DbOk chain db count)
    (hpath : Relation.ReflTransGen db.Hop (chain.genesis.parentNumber + 1)
      number) :
    chain.past db count ≤ number ∨ (db.rangeByParentBlock number).isSome := by
  cases hpath with
  | refl =>
      rcases Nat.lt_or_ge (chain.genesis.parentNumber + 1)
        (chain.past db count) with hlt | hge
      · obtain ⟨-, -, -, rangeMeta, -, -, hmeta, -⟩ :=
          h.range_at (Nat.lt_succ_self _) hlt (Or.inl rfl)
        exact Or.inr (by simp [hmeta])
      · exact Or.inl hge
  | tail _ hlast => exact h.hop hlast

theorem parentTiling (h : DbOk chain db count) :
    ParentTiling chain db count where
  finished := h.finished
  stop_known := fun _ _ hlt stored => (h.windows.closed hlt stored).parentStop
  windows := h.tiles_windows (Nat.le_refl count)
  windowRanges := fun id window hlt stored => by
    have hstart := h.windows.start_eq_past stored
    have hordered := (h.windows.closed hlt stored).ordered
    have hpast := h.stop_lt_past hlt stored
    refine h.tiles_ranges (h.windows.genesis_lt stored) ?_
      (Or.inr (h.stop_justified hlt stored)) (by omega) hpast
    rw [hstart]
    exact h.cut_past (Nat.le_of_lt hlt)
  ranges := h.tiles_ranges (Nat.lt_succ_self _) (Or.inl rfl)
    (h.cut_past (Nat.le_refl count))
    (h.windows.past_mono (Nat.zero_le count) (Nat.le_refl count)) (Nat.le_refl _)
  record := fun first rangeMeta hmeta => by
    obtain ⟨id, window, stop, hstored, hok, -⟩ := h.ranges first rangeMeta hmeta
    have hrange : rangeMeta.parentRange = List.range' first (stop + 1 - first) :=
      (congrArg RangeMeta.parentRange hok.content).trans
        (Chain.rangeMeta_parentRange first stop)
    refine ⟨h.genesis_lt_first hmeta, hok.parentStart, ?_⟩
    rw [hrange, hok.parentStop]
  next := fun first rangeMeta hmeta hlt => by
    obtain ⟨id, window, stop, hstored, hok, -⟩ := h.ranges first rangeMeta hmeta
    have hgenesis := h.genesis_lt_first hmeta
    have hordered := hok.range.ordered
    rw [hok.parentStop] at hlt ⊢
    exact h.stored_behind (by omega) hok.range.closes hlt
  blobNext := fun first rangeMeta number hmeta hblob hlt => by
    obtain ⟨id, window, stop, hstored, hok, hbound⟩ :=
      h.ranges first rangeMeta hmeta
    have hfirst := hok.blob number hblob
    have hgenesis := h.genesis_lt_first hmeta
    have hordered := hok.range.ordered
    have hid := h.finished_of_lt (by omega) hstored hok.range.start_le
    have hwithin := hbound hid
    have hpoints := (h.sealed id window hid hstored).blob.points first
      rangeMeta hok.range.start_le (by omega) hmeta
    have hstop : some (window.stop : Int) = some number :=
      (congrArg RangeMeta.blobParentStopBlock hpoints).trans hblob
    cases hstop
    refine ⟨by omega, ?_⟩
    rw [Int.toNat_natCast]
    exact h.stored_behind (by omega) (h.stop_justified hid hstored) (by omega)
  served := fun first hlt hsome paraHeaderSyncNumber => by
    obtain ⟨rangeMeta, hmeta⟩ := Option.isSome_iff_exists.mp hsome
    obtain ⟨request, stop, hget, hserved, hle, -, hlast⟩ :=
      h.served hlt hmeta paraHeaderSyncNumber
    exact ⟨rangeMeta, request, stop, hget, hserved, hle, hlast⟩
  navigable := fun _ hpath => h.navigable hpath

end DbOk

/-- In every run of the window loop, crashes included, the stored windows and
ranges partition the relay chain and can be walked. -/
theorem parentTiling_reachable (chain : Chain) (hgrandpa : chain.Grandpa)
    (state : WalkState) (h : (walkMachine chain).Reachable state) :
    ∃ count, ParentTiling chain state.db count := by
  obtain ⟨count, hok, -⟩ := stateOk_reachable hgrandpa h
  exact ⟨count, hok.parentTiling⟩

/-- Every block is justified, and every even one changes the authority set. -/
def Chain.evenSets (reported : Nat → Nat) : Chain :=
  Chain.fetched { paraNumber := 0, parentNumber := 0 } fun number =>
    { header := [UInt8.ofNat number]
      justifications := some [(FRNK, [UInt8.ofNat number])]
      setId := number / 2
      paraNumber := reported number
      paraProof := [[UInt8.ofNat number]]
      authoritySet := [UInt8.ofNat (number / 2)] }

theorem evenSets_grandpa (reported : Nat → Nat) :
    (Chain.evenSets reported).Grandpa :=
  fun _ _ _ => rfl

def interruptedRun : List WalkEvent :=
  List.replicate 8 .proceed ++ .crash :: List.replicate 9 .proceed

theorem parentTiling_interrupted :
    ∃ count, ParentTiling (Chain.evenSets fun number => number)
      ((walkMachine (Chain.evenSets fun number => number)).ended
        interruptedRun).db count :=
  parentTiling_reachable _ (evenSets_grandpa _) _
    (Machine.reachable_ended rfl)

end RuntimeBridge.DataProvider
