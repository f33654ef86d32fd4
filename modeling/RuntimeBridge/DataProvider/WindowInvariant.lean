import RuntimeBridge.DataProvider.RangeRecord

/-! The invariant of the window database, and what each write does to it.
Windows `0, ..., count - 1` are finished; window `count`, if it is stored, is
the one being walked. -/

namespace RuntimeBridge.DataProvider

def Window.stop (window : Window) : Nat :=
  window.parentStopBlock.toNat

def RangeMeta.withoutBlob (rangeMeta : RangeMeta) : RangeMeta :=
  { rangeMeta with
    blobParentStopBlock := none
    blobParaStopBlock := none
    blobSyncHeaderReqKey := none }

def Window.followingOrigin (previous : Window) : Origin where
  parentStart := (previous.parentStopBlock + 1).toNat
  paraStart :=
    (if (previous.paraStartBlock : Int) = previous.paraStopBlock then
      previous.paraStopBlock
    else
      previous.paraStopBlock + 1).toNat

def Chain.firstOrigin (chain : Chain) : Origin where
  parentStart := chain.genesis.parentNumber + 1
  paraStart := chain.genesis.paraNumber + 1

def Chain.SameSet (chain : Chain) (first last : Nat) : Prop :=
  ∀ number, first < number → number < last → ¬ chain.SetIdGrows number

structure ClosedAt (chain : Chain) (window : Window) : Prop where
  parentStop : window.parentStopBlock = window.stop
  paraStop :
    window.paraStopBlock = chain.closingPara window.origin window.stop
  ordered : window.parentStartBlock ≤ window.stop
  grows : chain.SetIdGrows window.stop
  sameSet : chain.SameSet window.parentStartBlock window.stop
  first_block : window.stop = window.parentStartBlock → window.windowId = 0

structure WindowsOk (chain : Chain) (windows : Nat → Option Window)
    (count : Nat) : Prop where
  finished : ∀ id, id < count →
    ∃ window, windows id = some window ∧ window.isFinished = true ∧
      ClosedAt chain window
  current : ∀ window, windows count = some window → window.isFinished = false
  beyond : ∀ id, count < id → windows id = none
  windowId : ∀ id window, windows id = some window → window.windowId = id
  first : ∀ window, windows 0 = some window →
    window.origin = chain.firstOrigin
  follows : ∀ id window previous, windows (id + 1) = some window →
    windows id = some previous → window.origin = previous.followingOrigin

/-- The first relay block past the last finished window. -/
def Chain.past (chain : Chain) (db : WindowDb) : Nat → Nat
  | 0 => chain.genesis.parentNumber + 1
  | count + 1 =>
      match db.window count with
      | some window => window.stop + 1
      | none => chain.genesis.parentNumber + 1

structure RangeOk (chain : Chain) (db : WindowDb) (id : Nat) (origin : Origin)
    (first stop : Nat) (rangeMeta : RangeMeta) : Prop where
  range : chain.IsRange origin first stop
  content : rangeMeta.withoutBlob = chain.rangeMeta origin first stop
  blob : ∀ number, rangeMeta.blobParentStopBlock = some number →
    (first : Int) ≤ number
  pointed : rangeMeta.blobSyncHeaderReqKey.isSome =
    rangeMeta.blobParentStopBlock.isSome
  ownBlob : ∀ key, rangeMeta.blobSyncHeaderReqKey = some key →
    key.parentStartBlock = origin.parentStart
  request : ∃ changed,
    db.drySyncHeader (chain.rangeKey origin first stop) =
      some (chain.rangeReq origin first stop changed) ∧
    (origin.parentStart < stop →
      changed = decide (chain.SetIdGrows stop)) ∧
    (stop = origin.parentStart → id ≠ 0 → changed = false)
  sameSet : chain.SameSet origin.parentStart stop

/-- Every range of the window up to `last` is stored. -/
def Covered (chain : Chain) (db : WindowDb) (origin : Origin) (last : Nat) :
    Prop :=
  ∀ first stop, chain.IsRange origin first stop → stop < last →
    (db.rangeByParentBlock first).isSome

structure BlobOk (chain : Chain) (db : WindowDb) (origin : Origin)
    (stop : Nat) : Prop where
  stored : db.blobRange (chain.blobKey origin stop) =
    some (chain.blobReq origin stop)
  points : ∀ first rangeMeta, origin.parentStart ≤ first → first ≤ stop →
    db.rangeByParentBlock first = some rangeMeta →
    WindowDb.pointToBlob (chain.blobKey origin stop) rangeMeta = rangeMeta

structure Sealed (chain : Chain) (db : WindowDb) (origin : Origin)
    (stop : Nat) : Prop where
  covered : Covered chain db origin (stop + 1)
  blob : BlobOk chain db origin stop
  last : ∃ first, chain.IsRange origin first stop ∧
    db.drySyncHeader (chain.rangeKey origin first stop) =
      some (chain.rangeReq origin first stop true)

structure DbOk (chain : Chain) (db : WindowDb) (count : Nat) : Prop where
  windows : WindowsOk chain db.window count
  ranges : ∀ first rangeMeta, db.rangeByParentBlock first = some rangeMeta →
    ∃ id window stop, db.window id = some window ∧
      RangeOk chain db id window.origin first stop rangeMeta ∧
      (id < count → stop ≤ window.stop)
  written : ∀ key, db.rangeWritten key = true ↔
    ∃ rangeMeta, db.rangeByParentBlock key.parentStartBlock = some rangeMeta ∧
      rangeMeta.drySyncHeaderReqKey = key
  sealed : ∀ id window, id < count → db.window id = some window →
    Sealed chain db window.origin window.stop
  committed : ∀ window stop, db.window count = some window →
    window.parentStartBlock < stop →
    db.blobRangeCommitted (chain.blobKey window.origin stop) = true →
    chain.SetIdGrows stop ∧ chain.SameSet window.parentStartBlock stop ∧
      Covered chain db window.origin (stop + 1) ∧
      BlobOk chain db window.origin stop
  owner : ∀ key, db.blobRangeCommitted key = true →
    ∃ id window, db.window id = some window ∧
      key.parentStartBlock = window.parentStartBlock

variable {chain : Chain} {db other : WindowDb} {count id : Nat}
  {window previous : Window} {origin : Origin} {first stop last : Nat}
  {rangeMeta : RangeMeta}

@[simp] theorem origin_parentStart (window : Window) :
    window.origin.parentStart = window.parentStartBlock := rfl

@[simp] theorem origin_paraStart (window : Window) :
    window.origin.paraStart = window.paraStartBlock := rfl

@[simp] theorem pointToBlob_twice (key : RangeKey) (rangeMeta : RangeMeta) :
    WindowDb.pointToBlob key (WindowDb.pointToBlob key rangeMeta) =
      WindowDb.pointToBlob key rangeMeta := rfl

theorem ClosedAt.following_start (h : ClosedAt chain window) :
    window.followingOrigin.parentStart = window.stop + 1 := by
  simp only [Window.followingOrigin, h.parentStop]
  omega

theorem past_succ (stored : db.window id = some window) :
    chain.past db (id + 1) = window.stop + 1 := by
  simp [Chain.past, stored]

theorem windowsOk_empty (chain : Chain) :
    WindowsOk chain WindowDb.empty.window 0 where
  finished := fun _ hlt => absurd hlt (Nat.not_lt_zero _)
  current := fun _ stored => by cases stored
  beyond := fun _ _ => rfl
  windowId := fun _ _ stored => by cases stored
  first := fun _ stored => by cases stored
  follows := fun _ _ _ stored _ => by cases stored

namespace WindowsOk

variable {windows : Nat → Option Window}

theorem le_count (h : WindowsOk chain windows count)
    (stored : windows id = some window) : id ≤ count := by
  by_contra hlt
  rw [h.beyond id (by omega)] at stored
  contradiction

/-- The windows before the current one are the finished ones. -/
theorem isFinished_iff (h : WindowsOk chain windows count)
    (stored : windows id = some window) :
    window.isFinished = true ↔ id < count := by
  constructor
  · intro hfinished
    apply Nat.lt_of_le_of_ne (h.le_count stored)
    rintro rfl
    rw [h.current window stored] at hfinished
    contradiction
  · intro hlt
    obtain ⟨closed, hclosed, hfinished, -⟩ := h.finished id hlt
    cases Option.some.inj (stored.symm.trans hclosed)
    exact hfinished

theorem eq_count_of_open (h : WindowsOk chain windows count)
    (stored : windows id = some window) (hopen : window.isFinished = false) :
    id = count := by
  apply Nat.le_antisymm (h.le_count stored)
  apply Nat.le_of_not_lt
  rw [← h.isFinished_iff stored, hopen]
  exact nofun

theorem eq_count_of_absent (h : WindowsOk chain windows count)
    (hle : id ≤ count) (absent : windows id = none) : id = count := by
  refine Nat.le_antisymm hle (Nat.le_of_not_lt fun hlt => ?_)
  obtain ⟨closed, hclosed, -⟩ := h.finished id hlt
  rw [absent] at hclosed
  contradiction

theorem closed (h : WindowsOk chain windows count) (hid : id < count)
    (stored : windows id = some window) : ClosedAt chain window := by
  obtain ⟨closed, hstored, -, hclosed⟩ := h.finished id hid
  cases Option.some.inj (hstored.symm.trans stored)
  exact hclosed

theorem start_of_succ (h : WindowsOk chain windows count) (hid : id < count)
    (stored : windows (id + 1) = some window)
    (hprevious : windows id = some previous) :
    window.parentStartBlock = previous.stop + 1 := by
  rw [← origin_parentStart, h.follows id window previous stored hprevious,
    (h.closed hid hprevious).following_start]

theorem stop_lt_start (h : WindowsOk chain windows count) {left right : Nat}
    {earlier later : Window} (hlt : left < right)
    (hleft : windows left = some earlier)
    (hright : windows right = some later) :
    earlier.stop < later.parentStartBlock := by
  induction right generalizing later with
  | zero => omega
  | succ right ih =>
      have hcount := h.le_count hright
      obtain ⟨between, hbetween, -, hclosed⟩ := h.finished right (by omega)
      have hstart := h.start_of_succ (by omega) hright hbetween
      rcases Nat.lt_succ_iff_lt_or_eq.mp hlt with hlt | rfl
      · have := ih hlt hbetween
        have := hclosed.ordered
        omega
      · cases Option.some.inj (hleft.symm.trans hbetween)
        omega

theorem genesis_lt (h : WindowsOk chain windows count)
    (stored : windows id = some window) :
    chain.genesis.parentNumber < window.parentStartBlock := by
  cases id with
  | zero =>
      have := congrArg Origin.parentStart (h.first window stored)
      simp only [origin_parentStart, Chain.firstOrigin] at this
      omega
  | succ id =>
      have hcount := h.le_count stored
      obtain ⟨root, hroot, -, hclosed⟩ := h.finished 0 (by omega)
      have := h.stop_lt_start (Nat.succ_pos id) hroot stored
      have := hclosed.ordered
      have := congrArg Origin.parentStart (h.first root hroot)
      simp only [origin_parentStart, Chain.firstOrigin] at this
      omega

theorem start_eq_past (h : WindowsOk chain db.window count)
    (stored : db.window id = some window) :
    window.parentStartBlock = chain.past db id := by
  cases id with
  | zero => exact congrArg Origin.parentStart (h.first window stored)
  | succ id =>
      have hle := h.le_count stored
      obtain ⟨previous, hprevious, -⟩ := h.finished id (by omega)
      rw [past_succ hprevious]
      exact h.start_of_succ (by omega) stored hprevious

theorem past_mono (h : WindowsOk chain db.window count) {bound : Nat} (hle : id ≤ bound)
    (hbound : bound ≤ count) : chain.past db id ≤ chain.past db bound := by
  induction bound, hle using Nat.le_induction with
  | base => exact Nat.le_refl _
  | succ bound _ ih =>
      obtain ⟨window, hstored, -, hclosed⟩ := h.finished bound hbound
      have hstart := h.start_eq_past hstored
      have hordered := hclosed.ordered
      have := ih (by omega)
      rw [past_succ hstored]
      omega

end WindowsOk

structure AgreesBelow (bound : Nat) (db other : WindowDb) : Prop where
  ranges : ∀ first, first < bound →
    other.rangeByParentBlock first = db.rangeByParentBlock first
  requests : ∀ key, key.parentStartBlock < bound →
    other.drySyncHeader key = db.drySyncHeader key
  blobs : ∀ key, key.parentStartBlock < bound →
    other.blobRange key = db.blobRange key

theorem RangeOk.congr
    (h : RangeOk chain db id origin first stop rangeMeta)
    (same : other.drySyncHeader (chain.rangeKey origin first stop) =
      db.drySyncHeader (chain.rangeKey origin first stop)) :
    RangeOk chain other id origin first stop rangeMeta where
  range := h.range
  content := h.content
  blob := h.blob
  pointed := h.pointed
  ownBlob := h.ownBlob
  request := by
    rw [same]
    exact h.request
  sameSet := h.sameSet

theorem BlobOk.congr {bound : Nat} (agrees : AgreesBelow bound db other)
    (hstart : origin.parentStart ≤ stop) (hlt : stop < bound)
    (h : BlobOk chain db origin stop) : BlobOk chain other origin stop where
  stored := by
    rw [agrees.blobs _ (show origin.parentStart < bound by omega)]
    exact h.stored
  points := fun first rangeMeta hfirst hstop stored =>
    h.points first rangeMeta hfirst hstop
      (by rwa [agrees.ranges first (by omega)] at stored)

theorem Sealed.congr {bound : Nat} (agrees : AgreesBelow bound db other)
    (hstart : origin.parentStart ≤ stop) (hlt : stop < bound)
    (h : Sealed chain db origin stop) : Sealed chain other origin stop where
  covered := fun first rangeStop hrange hstop => by
    have := hrange.ordered
    rw [agrees.ranges first (by omega)]
    exact h.covered first rangeStop hrange hstop
  blob := h.blob.congr agrees hstart hlt
  last := by
    obtain ⟨first, hrange, hrequest⟩ := h.last
    refine ⟨first, hrange, ?_⟩
    have := hrange.ordered
    rwa [agrees.requests _ (show first < bound by omega)]

namespace DbOk

theorem range_of_window (h : DbOk chain db count)
    (stored : db.window id = some window)
    (hrange : db.rangeByParentBlock first = some rangeMeta)
    (hstart : window.parentStartBlock ≤ first)
    (hstop : id < count → first ≤ window.stop) :
    ∃ stop, RangeOk chain db id window.origin first stop rangeMeta ∧
      (id < count → stop ≤ window.stop) := by
  obtain ⟨owner, ownerWindow, stop, hwindow, hok, hbound⟩ :=
    h.ranges first rangeMeta hrange
  have hfirst := hok.range.start_le
  have hordered := hok.range.ordered
  simp only [origin_parentStart] at hfirst
  have howner := h.windows.le_count hwindow
  have hid := h.windows.le_count stored
  rcases Nat.lt_trichotomy owner id with hlt | rfl | hlt
  · have := h.windows.stop_lt_start hlt hwindow stored
    have := hbound (by omega)
    omega
  · cases Option.some.inj (stored.symm.trans hwindow)
    exact ⟨stop, hok, hbound⟩
  · have := h.windows.stop_lt_start hlt stored hwindow
    have := hstop (by omega)
    omega

theorem window_unique (h : DbOk chain db count) {otherId number : Nat}
    {otherWindow : Window}
    (stored : db.window id = some window)
    (storedOther : db.window otherId = some otherWindow)
    (hwindow : window.parentStartBlock ≤ number ∧ number ≤ window.stop)
    (hotherWindow : otherWindow.parentStartBlock ≤ number ∧
      number ≤ otherWindow.stop) : otherId = id ∧ otherWindow = window := by
  rcases Nat.lt_trichotomy otherId id with hlt | rfl | hlt
  · have := h.windows.stop_lt_start hlt storedOther stored
    omega
  · exact ⟨rfl, Option.some.inj (storedOther.symm.trans stored)⟩
  · have := h.windows.stop_lt_start hlt stored storedOther
    omega

theorem stop_eq (h : DbOk chain db count)
    (stored : db.window count = some window)
    (hrange : chain.IsRange window.origin first stop)
    (hmeta : db.rangeByParentBlock first = some rangeMeta) :
    RangeOk chain db count window.origin first stop rangeMeta := by
  have hstart : window.parentStartBlock ≤ first := hrange.start_le
  obtain ⟨other, hok, -⟩ := h.range_of_window stored hmeta hstart
    (fun hlt => absurd hlt (Nat.lt_irrefl _))
  rwa [hrange.stop_unique hok.range]

/-- The mark of `setDryRange` is set exactly when the range is stored. -/
theorem written_iff (h : DbOk chain db count)
    (stored : db.window count = some window)
    (hrange : chain.IsRange window.origin first stop) :
    db.rangeWritten (chain.rangeKey window.origin first stop) = true ↔
      (db.rangeByParentBlock first).isSome := by
  rw [h.written, Chain.rangeKey_parentStart]
  constructor
  · rintro ⟨rangeMeta, hmeta, -⟩
    simp [hmeta]
  · intro hsome
    obtain ⟨rangeMeta, hmeta⟩ := Option.isSome_iff_exists.mp hsome
    refine ⟨rangeMeta, hmeta, ?_⟩
    exact congrArg RangeMeta.drySyncHeaderReqKey
      (h.stop_eq stored hrange hmeta).content

end DbOk

end RuntimeBridge.DataProvider
