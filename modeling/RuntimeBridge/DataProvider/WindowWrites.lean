import RuntimeBridge.DataProvider.WindowInvariant

/-! Every write of the window loop keeps the invariant of the database. -/

namespace RuntimeBridge.DataProvider

variable {chain : Chain} {db : WindowDb} {count : Nat}
  {window current : Window} {origin : Origin} {first stop : Nat}
  {changed : Bool}

theorem agreesBelow_putWindow (bound : Nat) (window : Window) :
    AgreesBelow bound db (db.putWindow window) where
  ranges := fun _ _ => rfl
  requests := fun _ _ => rfl
  blobs := fun _ _ => rfl

theorem agreesBelow_writeRange
    (hrange : chain.IsRange origin first stop) :
    AgreesBelow origin.parentStart db
      (chain.writeRange origin db first stop changed) where
  ranges := fun number hlt => by
    have := hrange.start_le
    simp [Chain.writeRange, show number ≠ first by omega]
  requests := fun key hlt => by
    have := hrange.start_le
    have hne : key ≠ chain.rangeKey origin first stop := by
      rintro rfl
      simp only [Chain.rangeKey_parentStart] at hlt
      omega
    simp [Chain.writeRange, hne]
  blobs := fun _ _ => rfl

theorem agreesBelow_writeBlob :
    AgreesBelow origin.parentStart db (chain.writeBlob origin db stop) where
  ranges := fun number hlt => by
    rw [Chain.writeBlob_range, if_neg (by omega)]
  requests := fun _ _ => rfl
  blobs := fun key hlt => by
    have hne : key ≠ chain.blobKey origin stop := by
      rintro rfl
      exact absurd hlt (Nat.lt_irrefl _)
    simp [Chain.writeBlob, hne]

/-- A record is as before, or pointed to the blob that spans it. -/
theorem writeBlob_record {number : Nat} {rangeMeta : RangeMeta}
    (hmeta : (chain.writeBlob origin db stop).rangeByParentBlock number =
      some rangeMeta) :
    ∃ old, db.rangeByParentBlock number = some old ∧
      (rangeMeta = old ∨
        (origin.parentStart ≤ number ∧ number ≤ stop) ∧
          rangeMeta =
            WindowDb.pointToBlob (chain.blobKey origin stop) old) := by
  rw [Chain.writeBlob_range] at hmeta
  split at hmeta
  · next hin =>
      obtain ⟨old, hold, rfl⟩ := Option.map_eq_some_iff.mp hmeta
      exact ⟨old, hold, Or.inr ⟨hin, rfl⟩⟩
  · exact ⟨rangeMeta, hmeta, Or.inl rfl⟩

theorem blobOk_writeBlob :
    BlobOk chain (chain.writeBlob origin db stop) origin stop where
  stored := by simp [Chain.writeBlob]
  points := fun number rangeMeta hstart hle hmeta => by
    rw [Chain.writeBlob_range, if_pos ⟨hstart, hle⟩] at hmeta
    obtain ⟨old, -, rfl⟩ := Option.map_eq_some_iff.mp hmeta
    exact pointToBlob_twice _ _

theorem blobKey_inj {left right : Nat}
    (h : chain.blobKey origin left = chain.blobKey origin right) :
    left = right := by
  have hstop := congrArg RangeKey.parentStopBlock h
  exact Int.ofNat.inj hstop

namespace WindowsOk

variable {windows : Nat → Option Window}

structure Placed (chain : Chain) (windows : Nat → Option Window)
    (count : Nat) (window : Window) : Prop where
  windowId : window.windowId = count
  first : count = 0 → window.origin = chain.firstOrigin
  follows : ∀ id previous, count = id + 1 → windows id = some previous →
    window.origin = previous.followingOrigin

theorem placed (h : WindowsOk chain windows count)
    (stored : windows count = some current)
    (hid : window.windowId = count) (horigin : window.origin = current.origin) :
    Placed chain windows count window where
  windowId := hid
  first := fun heq => by
    subst heq
    exact horigin.trans (h.first current stored)
  follows := fun id previous heq hprevious => by
    subst heq
    exact horigin.trans (h.follows id current previous stored hprevious)

theorem put {after : Nat} (h : WindowsOk chain windows count)
    (hplaced : Placed chain windows count window)
    (status : after = count ∧ window.isFinished = false ∨
      after = count + 1 ∧ window.isFinished = true ∧ ClosedAt chain window) :
    WindowsOk chain (Function.update windows count (some window)) after where
  finished := fun id hlt => by
    by_cases heq : id = count
    · subst heq
      rcases status with ⟨rfl, -⟩ | ⟨-, hfinished, hclosed⟩
      · exact absurd hlt (Nat.lt_irrefl _)
      · exact ⟨window, Function.update_self .., hfinished, hclosed⟩
    · rw [Function.update_of_ne heq]
      exact h.finished id (by omega)
  current := fun other hother => by
    rcases status with ⟨rfl, hopen⟩ | ⟨rfl, -⟩
    · rw [Function.update_self] at hother
      cases hother
      exact hopen
    · rw [Function.update_of_ne (by omega), h.beyond _ (by omega)] at hother
      contradiction
  beyond := fun id hlt => by
    rw [Function.update_of_ne (by omega)]
    exact h.beyond id (by omega)
  windowId := fun id other hother => by
    by_cases heq : id = count
    · subst heq
      rw [Function.update_self] at hother
      cases hother
      exact hplaced.windowId
    · rw [Function.update_of_ne heq] at hother
      exact h.windowId id other hother
  first := fun other hother => by
    by_cases heq : 0 = count
    · rw [← heq, Function.update_self] at hother
      cases hother
      exact hplaced.first heq.symm
    · rw [Function.update_of_ne heq] at hother
      exact h.first other hother
  follows := fun id other previous hother hprevious => by
    have hne : id ≠ count := by
      rintro rfl
      rw [Function.update_of_ne (by omega), h.beyond _ (by omega)] at hother
      contradiction
    rw [Function.update_of_ne hne] at hprevious
    by_cases heq : id + 1 = count
    · rw [heq, Function.update_self] at hother
      cases hother
      exact hplaced.follows id previous heq.symm hprevious
    · rw [Function.update_of_ne heq] at hother
      exact h.follows id other previous hother hprevious

end WindowsOk

namespace DbOk

theorem create (h : DbOk chain db count) (absent : db.window count = none)
    (hplaced : WindowsOk.Placed chain db.window count window)
    (hopen : window.isFinished = false)
    (hbehind : ∀ id other, db.window id = some other →
      other.stop < window.parentStartBlock) :
    DbOk chain (db.putWindow window) count := by
  have hid := hplaced.windowId
  have hother : ∀ id other, db.window id = some other →
      (db.putWindow window).window id = some other := fun id other stored => by
    rw [putWindow_of_ne, stored]
    rintro rfl
    rw [hid, absent] at stored
    contradiction
  refine
    { windows := ?_, ranges := ?_, written := h.written, sealed := ?_,
      committed := ?_, owner := ?_ }
  · have := h.windows.put hplaced (Or.inl ⟨rfl, hopen⟩)
    rwa [← hid] at this ⊢
  · intro first rangeMeta stored
    obtain ⟨id, owner, stop, hwindow, hok, hbound⟩ := h.ranges _ _ stored
    refine ⟨id, owner, stop, hother id owner hwindow, ?_, hbound⟩
    exact hok.congr rfl
  · intro id other hlt stored
    rw [putWindow_of_ne (by omega)] at stored
    exact (h.sealed id other hlt stored).congr
      (agreesBelow_putWindow (other.stop + 1) window)
      (h.windows.closed hlt stored).ordered (Nat.lt_succ_self _)
  · intro other stop stored _ hcommitted
    rw [← hid, putWindow_self] at stored
    cases stored
    obtain ⟨id, owner, howner, hstart⟩ := h.owner _ hcommitted
    have hne : id ≠ count := by
      rintro rfl
      rw [absent] at howner
      contradiction
    have hle := h.windows.le_count howner
    have hbefore := hbehind id owner howner
    have hordered := (h.windows.closed (by omega) howner).ordered
    have : window.parentStartBlock = owner.parentStartBlock := hstart
    omega
  · intro key hkey
    obtain ⟨id, owner, howner, hstart⟩ := h.owner key hkey
    exact ⟨id, owner, hother id owner howner, hstart⟩

theorem rewrite (h : DbOk chain db count)
    (stored : db.window count = some current)
    (hid : window.windowId = count) (hopen : window.isFinished = false)
    (horigin : window.origin = current.origin) :
    DbOk chain (db.putWindow window) count := by
  have hself : (db.putWindow window).window count = some window := by
    rw [← hid, putWindow_self]
  have hne : ∀ id, id ≠ count →
      (db.putWindow window).window id = db.window id := fun id hne =>
    putWindow_of_ne (by omega)
  have howner : ∀ id other, db.window id = some other →
      ∃ owner, (db.putWindow window).window id = some owner ∧
        owner.origin = other.origin ∧ (id < count → owner = other) := by
    intro id other hother
    by_cases heq : id = count
    · subst heq
      cases Option.some.inj (stored.symm.trans hother)
      exact ⟨window, hself, horigin, fun hlt => absurd hlt (Nat.lt_irrefl _)⟩
    · exact ⟨other, (hne id heq).trans hother, rfl, fun _ => rfl⟩
  refine
    { windows := ?_, ranges := ?_, written := h.written, sealed := ?_,
      committed := ?_, owner := ?_ }
  · have := h.windows.put (h.windows.placed stored hid horigin)
      (Or.inl ⟨rfl, hopen⟩)
    rwa [← hid] at this ⊢
  · intro first rangeMeta hmeta
    obtain ⟨id, other, stop, hwindow, hok, hbound⟩ := h.ranges _ _ hmeta
    obtain ⟨owner, hstored, hsame, heq⟩ := howner id other hwindow
    refine ⟨id, owner, stop, hstored, ?_, fun hlt => ?_⟩
    · rw [hsame]
      exact hok.congr rfl
    · rw [heq hlt]
      exact hbound hlt
  · intro id other hlt hother
    rw [hne id (by omega)] at hother
    exact (h.sealed id other hlt hother).congr
      (agreesBelow_putWindow (other.stop + 1) window)
      (h.windows.closed hlt hother).ordered (Nat.lt_succ_self _)
  · intro other stop hother hlt hcommitted
    cases Option.some.inj (hself.symm.trans hother)
    have hstart : window.parentStartBlock = current.parentStartBlock :=
      congrArg Origin.parentStart horigin
    rw [horigin] at hcommitted ⊢
    rw [hstart] at hlt ⊢
    obtain ⟨hgrows, hsame, hcovered, hblob⟩ :=
      h.committed current stop stored hlt hcommitted
    exact ⟨hgrows, hsame, hcovered,
      hblob.congr (agreesBelow_putWindow (stop + 1) window)
        (Nat.le_of_lt hlt) (Nat.lt_succ_self _)⟩
  · intro key hkey
    obtain ⟨id, other, hother, hstart⟩ := h.owner key hkey
    obtain ⟨owner, hstored, hsame, -⟩ := howner id other hother
    exact ⟨id, owner, hstored,
      hstart.trans (congrArg Origin.parentStart hsame).symm⟩

theorem close (h : DbOk chain db count)
    (stored : db.window count = some current)
    (hid : window.windowId = count) (hfinished : window.isFinished = true)
    (horigin : window.origin = current.origin)
    (hclosed : ClosedAt chain window)
    (hsealed : Sealed chain db window.origin window.stop)
    (hwithin : ∀ first stop rangeMeta,
      RangeOk chain db count current.origin first stop rangeMeta →
      db.rangeByParentBlock first = some rangeMeta → stop ≤ window.stop) :
    DbOk chain (db.putWindow window) (count + 1) := by
  have hself : (db.putWindow window).window count = some window := by
    rw [← hid, putWindow_self]
  have hne : ∀ id, id ≠ count →
      (db.putWindow window).window id = db.window id := fun id hne =>
    putWindow_of_ne (by omega)
  refine
    { windows := ?_, ranges := ?_, written := h.written, sealed := ?_,
      committed := ?_, owner := ?_ }
  · have := h.windows.put (h.windows.placed stored hid horigin)
      (Or.inr ⟨rfl, hfinished, hclosed⟩)
    rwa [← hid] at this ⊢
  · intro first rangeMeta hmeta
    obtain ⟨id, other, stop, hwindow, hok, hbound⟩ := h.ranges _ _ hmeta
    by_cases heq : id = count
    · subst heq
      cases Option.some.inj (stored.symm.trans hwindow)
      refine ⟨id, window, stop, hself, ?_, fun _ => hwithin _ _ _ hok hmeta⟩
      rw [horigin]
      exact hok.congr rfl
    · have hle := h.windows.le_count hwindow
      refine ⟨id, other, stop, (hne id heq).trans hwindow, ?_,
        fun _ => hbound (by omega)⟩
      exact hok.congr rfl
  · intro id other hlt hother
    have hagrees : AgreesBelow (other.stop + 1) db (db.putWindow window) :=
      agreesBelow_putWindow _ _
    by_cases heq : id = count
    · subst heq
      cases Option.some.inj (hself.symm.trans hother)
      exact hsealed.congr hagrees hclosed.ordered (Nat.lt_succ_self _)
    · rw [hne id heq] at hother
      exact (h.sealed id other (by omega) hother).congr hagrees
        (h.windows.closed (by omega) hother).ordered (Nat.lt_succ_self _)
  · intro other stop hother
    rw [hne _ (by omega), h.windows.beyond _ (Nat.lt_succ_self _)] at hother
    contradiction
  · intro key hkey
    obtain ⟨id, other, hother, hstart⟩ := h.owner key hkey
    by_cases heq : id = count
    · subst heq
      cases Option.some.inj (stored.symm.trans hother)
      exact ⟨id, window, hself,
        hstart.trans (congrArg Origin.parentStart horigin).symm⟩
    · exact ⟨id, other, (hne id heq).trans hother, hstart⟩

theorem writeRange (h : DbOk chain db count)
    (stored : db.window count = some window)
    (hrange : chain.IsRange window.origin first stop)
    (hsame : chain.SameSet window.parentStartBlock stop)
    (absent : db.rangeByParentBlock first = none)
    (hlater : window.parentStartBlock < stop →
      changed = decide (chain.SetIdGrows stop))
    (hfirst : stop = window.parentStartBlock → count ≠ 0 → changed = false) :
    DbOk chain (chain.writeRange window.origin db first stop changed) count := by
  have hagrees : AgreesBelow window.parentStartBlock db
      (chain.writeRange window.origin db first stop changed) :=
    agreesBelow_writeRange hrange
  have hrequest : ∀ key, key ≠ chain.rangeKey window.origin first stop →
      (chain.writeRange window.origin db first stop changed).drySyncHeader key =
        db.drySyncHeader key := fun key hne => by
    simp [Chain.writeRange, hne]
  refine
    { windows := h.windows, ranges := ?_, written := ?_, sealed := ?_,
      committed := ?_, owner := h.owner }
  · intro number rangeMeta hmeta
    by_cases heq : number = first
    · subst heq
      simp only [Chain.writeRange, Function.update_self] at hmeta
      cases hmeta
      refine ⟨count, window, stop, stored, ?_,
        fun hlt => absurd hlt (Nat.lt_irrefl _)⟩
      exact
        { range := hrange
          content := rfl
          blob := fun _ hblob => by simp [Chain.rangeMeta,
            WindowDb.dryRangeMeta] at hblob
          pointed := rfl
          ownBlob := fun _ hkey => by simp [Chain.rangeMeta,
            WindowDb.dryRangeMeta] at hkey
          request := ⟨changed, by simp [Chain.writeRange], hlater, hfirst⟩
          sameSet := hsame }
    · simp only [Chain.writeRange, Function.update_of_ne heq] at hmeta
      obtain ⟨id, other, otherStop, hwindow, hok, hbound⟩ :=
        h.ranges _ _ hmeta
      refine ⟨id, other, otherStop, hwindow, ?_, hbound⟩
      refine hok.congr (hrequest _ fun hkey => heq ?_)
      exact congrArg RangeKey.parentStartBlock hkey
  · intro key
    by_cases heq : key.parentStartBlock = first
    · have hunwritten : db.rangeWritten key ≠ true := by
        rw [Ne, h.written, heq, absent]
        simp
      by_cases hkey : key = chain.rangeKey window.origin first stop
      · subst hkey
        simp [Chain.writeRange]
      · simp only [Chain.writeRange, Function.update_of_ne hkey, heq,
          Function.update_self, Option.some.injEq, exists_eq_left',
          Chain.rangeMeta_key]
        exact ⟨fun hw => absurd hw hunwritten, fun hw => absurd hw.symm hkey⟩
    · have hkey : key ≠ chain.rangeKey window.origin first stop := by
        rintro rfl
        exact heq rfl
      simp only [Chain.writeRange, Function.update_of_ne hkey,
        Function.update_of_ne heq]
      exact h.written key
  · intro id other hlt hother
    exact (h.sealed id other hlt hother).congr hagrees
      (h.windows.closed hlt hother).ordered
      (h.windows.stop_lt_start hlt hother stored)
  · intro other otherStop hother hlt hcommitted
    cases Option.some.inj (stored.symm.trans hother)
    obtain ⟨hgrows, hotherSame, hcovered, -⟩ :=
      h.committed window otherStop stored hlt hcommitted
    have hle : stop < otherStop + 1 := by
      by_contra hgt
      exact hsame otherStop hlt (by omega) hgrows
    have := hcovered first stop hrange hle
    rw [absent] at this
    contradiction

theorem writeBlob (h : DbOk chain db count)
    (stored : db.window count = some window)
    (hfresh : window.parentStartBlock < stop ∧ chain.SetIdGrows stop ∧
        chain.SameSet window.parentStartBlock stop ∧
        db.blobRangeCommitted (chain.blobKey window.origin stop) = false ∨
      ∀ other, db.blobRangeCommitted (chain.blobKey window.origin other) =
        false) :
    DbOk chain (chain.writeBlob window.origin db stop) count := by
  refine
    { windows := h.windows, ranges := ?_, written := ?_, sealed := ?_,
      committed := ?_, owner := h.owner }
  · intro number rangeMeta hmeta
    obtain ⟨old, hold, hcase⟩ := writeBlob_record hmeta
    obtain ⟨id, owner, rangeStop, hwindow, hok, hbound⟩ :=
      h.ranges _ _ hold
    refine ⟨id, owner, rangeStop, hwindow, ?_, hbound⟩
    rcases hcase with rfl | ⟨⟨hge, hle⟩, rfl⟩
    · exact hok.congr rfl
    · have hid := h.windows.le_count hwindow
      have hordered := hok.range.ordered
      rw [origin_parentStart] at hge
      have howner : owner = window := by
        rcases Nat.lt_or_eq_of_le hid with hlt | rfl
        · have := h.windows.stop_lt_start hlt hwindow stored
          have := hbound hlt
          omega
        · exact Option.some.inj (hwindow.symm.trans stored)
      exact
        { range := hok.range
          content := hok.content
          blob := fun blobStop hblob => by
            cases hblob
            exact Int.ofNat_le.mpr hle
          pointed := rfl
          ownBlob := fun _ hkey => by
            cases hkey
            rw [howner]
            rfl
          request := hok.request
          sameSet := hok.sameSet }
  · intro key
    apply (h.written key).trans
    rw [Chain.writeBlob_range]
    split
    · cases db.rangeByParentBlock key.parentStartBlock <;>
        simp [WindowDb.pointToBlob]
    · rfl
  · intro id other hlt hother
    exact (h.sealed id other hlt hother).congr agreesBelow_writeBlob
      (h.windows.closed hlt hother).ordered
      (h.windows.stop_lt_start hlt hother stored)
  · intro other otherStop hother hlt hcommitted
    cases Option.some.inj (stored.symm.trans hother)
    have hold : db.blobRangeCommitted
        (chain.blobKey window.origin otherStop) = true := hcommitted
    rcases hfresh with ⟨hafter, hgrows, hsame, huncommitted⟩ | hnone
    · obtain ⟨hotherGrows, hotherSame, -⟩ :=
        h.committed window otherStop stored hlt hold
      rcases Nat.lt_trichotomy otherStop stop with hbefore | rfl | hbeyond
      · exact absurd hotherGrows (hsame otherStop hlt hbefore)
      · rw [huncommitted] at hold
        contradiction
      · exact absurd hgrows (hotherSame stop hafter hbeyond)
    · rw [hnone] at hold
      contradiction

theorem markBlob (h : DbOk chain db count)
    (stored : db.window count = some window)
    (hgrows : chain.SetIdGrows stop)
    (hsame : chain.SameSet window.parentStartBlock stop)
    (hcovered : Covered chain db window.origin (stop + 1))
    (hblob : BlobOk chain db window.origin stop) :
    DbOk chain (db.markBlobRange (chain.blobKey window.origin stop)) count := by
  refine
    { windows := h.windows, written := h.written, ranges := ?_, sealed := ?_,
      committed := ?_, owner := ?_ }
  · intro number rangeMeta hmeta
    obtain ⟨id, owner, rangeStop, hwindow, hok, hbound⟩ := h.ranges _ _ hmeta
    exact ⟨id, owner, rangeStop, hwindow, hok.congr rfl, hbound⟩
  · intro id other hlt hother
    have hok := h.sealed id other hlt hother
    exact
      { covered := hok.covered
        blob := { stored := hok.blob.stored, points := hok.blob.points }
        last := hok.last }
  · intro other otherStop hother hlt hcommitted
    cases Option.some.inj (stored.symm.trans hother)
    by_cases heq : otherStop = stop
    · subst heq
      exact ⟨hgrows, hsame, hcovered,
        { stored := hblob.stored, points := hblob.points }⟩
    · have hold : db.blobRangeCommitted
          (chain.blobKey window.origin otherStop) = true := by
        have hne : chain.blobKey window.origin otherStop ≠
            chain.blobKey window.origin stop :=
          fun hkey => heq (blobKey_inj hkey)
        simpa [WindowDb.markBlobRange, Function.update_of_ne hne]
          using hcommitted
      obtain ⟨hotherGrows, hotherSame, hotherCovered, hotherBlob⟩ :=
        h.committed window otherStop stored hlt hold
      exact ⟨hotherGrows, hotherSame, hotherCovered,
        { stored := hotherBlob.stored, points := hotherBlob.points }⟩
  · intro key hkey
    by_cases heq : key = chain.blobKey window.origin stop
    · subst heq
      exact ⟨count, window, stored, rfl⟩
    · apply h.owner key
      simpa [WindowDb.markBlobRange, heq] using hkey

theorem setLastCommittedParentBlock (h : DbOk chain db count) (number : Int) :
    DbOk chain (db.setLastCommittedParentBlock number) count := by
  have hagrees : ∀ bound,
      AgreesBelow bound db (db.setLastCommittedParentBlock number) :=
    fun _ => { ranges := fun _ _ => rfl, requests := fun _ _ => rfl,
               blobs := fun _ _ => rfl }
  refine
    { windows := h.windows, written := h.written, ranges := ?_, sealed := ?_,
      committed := ?_, owner := h.owner }
  · intro first rangeMeta hmeta
    obtain ⟨id, owner, rangeStop, hwindow, hok, hbound⟩ := h.ranges _ _ hmeta
    exact ⟨id, owner, rangeStop, hwindow, hok.congr rfl, hbound⟩
  · intro id other hlt hother
    exact (h.sealed id other hlt hother).congr (hagrees (other.stop + 1))
      (h.windows.closed hlt hother).ordered (Nat.lt_succ_self _)
  · intro other otherStop hother hlt hcommitted
    obtain ⟨hgrows, hsame, hcovered, hblob⟩ :=
      h.committed other otherStop hother hlt hcommitted
    exact ⟨hgrows, hsame, hcovered,
      { stored := hblob.stored, points := hblob.points }⟩

end DbOk

end RuntimeBridge.DataProvider
