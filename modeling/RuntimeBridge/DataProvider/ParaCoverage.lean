import RuntimeBridge.DataProvider.WindowSpan

/-! Which para blocks the dry ranges pack.  A walk that enters every window
with the first para number not yet packed packs each number once; a window that
packs exactly one para block hands the wrong number to the next one. -/

namespace RuntimeBridge.DataProvider

open Library

namespace Chain

variable (chain : Chain)

def reported (number : Nat) : Nat :=
  (chain.parent number).paraNumber

/-- The reported para number starts at the genesis and grows by at most one a
block. -/
structure Tame : Prop where
  start : chain.reported chain.genesis.parentNumber = chain.genesis.paraNumber
  mono : ∀ number, chain.genesis.parentNumber ≤ number →
    chain.reported number ≤ chain.reported (number + 1)
  growth : ∀ number, chain.genesis.parentNumber ≤ number →
    chain.reported (number + 1) ≤ chain.reported number + 1

structure FirstReport (paraNumber number : Nat) : Prop where
  after : chain.genesis.parentNumber < number
  reports : chain.reported number = paraNumber
  first : ∀ earlier, chain.genesis.parentNumber ≤ earlier → earlier < number →
    chain.reported earlier ≠ paraNumber

/-- Exactly one para number is reported for the first time in the span. -/
def SinglePara (start stop : Nat) : Prop :=
  chain.reported stop = chain.reported (start - 1) + 1

instance (start stop : Nat) : Decidable (chain.SinglePara start stop) :=
  inferInstanceAs (Decidable (_ = _))

end Chain

/-- The dry ranges of the finished windows pack every para number once, in
order, and every window starts with the first number not yet packed. -/
structure ParaCoverage (chain : Chain) (db : WindowDb) (count : Nat) :
    Prop where
  packed : (entries db.rangeByParentBlock (chain.genesis.parentNumber + 1)
      (chain.past db count)).flatMap (·.paraRange) =
    List.range' (chain.genesis.paraNumber + 1)
      (chain.reported (chain.past db count - 1) - chain.genesis.paraNumber)
  placed : ∀ paraNumber, chain.genesis.paraNumber < paraNumber →
    paraNumber ≤ chain.reported (chain.past db count - 1) →
    ∃ number first rangeMeta, chain.FirstReport paraNumber number ∧
      db.rangeByParentBlock first = some rangeMeta ∧ first ≤ number ∧
      number ≤ rangeMeta.parentStopBlock ∧ paraNumber ∈ rangeMeta.paraRange
  handed : ∀ id window, db.window id = some window →
    window.paraStartBlock =
      chain.reported (window.parentStartBlock - 1) + 1

def ParaCovered (chain : Chain) (db : WindowDb) : Prop :=
  ∃ count, db.Finished count ∧ ParaCoverage chain db count

variable {chain : Chain} {db : WindowDb} {state : WalkState}
  {window : Window} {origin : Origin} {count id first last number stop : Nat}
  {rangeMeta : RangeMeta}

namespace Chain.Tame

theorem le (h : chain.Tame) (hgenesis : chain.genesis.parentNumber ≤ first)
    (hle : first ≤ last) : chain.reported first ≤ chain.reported last := by
  induction last, hle using Nat.le_induction with
  | base => exact Nat.le_refl _
  | succ last hfirst ih => exact Nat.le_trans ih (h.mono last (by omega))

theorem cursor (h : chain.Tame)
    (hgenesis : chain.genesis.parentNumber < origin.parentStart)
    (hsync : origin.paraStart = chain.reported (origin.parentStart - 1) + 1)
    (hle : origin.parentStart ≤ number) :
    chain.cursor origin number = chain.reported (number - 1) + 1 := by
  induction number, hle using Nat.le_induction with
  | base => rw [Chain.cursor_of_le (Nat.le_refl _), hsync]
  | succ number hle ih =>
      have hmono := h.mono (number - 1) (by omega)
      have hgrowth := h.growth (number - 1) (by omega)
      rw [show number - 1 + 1 = number by omega] at hmono hgrowth
      rw [Chain.cursor_succ hle, Chain.advance, ih, Nat.add_sub_cancel]
      change (if chain.reported number = _ then _ else _) = _
      split <;> omega

theorem firstReport (h : chain.Tame) {paraNumber : Nat}
    (hgenesis : chain.genesis.parentNumber ≤ last)
    (hlt : chain.genesis.paraNumber < paraNumber)
    (hle : paraNumber ≤ chain.reported last) :
    ∃ number, number ≤ last ∧ chain.FirstReport paraNumber number := by
  classical
  have hexists : ∃ number, chain.genesis.parentNumber ≤ number ∧
      paraNumber ≤ chain.reported number := ⟨last, hgenesis, hle⟩
  obtain ⟨hfrom, hreach⟩ := Nat.find_spec hexists
  have hbelow : ∀ earlier, chain.genesis.parentNumber ≤ earlier →
      earlier < Nat.find hexists → chain.reported earlier < paraNumber :=
    fun earlier hearlier hbefore => Nat.lt_of_not_le fun hge =>
      Nat.find_min hexists hbefore ⟨hearlier, hge⟩
  have hafter : chain.genesis.parentNumber < Nat.find hexists := by
    apply Nat.lt_of_le_of_ne hfrom
    intro heq
    rw [← heq, h.start] at hreach
    omega
  refine ⟨Nat.find hexists, Nat.find_min' hexists ⟨hgenesis, hle⟩, ?_⟩
  refine { after := hafter, reports := ?_, first := ?_ }
  · have hprevious := hbelow (Nat.find hexists - 1) (by omega) (by omega)
    have hgrowth := h.growth (Nat.find hexists - 1) (by omega)
    rw [show Nat.find hexists - 1 + 1 = Nat.find hexists by omega] at hgrowth
    omega
  · intro earlier hearlier hbefore
    exact Nat.ne_of_lt (hbelow earlier hearlier hbefore)

end Chain.Tame

def Window.InStep (chain : Chain) (window : Window) : Prop :=
  window.paraStartBlock = chain.reported (window.parentStartBlock - 1) + 1

theorem following_paraStart (htame : chain.Tame)
    (hgenesis : chain.genesis.parentNumber < window.parentStartBlock)
    (hclosed : ClosedAt chain window) (hstep : window.InStep chain) :
    window.followingOrigin.paraStart =
      if chain.SinglePara window.parentStartBlock window.stop then
        chain.reported window.stop
      else chain.reported window.stop + 1 := by
  have hordered := hclosed.ordered
  have hcursor : ∀ number, window.parentStartBlock ≤ number →
      chain.cursor window.origin number = chain.reported (number - 1) + 1 :=
    fun number hle => htame.cursor hgenesis hstep hle
  have hstop := hcursor window.stop hordered
  have hnext := hcursor (window.stop + 1) (by omega)
  rw [Nat.add_sub_cancel] at hnext
  have hmono := htame.mono (window.stop - 1) (by omega)
  have hgrowth := htame.growth (window.stop - 1) (by omega)
  rw [show window.stop - 1 + 1 = window.stop by omega] at hmono hgrowth
  have hstart : window.paraStartBlock =
      chain.reported (window.parentStartBlock - 1) + 1 := hstep
  simp only [Window.followingOrigin, hclosed.paraStop, Chain.closingPara, hstop,
    hnext, origin_paraStart]
  by_cases hsingle :
      chain.SinglePara window.parentStartBlock window.stop
  · have heq : chain.reported window.stop = window.paraStartBlock :=
      hsingle.trans hstart.symm
    rw [if_pos hsingle]
    split <;> split <;> omega
  · have hne : chain.reported window.stop ≠ window.paraStartBlock :=
      fun heq => hsingle (heq.trans hstart)
    rw [if_neg hsingle]
    split <;> split <;> omega

theorem RangeOk.paraRange_inStep (htame : chain.Tame)
    (hgenesis : chain.genesis.parentNumber < window.parentStartBlock)
    (hstep : window.InStep chain)
    (h : RangeOk chain db id window.origin first stop rangeMeta) :
    rangeMeta.paraRange = List.range' (chain.reported (first - 1) + 1)
      (chain.reported stop - chain.reported (first - 1)) := by
  have hstart : window.origin.parentStart ≤ first := h.range.start_le
  have hordered := h.range.ordered
  have hfirst := @Chain.Tame.cursor chain window.origin first htame hgenesis
    hstep hstart
  have hstop := @Chain.Tame.cursor chain window.origin (stop + 1) htame hgenesis
    hstep (by omega)
  rw [Nat.add_sub_cancel] at hstop
  apply (congrArg RangeMeta.paraRange h.content).trans
  rw [Chain.rangeMeta_paraRange, hfirst, hstop, Nat.add_sub_add_right]

namespace DbOk

theorem inStep (h : DbOk chain db count) (htame : chain.Tame)
    (hsafe : ∀ previous closed, previous < id →
      db.window previous = some closed →
      ¬ chain.SinglePara closed.parentStartBlock closed.stop)
    (stored : db.window id = some window) : window.InStep chain := by
  induction id generalizing window with
  | zero =>
      have horigin := h.windows.first window stored
      have hpara : window.paraStartBlock = chain.genesis.paraNumber + 1 :=
        congrArg Origin.paraStart horigin
      have hparent : window.parentStartBlock =
          chain.genesis.parentNumber + 1 :=
        congrArg Origin.parentStart horigin
      rw [Window.InStep, hpara, hparent, Nat.add_sub_cancel, htame.start]
  | succ id ih =>
      have hle := h.windows.le_count stored
      obtain ⟨previous, hprevious, -, hclosed⟩ :=
        h.windows.finished id (by omega)
      have hstep := ih
        (fun other closed hlt => hsafe other closed (Nat.lt_succ_of_lt hlt))
        hprevious
      have hpara : window.paraStartBlock =
          previous.followingOrigin.paraStart :=
        congrArg Origin.paraStart
          (h.windows.follows id window previous stored hprevious)
      rw [Window.InStep, hpara, following_paraStart htame
        (h.windows.genesis_lt hprevious) hclosed hstep,
        if_neg (hsafe id previous (Nat.lt_succ_self id) hprevious),
        h.windows.start_of_succ (by omega) stored hprevious,
        Nat.add_sub_cancel]

theorem packed_between (h : DbOk chain db count) (htame : chain.Tame)
    (hstep : ∀ id window, id < count → db.window id = some window →
      window.InStep chain)
    (hgenesis : chain.genesis.parentNumber < first)
    (hfirst : chain.Cut first) (hlast : chain.Cut last) (hle : first ≤ last)
    (hpast : last ≤ chain.past db count) :
    (entries db.rangeByParentBlock first last).flatMap (·.paraRange) =
      List.range' (chain.reported (first - 1) + 1)
        (chain.reported (last - 1) - chain.reported (first - 1)) := by
  have hmotive := @ranges_induction chain db count first last h
    (fun key rest => chain.genesis.parentNumber < key → key ≤ last →
      rest.flatMap (·.paraRange) =
        List.range' (chain.reported (key - 1) + 1)
          (chain.reported (last - 1) - chain.reported (key - 1)))
    hgenesis hfirst hlast hle hpast (fun _ _ => by simp) ?_
  · exact hmotive hgenesis hle
  · intro key id window stop rangeMeta rest hid hstored hok _ hlt ih hkey _
    have hordered := hok.range.ordered
    have hrest := ih (by omega) (by omega)
    rw [Nat.add_sub_cancel] at hrest
    have hlower := @Chain.Tame.le chain (key - 1) stop htame (by omega)
      (by omega)
    have hupper := @Chain.Tame.le chain stop (last - 1) htame (by omega)
      (by omega)
    rw [List.flatMap_cons, hrest, hok.paraRange_inStep htame
      (h.windows.genesis_lt hstored) (hstep id window hid hstored),
      show chain.reported (last - 1) - chain.reported (key - 1) =
        (chain.reported stop - chain.reported (key - 1)) +
          (chain.reported (last - 1) - chain.reported stop) by omega,
      ← List.range'_append_1]
    congr 2
    omega

theorem placed_at (h : DbOk chain db count) (htame : chain.Tame)
    (hstep : ∀ id window, id < count → db.window id = some window →
      window.InStep chain) {paraNumber : Nat}
    (hlt : number < chain.past db count)
    (hreport : chain.FirstReport paraNumber number) :
    ∃ first rangeMeta, db.rangeByParentBlock first = some rangeMeta ∧
      first ≤ number ∧ number ≤ rangeMeta.parentStopBlock ∧
      paraNumber ∈ rangeMeta.paraRange := by
  have htiling := h.parentTiling
  obtain ⟨interval, hinterval, hfrom, hto⟩ :=
    htiling.ranges.exists_interval hreport.after hlt
  obtain ⟨rangeMeta, hmember, rfl⟩ := List.mem_map.mp hinterval
  obtain ⟨first, -, -, hmeta⟩ := mem_entries.mp hmember
  obtain ⟨id, window, stop, hstored, hok, -⟩ := h.ranges first rangeMeta hmeta
  simp only [RangeMeta.interval, hok.parentStart, hok.parentStop] at hfrom hto
  have hstart : window.parentStartBlock ≤ first := hok.range.start_le
  have hgenesis := h.windows.genesis_lt hstored
  have hid := h.finished_of_lt (by omega) hstored hok.range.start_le
  refine ⟨first, rangeMeta, hmeta, hfrom, by rwa [hok.parentStop], ?_⟩
  rw [hok.paraRange_inStep htame hgenesis (hstep id window hid hstored),
    List.mem_range'_1]
  have hbefore := hreport.first (first - 1) (by omega) (by omega)
  have hlower := @Chain.Tame.le chain (first - 1) number htame (by omega)
    (by omega)
  have hupper := @Chain.Tame.le chain number stop htame (by omega) hto
  rw [hreport.reports] at hlower hupper
  omega

theorem paraCoverage (h : DbOk chain db count) (htame : chain.Tame)
    (hstep : ∀ id window, db.window id = some window →
      window.InStep chain) : ParaCoverage chain db count where
  packed := by
    have hpast : chain.genesis.parentNumber + 1 ≤ chain.past db count :=
      h.windows.past_mono (Nat.zero_le count) (Nat.le_refl count)
    rw [h.packed_between htame (fun id window _ => hstep id window)
      (Nat.lt_succ_self _) (Or.inl rfl) (h.cut_past (Nat.le_refl count)) hpast
      (Nat.le_refl _), Nat.succ_sub_one, htame.start]
  placed := fun paraNumber hlt hle => by
    have hpast : chain.genesis.parentNumber + 1 ≤ chain.past db count :=
      h.windows.past_mono (Nat.zero_le count) (Nat.le_refl count)
    obtain ⟨number, hnumber, hreport⟩ := @Chain.Tame.firstReport chain
      (chain.past db count - 1) htame paraNumber (by omega) hlt hle
    obtain ⟨first, rangeMeta, hmeta, hplace⟩ := h.placed_at htame
      (fun id window _ => hstep id window) (by omega) hreport
    exact ⟨number, first, rangeMeta, hreport, hmeta, hplace⟩
  handed := hstep

end DbOk

/-- In a run that nothing interrupts, the para blocks are covered exactly as
long as every span followed by a started window packs no para block or at least
two. -/
theorem paraCovered_iff (chain : Chain) (htame : chain.Tame)
    (hgrandpa : chain.Grandpa) (state : WalkState)
    (h : (walkMachine chain).Reaches uninterrupted state) :
    ParaCovered chain state.db ↔
      ∀ id start stop, (state.db.window (id + 1)).isSome →
        chain.Spans id start stop → ¬ chain.SinglePara start stop := by
  obtain ⟨⟨count, hok, -⟩, hfirst⟩ := firstOk_reaches hgrandpa h
  constructor
  · rintro ⟨_, -, hcoverage⟩ id start stop hsome hspan hsingle
    obtain ⟨next, hnext⟩ := Option.isSome_iff_exists.mp hsome
    have hle := hok.windows.le_count hnext
    obtain ⟨window, hstored, -, hclosed⟩ :=
      hok.windows.finished id (by omega)
    obtain ⟨rfl, rfl⟩ := (hok.spans hfirst hle hstored).unique hspan
    have hpara : next.paraStartBlock = window.followingOrigin.paraStart :=
      congrArg Origin.paraStart
        (hok.windows.follows id next window hnext hstored)
    have hhanded := hcoverage.handed (id + 1) next hnext
    rw [hpara, following_paraStart htame (hok.windows.genesis_lt hstored)
      hclosed (hcoverage.handed id window hstored), if_pos hsingle,
      hok.windows.start_of_succ hle hnext hstored,
      Nat.add_sub_cancel] at hhanded
    omega
  · intro hsafe
    refine ⟨count, hok.finished, hok.paraCoverage htame ?_⟩
    intro id window hstored
    refine hok.inStep htame ?_ hstored
    intro previous closed hlt hclosed
    have hle := hok.windows.le_count hstored
    refine hsafe previous _ _ ?_ (hok.spans hfirst (by omega) hclosed)
    rcases Nat.eq_or_lt_of_le (Nat.succ_le_of_lt hlt) with rfl | hbefore
    · simp [hstored]
    · exact hok.finished.stored (previous + 1) (by omega)

theorem evenSets_tame {reported : Nat → Nat} (hstart : reported 0 = 0)
    (hmono : ∀ number, reported number ≤ reported (number + 1))
    (hgrowth : ∀ number, reported (number + 1) ≤ reported number + 1) :
    (Chain.evenSets reported).Tame where
  start := hstart
  mono := fun number _ => hmono number
  growth := fun number _ => hgrowth number

/-- Windows of two relay blocks that report two para blocks. -/
theorem paraCovered_pairs :
    ParaCovered (Chain.evenSets fun number => number)
      ((walkMachine (Chain.evenSets fun number => number)).ended
        (List.replicate 20 .proceed)).db := by
  refine (paraCovered_iff _ (evenSets_tame rfl Nat.le_succ fun _ =>
    Nat.le_refl _) (evenSets_grandpa _) _
    (Machine.reaches_ended (fun _ _ member => List.eq_of_mem_replicate member)
      rfl)).mpr ?_
  intro number start stop _ hspan hsingle
  have hstop : stop = start - 1 + 1 := hsingle
  cases hspan with
  | first _ grows =>
      have hgrows : (stop - 1) / 2 < stop / 2 := grows
      have hone : stop = 1 := hstop
      subst hone
      contradiction
  | next previous hlt => omega

/-- The first window packs para block 1 alone, and the second one packs it
again. -/
theorem paraCovered_fails_single :
    (Chain.evenSets (min 1)).Tame ∧ (Chain.evenSets (min 1)).Grandpa ∧
      ∃ state, (walkMachine (Chain.evenSets (min 1))).Reaches uninterrupted
          state ∧
        ¬ ParaCovered (Chain.evenSets (min 1)) state.db ∧
        (entries state.db.rangeByParentBlock 1 5).flatMap (·.paraRange) =
          [1, 1] := by
  refine ⟨evenSets_tame rfl (fun _ => by omega) (fun _ => by omega),
    evenSets_grandpa _, (walkMachine (Chain.evenSets (min 1))).ended
      (List.replicate 15 .proceed), ?_, ?_, rfl⟩
  · exact Machine.reaches_ended
      (fun _ _ member => List.eq_of_mem_replicate member) rfl
  · rintro ⟨_, -, hcoverage⟩
    obtain ⟨window, hstored⟩ := Option.isSome_iff_exists.mp
      (show (((walkMachine (Chain.evenSets (min 1))).ended
        (List.replicate 15 .proceed)).db.window 1).isSome = true from rfl)
    have hhanded := hcoverage.handed 1 window hstored
    cases hstored
    contradiction

end RuntimeBridge.DataProvider
