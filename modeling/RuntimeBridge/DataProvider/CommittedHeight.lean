import RuntimeBridge.DataProvider.WalkPosition

/-! The heights that the window loop reports with `setParentCommittedHeight`:
no record at or below one of them is written again. -/

namespace RuntimeBridge.DataProvider

open Library

variable {chain : Chain} {count next : Nat} {state before after : WalkState}

theorem Steps.past_le (h : Steps chain count next before after) :
    chain.past before.db count ≤ chain.past after.db next := by
  rw [← h.frame.past]
  rcases h.next_eq with rfl | rfl
  · exact Nat.le_refl _
  · exact h.place.windows.past_mono (Nat.le_succ count) (Nat.le_refl _)

theorem Steps.heights_lt (h : Steps chain count next before after)
    (hheights : ∀ height ∈ before.committedHeights,
      height < chain.past before.db count) :
    ∀ height ∈ after.committedHeights,
      height < chain.past after.db next := by
  have hpast := h.past_le
  intro height hmem
  rcases h.reports with heq | ⟨reported, heq, hreported⟩
  · rw [heq] at hmem
    have := hheights height hmem
    omega
  · rw [heq] at hmem
    rcases List.mem_append.mp hmem with hmem | hmem
    · have := hheights height hmem
      omega
    · cases List.mem_singleton.mp hmem
      exact hreported

/-- What is reported lies before the window that the loop is at. -/
def HeightsBehind (chain : Chain) (state : WalkState) : Prop :=
  ∃ count, PlaceOk chain count state.db state.proc ∧
    ∀ height ∈ state.committedHeights, height < chain.past state.db count

theorem heightsBehind_preserved (chain : Chain) :
    (walkMachine chain).Preserves Machine.anyEvent (HeightsBehind chain) := by
  intro before event after _ hbefore htaken
  obtain ⟨count, hplace, hheights⟩ := hbefore
  cases event with
  | proceed =>
      cases Option.some.inj htaken
      obtain ⟨next, hsteps⟩ := walkStep_steps hplace
      exact ⟨next, hsteps.place, hsteps.heights_lt hheights⟩
  | crash =>
      cases Option.some.inj htaken
      exact ⟨count, placeOk_restart hplace, hheights⟩

theorem heightsBehind_reachable (h : (walkMachine chain).Reachable state) :
    HeightsBehind chain state := by
  refine (heightsBehind_preserved chain).reaches ?_ h
  exact ⟨0, placeOk_empty chain, fun height hmem => by cases hmem⟩

/-- The loop is past `bound`, and the records before it are `ranges`. -/
def SettledBelow (chain : Chain) (bound : Nat)
    (ranges : Nat → Option RangeMeta) (state : WalkState) : Prop :=
  ∃ count, PlaceOk chain count state.db state.proc ∧
    bound ≤ chain.past state.db count ∧
    ∀ number, number < bound →
      state.db.rangeByParentBlock number = ranges number

theorem settledBelow_preserved (chain : Chain) (bound : Nat)
    (ranges : Nat → Option RangeMeta) :
    (walkMachine chain).Preserves Machine.anyEvent
      (SettledBelow chain bound ranges) := by
  intro before event after _ hbefore htaken
  obtain ⟨count, hplace, hbound, hranges⟩ := hbefore
  cases event with
  | proceed =>
      cases Option.some.inj htaken
      obtain ⟨next, hsteps⟩ := walkStep_steps hplace
      refine ⟨next, hsteps.place, Nat.le_trans hbound hsteps.past_le, ?_⟩
      intro number hlt
      rw [hsteps.frame.ranges number (by omega)]
      exact hranges number hlt
  | crash =>
      cases Option.some.inj htaken
      exact ⟨count, placeOk_restart hplace, hbound, hranges⟩

/-- A record at or below a reported height stays as it is. -/
theorem record_settled {number : Nat} {height : Int}
    (hbehind : HeightsBehind chain before)
    (hleads : (walkMachine chain).Leads Machine.anyEvent before after)
    (hmem : height ∈ before.committedHeights) (hle : (number : Int) ≤ height) :
    after.db.rangeByParentBlock number =
      before.db.rangeByParentBlock number := by
  obtain ⟨count, hplace, hheights⟩ := hbehind
  have hlt := hheights height hmem
  have hsettled : SettledBelow chain (chain.past before.db count)
      before.db.rangeByParentBlock before :=
    ⟨count, hplace, Nat.le_refl _, fun _ _ => rfl⟩
  obtain ⟨-, -, -, hranges⟩ :=
    (settledBelow_preserved chain _ _).leads hsettled hleads
  exact hranges number (by omega)

end RuntimeBridge.DataProvider
