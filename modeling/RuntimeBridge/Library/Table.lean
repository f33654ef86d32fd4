import Mathlib.Data.List.Induction
import Mathlib.Data.List.Nodup

/-! Tables whose rows keep a constraint, and transactions whose lookups see the
state before the transaction. -/

namespace RuntimeBridge.Library

structure Table (Row : Type u) (Constraint : List Row → Prop) where
  rows : List Row
  sound : Constraint rows

namespace Table

variable {Row : Type u} {Constraint : List Row → Prop}
  {table : Table Row Constraint}

/-- A write that breaks the constraint fails. -/
def write [DecidablePred Constraint] (rows : List Row) :
    Option (Table Row Constraint) :=
  if h : Constraint rows then some { rows, sound := h } else none

theorem write_eq_some [DecidablePred Constraint] {rows : List Row} :
    write rows = some table ↔ table.rows = rows := by
  unfold write
  constructor
  · intro h
    split at h
    · cases h
      rfl
    · cases h
  · rintro rfl
    rw [dif_pos table.sound]

end Table

section

variable {State : Type u} {Item : Type v} {Out : Type w} {Error : Type x}
  {apply : State → State → Item → Except Error (State × List Out)}
  {committed current after : State} {outs : List Out}

/-- Every item is applied to the state that the earlier ones have left, but its
lookups see the state that was committed before. -/
def transact (apply : State → State → Item → Except Error (State × List Out))
    (committed : State) : State → List Item → Except Error (State × List Out)
  | current, [] => .ok (current, [])
  | current, item :: rest =>
      match apply committed current item with
      | .error e => .error e
      | .ok (next, outs) =>
          match transact apply committed next rest with
          | .error e => .error e
          | .ok (after, others) => .ok (after, outs ++ others)

/-- The items applied one after another, each seeing the earlier ones. -/
def oneByOne (apply : State → State → Item → Except Error (State × List Out)) :
    State → List Item → Except Error State
  | current, [] => .ok current
  | current, item :: rest =>
      match apply current current item with
      | .error e => .error e
      | .ok (next, _) => oneByOne apply next rest

theorem transact_cons {item : Item} {rest : List Item} :
    transact apply committed current (item :: rest) = .ok (after, outs) ↔
      ∃ next first others,
        apply committed current item = .ok (next, first) ∧
        transact apply committed next rest = .ok (after, others) ∧
        outs = first ++ others := by
  rw [transact]
  constructor
  · intro h
    split at h
    · cases h
    · next next first hitem =>
        split at h
        · cases h
        · next last others hrest =>
            cases h
            exact ⟨next, first, others, hitem, hrest, rfl⟩
  · rintro ⟨next, first, others, hitem, hrest, rfl⟩
    rw [hitem]
    simp only
    rw [hrest]

theorem transact_concat {item : Item} {earlier : List Item} :
    transact apply committed current (earlier ++ [item]) =
        .ok (after, outs) ↔
      ∃ next first others,
        transact apply committed current earlier = .ok (next, first) ∧
        apply committed next item = .ok (after, others) ∧
        outs = first ++ others := by
  induction earlier generalizing current outs with
  | nil =>
      rw [List.nil_append, transact_cons]
      constructor
      · rintro ⟨next, first, others, hitem, hrest, rfl⟩
        cases hrest
        exact ⟨current, [], first, rfl, hitem, List.append_nil _⟩
      · rintro ⟨next, first, others, hearlier, hitem, rfl⟩
        cases hearlier
        exact ⟨after, others, [], hitem, rfl, (List.append_nil _).symm⟩
  | cons head rest ih =>
      rw [List.cons_append, transact_cons]
      constructor
      · rintro ⟨next, first, others, hhead, hrest, rfl⟩
        obtain ⟨last, second, third, hearlier, hitem, rfl⟩ := ih.mp hrest
        exact ⟨last, first ++ second, third,
          transact_cons.mpr ⟨next, first, second, hhead, hearlier, rfl⟩, hitem,
          (List.append_assoc ..).symm⟩
      · rintro ⟨last, earlierOuts, third, hearlier, hitem, rfl⟩
        obtain ⟨next, first, second, hhead, hrest, rfl⟩ :=
          transact_cons.mp hearlier
        exact ⟨next, first, second ++ third, hhead,
          ih.mpr ⟨last, second, third, hrest, hitem, rfl⟩,
          List.append_assoc ..⟩

theorem oneByOne_cons {item : Item} {rest : List Item} :
    oneByOne apply current (item :: rest) = .ok after ↔
      ∃ next outs, apply current current item = .ok (next, outs) ∧
        oneByOne apply next rest = .ok after := by
  rw [oneByOne]
  constructor
  · intro h
    split at h
    · cases h
    · next next outs hitem => exact ⟨next, outs, hitem, h⟩
  · rintro ⟨next, outs, hitem, hrest⟩
    rw [hitem]
    exact hrest

theorem oneByOne_concat {item : Item} {earlier : List Item} :
    oneByOne apply current (earlier ++ [item]) = .ok after ↔
      ∃ next outs, oneByOne apply current earlier = .ok next ∧
        apply next next item = .ok (after, outs) := by
  induction earlier generalizing current with
  | nil =>
      rw [List.nil_append, oneByOne_cons]
      constructor
      · rintro ⟨next, outs, hitem, hrest⟩
        cases hrest
        exact ⟨current, outs, rfl, hitem⟩
      · rintro ⟨next, outs, hnone, hitem⟩
        cases hnone
        exact ⟨after, outs, hitem, rfl⟩
  | cons head rest ih =>
      rw [List.cons_append, oneByOne_cons]
      constructor
      · rintro ⟨next, outs, hhead, hrest⟩
        obtain ⟨last, others, hearlier, hitem⟩ := ih.mp hrest
        exact ⟨last, others, oneByOne_cons.mpr ⟨next, outs, hhead, hearlier⟩,
          hitem⟩
      · rintro ⟨last, others, hearlier, hitem⟩
        obtain ⟨next, outs, hhead, hrest⟩ := oneByOne_cons.mp hearlier
        exact ⟨next, outs, hhead, ih.mpr ⟨last, others, hrest, hitem⟩⟩

/-- What a transaction preserves, item by item. -/
theorem transact_preserves (property : State → Prop) {items : List Item}
    (preserved : ∀ current item after outs, item ∈ items → property current →
      apply committed current item = .ok (after, outs) → property after)
    (holds : property current)
    (h : transact apply committed current items = .ok (after, outs)) :
    property after := by
  induction items generalizing current outs with
  | nil =>
      cases h
      exact holds
  | cons item rest ih =>
      obtain ⟨next, first, others, hitem, hrest, -⟩ := transact_cons.mp h
      exact ih (fun current item after outs hmem =>
          preserved current item after outs (List.mem_cons_of_mem _ hmem))
        (preserved current item next first List.mem_cons_self holds hitem) hrest

/-- What a transaction preserves, and what then holds of all that it puts out. -/
theorem transact_yields (property : State → Prop) (good : Out → Prop)
    {items : List Item}
    (yields : ∀ current item after outs, item ∈ items → property current →
      apply committed current item = .ok (after, outs) →
        property after ∧ ∀ out ∈ outs, good out)
    (holds : property current)
    (h : transact apply committed current items = .ok (after, outs)) :
    property after ∧ ∀ out ∈ outs, good out := by
  induction items generalizing current outs with
  | nil =>
      cases h
      exact ⟨holds, List.forall_mem_nil _⟩
  | cons item rest ih =>
      obtain ⟨next, first, others, hitem, hrest, rfl⟩ := transact_cons.mp h
      obtain ⟨hnext, hfirst⟩ :=
        yields current item next first List.mem_cons_self holds hitem
      obtain ⟨hafter, hothers⟩ := ih (fun current item after outs hmem =>
        yields current item after outs (List.mem_cons_of_mem _ hmem)) hnext hrest
      exact ⟨hafter, List.forall_mem_append.mpr ⟨hfirst, hothers⟩⟩

theorem transact_outs_iff {good : Out → Prop} {fine : Item → Prop}
    (one : ∀ current item next outs,
      apply committed current item = .ok (next, outs) →
        ((∀ out ∈ outs, good out) ↔ fine item))
    {items : List Item}
    (h : transact apply committed current items = .ok (after, outs)) :
    (∀ out ∈ outs, good out) ↔ ∀ item ∈ items, fine item := by
  induction items generalizing current outs with
  | nil =>
      cases h
      exact iff_of_true (List.forall_mem_nil _) (List.forall_mem_nil _)
  | cons item rest ih =>
      obtain ⟨next, first, others, hitem, hrest, rfl⟩ := transact_cons.mp h
      rw [List.forall_mem_append, List.forall_mem_cons,
        one current item next first hitem, ih hrest]

/-- Items that write something move the state, and no item moves it back. -/
theorem transact_eq_committed_iff {idle : Item → Prop} (moved : State → Prop)
    (unmoved : ¬ moved committed)
    (kept : ∀ current item next outs, moved current →
      apply committed current item = .ok (next, outs) → moved next)
    (moves : ∀ item next outs,
      apply committed committed item = .ok (next, outs) →
        idle item ∧ next = committed ∨ ¬ idle item ∧ moved next)
    {items : List Item}
    (h : transact apply committed committed items = .ok (after, outs)) :
    after = committed ↔ ∀ item ∈ items, idle item := by
  induction items generalizing outs with
  | nil =>
      cases h
      exact iff_of_true rfl (List.forall_mem_nil _)
  | cons item rest ih =>
      obtain ⟨next, first, others, hitem, hrest, -⟩ := transact_cons.mp h
      rw [List.forall_mem_cons]
      rcases moves item next first hitem with ⟨hidle, rfl⟩ | ⟨hbusy, hmoved⟩
      · rw [ih hrest, and_iff_right hidle]
      · have hend : moved after := transact_preserves moved
          (fun current item next outs _ => kept current item next outs)
          hmoved hrest
        exact iff_of_false (fun heq => unmoved (heq ▸ hend))
          fun hall => hbusy hall.1

/-- A transaction and all its beginnings, as far as what they give back is good,
are what their items make one after another exactly when every item does to the
state that it is applied to what it would do if its lookups saw that state. -/
theorem transact_oneByOne_iff
    (apply : State → State → Item → Except Error (State × List Out))
    (committed : State) (items : List Item) (good : List Out → Prop)
    (beginning : ∀ outs others, good (outs ++ others) → good outs) :
    (∀ earlier later, items = earlier ++ later → ∀ after outs,
        transact apply committed committed earlier = .ok (after, outs) →
          good outs → oneByOne apply committed earlier = .ok after) ↔
      ∀ earlier item later, items = earlier ++ item :: later →
        ∀ current outs next others,
          transact apply committed committed earlier = .ok (current, outs) →
          apply committed current item = .ok (next, others) →
          good (outs ++ others) →
            ∃ seen, apply current current item = .ok (next, seen) := by
  constructor
  · intro h earlier item later hitems current outs next others hearlier hitem
      hgood
    have hbefore := h earlier (item :: later) hitems current outs hearlier
      (beginning outs others hgood)
    have hafter := h (earlier ++ [item]) later (by simp [hitems]) next
      (outs ++ others)
      (transact_concat.mpr ⟨current, outs, others, hearlier, hitem, rfl⟩) hgood
    obtain ⟨middle, seen, hmiddle, hseen⟩ := oneByOne_concat.mp hafter
    cases hbefore.symm.trans hmiddle
    exact ⟨seen, hseen⟩
  · intro h earlier
    induction earlier using List.reverseRecOn with
    | nil =>
        intro later _ after outs hempty _
        cases hempty
        rfl
    | append_singleton earlier item ih =>
        intro later hitems after outs htransact hgood
        have hsplit : items = earlier ++ item :: later := by simp [hitems]
        obtain ⟨current, first, others, hearlier, hitem, rfl⟩ :=
          transact_concat.mp htransact
        obtain ⟨seen, hseen⟩ := h earlier item later hsplit current first after
          others hearlier hitem hgood
        have hbefore := ih (item :: later) hsplit current first hearlier
          (beginning first others hgood)
        exact oneByOne_concat.mpr ⟨current, seen, hbefore, hseen⟩

end

section

variable {Row : Type u} {Key : Type v} [DecidableEq Key] {rows : List Row}
  {key : Row → Key} {first second : Row → Row} {one other : Key}

/-- Two writes of one row each leave the same rows if they write the same into
the same row, or nothing at all. -/
theorem map_write_eq_iff :
    (rows.map fun row => if key row = one then first row else row) =
        (rows.map fun row => if key row = other then second row else row) ↔
      one = other ∧ (∀ row ∈ rows, key row = one → first row = second row) ∨
        one ≠ other ∧ (∀ row ∈ rows, key row = one → first row = row) ∧
          ∀ row ∈ rows, key row = other → second row = row := by
  rw [List.map_inj_left]
  rcases eq_or_ne one other with rfl | hne
  · rw [or_iff_left fun h => h.1 rfl]
    constructor
    · intro h
      refine ⟨rfl, fun row hrow hkey => ?_⟩
      have heq := h row hrow
      rwa [if_pos hkey, if_pos hkey] at heq
    · rintro ⟨-, h⟩ row hrow
      split
      · next hkey => exact h row hrow hkey
      · rfl
  · rw [or_iff_right fun h => hne h.1]
    constructor
    · intro h
      refine ⟨hne, fun row hrow hkey => ?_, fun row hrow hkey => ?_⟩
      · have heq := h row hrow
        rwa [if_pos hkey, if_neg (hkey ▸ hne)] at heq
      · have heq := h row hrow
        rw [if_pos hkey, if_neg (hkey ▸ hne.symm)] at heq
        exact heq.symm
    · rintro ⟨-, hfirst, hsecond⟩ row hrow
      split
      · next hkey => rw [if_neg (hkey ▸ hne), hfirst row hrow hkey]
      · split
        · next hkey => exact (hsecond row hrow hkey).symm
        · rfl

/-- The second write goes into a stored row, whose key no other row has. -/
theorem map_write_found_iff (key : Row → Key) {found : Row} (nodup : (rows.map key).Nodup)
    (hfound : found ∈ rows) :
    (rows.map fun row => if key row = one then first row else row) =
        (rows.map fun row => if key row = key found then second row else row) ↔
      key found = one ∧ first found = second found ∨
        key found ≠ one ∧ second found = found ∧
          ∀ row ∈ rows, key row = one → first row = row := by
  have honly : ∀ row ∈ rows, key row = key found → row = found :=
    fun row hrow => List.inj_on_of_nodup_map nodup hrow hfound
  rw [map_write_eq_iff, @eq_comm _ one]
  refine or_congr (and_congr_right fun heq => ?_) (and_congr ne_comm ?_)
  · constructor
    · intro hsame
      exact hsame found hfound heq
    · intro hsame row hrow hkey
      cases honly row hrow (hkey.trans heq.symm)
      exact hsame
  · rw [and_comm]
    refine and_congr_left fun _ => ?_
    constructor
    · intro hsame
      exact hsame found hfound rfl
    · intro hsame row hrow hkey
      cases honly row hrow hkey
      exact hsame

/-- Deleting a stored row is undone by deleting no other. -/
theorem filter_key_eq_iff {row : Row} (hrow : row ∈ rows) :
    rows.filter (fun other => key other ≠ one) =
        rows.filter (fun other => key other ≠ key row) ↔ one = key row := by
  constructor
  · intro h
    by_contra hne
    have hmem : row ∈ rows.filter (fun other => key other ≠ one) :=
      List.mem_filter.mpr ⟨hrow, decide_eq_true (Ne.symm hne)⟩
    rw [h] at hmem
    exact of_decide_eq_true (List.mem_filter.mp hmem).2 rfl
  · rintro rfl
    rfl

end

end RuntimeBridge.Library
