import RuntimeBridge.DataProvider.RangeRecord

/-! The two indexes of the stored ranges, over every run of the window loop and
every crash in it. -/

namespace RuntimeBridge.DataProvider

open Library

def WindowDb.getRangeByParentNumber (db : WindowDb) (number : Nat) :
    Option RangeMeta :=
  db.rangeByParentBlock number

/-- Nothing is stored under a negative number. -/
def WindowDb.getRangeByParaNumber (db : WindowDb) (number : Int) :
    Option RangeMeta :=
  match number with
  | .ofNat number => db.rangeByParaBlock number
  | .negSucc _ => none

structure RangeIndexesAgree (db : WindowDb) : Prop where
  same : ∀ first rangeMeta, db.getRangeByParentNumber first = some rangeMeta →
    rangeMeta.paraRange ≠ [] →
      db.getRangeByParaNumber rangeMeta.paraStartBlock =
        db.getRangeByParentNumber rangeMeta.parentStartBlock
  only : ∀ number, db.getRangeByParaNumber number ≠ none →
    ∃ first rangeMeta, db.getRangeByParentNumber first = some rangeMeta ∧
      rangeMeta.paraStartBlock = number

/-- The record that the visit of the next block writes. -/
def Walk.newRange (chain : Chain) (db : WindowDb) (walk : Walk) :
    Option RangeMeta :=
  let currParentBlock := chain.parent walk.parentNumber
  let context := walk.context.push currParentBlock (chain.para walk.paraNumber)
  let paraStartBlock : Int :=
    if context.paraBlocks.isEmpty then -1 else context.paraStartBlock
  if currParentBlock.hasJustification = true ∧
      db.rangeWritten (WindowDb.dryRangeKey context.parentStartBlock
        paraStartBlock context.paraBlocks currParentBlock) = false then
    some (WindowDb.dryRangeMeta context.parentStartBlock paraStartBlock
      context.paraBlocks context.parentBlocks currParentBlock
      currParentBlock.setId)
  else none

/-- The blocks whose records `commitBlobRange` rewrites. -/
def Visit.pointed (db : WindowDb) (visit : Visit) : List ParentBlock :=
  if setIdChanged visit.currParentBlock visit.lastParentBlock then
    match closeWindow visit with
    | some window =>
        if db.blobRangeCommitted
            (WindowDb.blobRangeKey window visit.context.accParaBlocks) then []
        else visit.context.accParentBlocks
    | none => []
  else []

/-- A range is written only where the para chain has reached the height of the
relay chain, and no stored range is given its blob fields. -/
def Proc.keepsIndexes (chain : Chain) (db : WindowDb) : Proc → Prop
  | .block walk => ∀ rangeMeta ∈ walk.newRange chain db,
      rangeMeta.paraRange ≠ [] ∧
        rangeMeta.paraStartBlock = rangeMeta.parentStartBlock
  | .visited visit => ∀ block ∈ visit.pointed db,
      db.rangeByParentBlock block.number = none
  | _ => True

def keepsIndexes (chain : Chain) (state : WalkState) : WalkEvent → Prop
  | .proceed => state.proc.keepsIndexes chain state.db
  | .crash => True

instance (chain : Chain) (db : WindowDb) (proc : Proc) :
    Decidable (proc.keepsIndexes chain db) :=
  match proc with
  | .block walk => inferInstanceAs (Decidable
      (∀ rangeMeta ∈ walk.newRange chain db, rangeMeta.paraRange ≠ [] ∧
        rangeMeta.paraStartBlock = rangeMeta.parentStartBlock))
  | .visited visit => inferInstanceAs (Decidable
      (∀ block ∈ visit.pointed db, db.rangeByParentBlock block.number = none))
  | .next .. | .mark .. | .close _ | .commit _ | .exited => .isTrue trivial

instance (chain : Chain) (state : WalkState) (event : WalkEvent) :
    Decidable (keepsIndexes chain state event) :=
  match event with
  | .proceed =>
      inferInstanceAs (Decidable (state.proc.keepsIndexes chain state.db))
  | .crash => .isTrue trivial

def RangeMeta.dry (rangeMeta : RangeMeta) : RangeMeta :=
  { rangeMeta with
    blobParentStopBlock := none
    blobParaStopBlock := none
    blobSyncHeaderReqKey := none }

/-- The second index holds the records of the first, as they were written, under
the keys of the first. -/
structure Indexed (db : WindowDb) : Prop where
  para : ∀ first, db.rangeByParaBlock first =
    (db.rangeByParentBlock first).map RangeMeta.dry
  parentStart : ∀ first rangeMeta,
    db.rangeByParentBlock first = some rangeMeta →
      rangeMeta.parentStartBlock = first
  paraStart : ∀ first rangeMeta,
    db.rangeByParentBlock first = some rangeMeta →
      rangeMeta.paraRange = [] ∧ rangeMeta.paraStartBlock = -1 ∨
        rangeMeta.paraRange ≠ [] ∧
          ∃ number : Nat, rangeMeta.paraStartBlock = number

/-- Both indexes are written under the parent start, or neither. -/
def RangeWritten (db written : WindowDb) : Option RangeMeta → Prop
  | some rangeMeta =>
      written.rangeByParentBlock = Function.update db.rangeByParentBlock
          rangeMeta.parentStartBlock (some rangeMeta) ∧
        written.rangeByParaBlock = Function.update db.rangeByParaBlock
          rangeMeta.parentStartBlock (some rangeMeta)
  | none =>
      written.rangeByParentBlock = db.rangeByParentBlock ∧
        written.rangeByParaBlock = db.rangeByParaBlock

/-- A record that both indexes can give back. -/
structure RangeMeta.Plain (rangeMeta : RangeMeta) : Prop where
  packs : rangeMeta.paraRange ≠ []
  aligned : rangeMeta.paraStartBlock = rangeMeta.parentStartBlock
  dry : rangeMeta.dry = rangeMeta

variable {chain : Chain} {db written : WindowDb} {walk : Walk} {visit : Visit}

theorem agree_iff_plain (h : Indexed db) :
    RangeIndexesAgree db ↔
      ∀ first rangeMeta, db.rangeByParentBlock first = some rangeMeta →
        rangeMeta.Plain := by
  constructor
  · intro hagree
    have hplain : ∀ first rangeMeta,
        db.rangeByParentBlock first = some rangeMeta →
          rangeMeta.paraRange ≠ [] → rangeMeta.Plain := by
      intro first rangeMeta hstored hpacks
      have hfirst := h.parentStart first rangeMeta hstored
      obtain ⟨hempty, -⟩ | ⟨-, number, hnumber⟩ :=
        h.paraStart first rangeMeta hstored
      · exact absurd hempty hpacks
      · have hsame := hagree.same first rangeMeta hstored hpacks
        rw [hnumber, hfirst] at hsame
        change db.rangeByParaBlock number = db.rangeByParentBlock first at hsame
        rw [h.para, hstored, Option.map_eq_some_iff] at hsame
        obtain ⟨other, hother, hdry⟩ := hsame
        have hnumber' : number = first :=
          (h.parentStart number other hother).symm.trans
            ((congrArg (·.parentStartBlock) hdry).trans hfirst)
        subst hnumber'
        cases hstored.symm.trans hother
        exact ⟨hpacks, by rw [hnumber, hfirst], hdry⟩
    intro first rangeMeta hstored
    refine hplain first rangeMeta hstored ?_
    have hindexed : db.getRangeByParaNumber first ≠ none := by
      change db.rangeByParaBlock first ≠ none
      rw [h.para, hstored]
      exact Option.some_ne_none _
    obtain ⟨other, found, hfound, hstart⟩ := hagree.only first hindexed
    obtain ⟨-, hnone⟩ | ⟨hpacks, -⟩ := h.paraStart other found hfound
    · rw [hnone] at hstart
      cases hstart
    · have haligned := (hplain other found hfound hpacks).aligned
      rw [hstart, h.parentStart other found hfound] at haligned
      cases Int.ofNat.inj haligned
      cases hstored.symm.trans hfound
      exact hpacks
  · intro hplain
    refine ⟨fun first rangeMeta
        (hstored : db.rangeByParentBlock first = some rangeMeta) _ => ?_,
      fun number hindexed => ?_⟩
    · have haligned := (hplain first rangeMeta hstored).aligned
      rw [haligned, h.parentStart first rangeMeta hstored]
      change db.rangeByParaBlock first = db.rangeByParentBlock first
      rw [h.para, hstored, Option.map_some, (hplain first rangeMeta hstored).dry]
    · cases number with
      | ofNat first =>
          change db.rangeByParaBlock first ≠ none at hindexed
          rw [h.para, ne_eq, Option.map_eq_none_iff] at hindexed
          obtain ⟨rangeMeta, hstored⟩ := Option.ne_none_iff_exists'.mp hindexed
          refine ⟨first, rangeMeta, hstored, ?_⟩
          rw [(hplain first rangeMeta hstored).aligned,
            h.parentStart first rangeMeta hstored]
          rfl
      | negSucc number => exact absurd rfl hindexed

theorem push_getLast? (context : Context) (parent : ParentBlock)
    (para : ParaBlock) :
    (context.push parent para).parentBlocks.getLast? = some parent := by
  unfold Context.push
  split <;> exact List.getLast?_concat

theorem setDryRange_ranges {parentStartBlock latestSetId : Nat}
    {paraStartBlock : Int} {paraBlocks : List ParaBlock}
    {parentBlocks : List ParentBlock} {parentStop : ParentBlock}
    {changed : Bool} (hlast : parentBlocks.getLast? = some parentStop)
    (h : db.setDryRange parentStartBlock paraStartBlock paraBlocks parentBlocks
      latestSetId changed = some written) :
    RangeWritten db written
      (if db.rangeWritten (WindowDb.dryRangeKey parentStartBlock paraStartBlock
          paraBlocks parentStop) = false then
        some (WindowDb.dryRangeMeta parentStartBlock paraStartBlock paraBlocks
          parentBlocks parentStop latestSetId)
      else none) := by
  simp only [WindowDb.setDryRange, hlast, Option.bind_eq_bind,
    Option.bind_some] at h
  split at h
  · next hmarked =>
      cases h
      rw [if_neg (ne_of_eq_of_ne hmarked Bool.noConfusion)]
      exact ⟨rfl, rfl⟩
  · next hunmarked =>
      cases h
      rw [if_pos (Bool.eq_false_iff.mpr hunmarked)]
      exact ⟨rfl, rfl⟩

theorem visitBlock_ranges
    (h : visitBlock chain db walk = some (written, visit)) :
    RangeWritten db written (walk.newRange chain db) := by
  simp only [visitBlock] at h
  unfold Walk.newRange
  split at h
  · next hjustified =>
      simp only [Option.bind_eq_bind, Option.bind_eq_some_iff] at h
      obtain ⟨after, hafter, hvisit⟩ := h
      cases hvisit
      simp only [hjustified, true_and]
      exact setDryRange_ranges (push_getLast? ..) hafter
  · next hunjustified =>
      cases h
      rw [if_neg fun hnew => hunjustified hnew.1]
      exact ⟨rfl, rfl⟩

theorem finishVisit_ranges {proc : Proc}
    (h : finishVisit db visit = some (written, proc)) :
    written.rangeByParaBlock = db.rangeByParaBlock ∧
      ∃ key, ∀ number, written.rangeByParentBlock number =
        if number ∈ (visit.pointed db).map (·.number) then
          (db.rangeByParentBlock number).map (WindowDb.pointToBlob key)
        else db.rangeByParentBlock number := by
  simp only [finishVisit] at h
  unfold Visit.pointed
  split at h
  · next hgrows =>
      rw [if_pos hgrows]
      simp only [Option.bind_eq_bind, Option.bind_eq_some_iff] at h
      obtain ⟨window, hwindow, after, hafter, h⟩ := h
      have hwritten : written = after := by
        split at h <;> cases h <;> rfl
      subst hwritten
      rw [hwindow]
      simp only [WindowDb.commitBlobRange] at hafter
      split at hafter
      · next hcommitted =>
          cases hafter
          simp only [hcommitted, if_true, List.map_nil, List.not_mem_nil,
            if_false]
          exact ⟨trivial, WindowDb.blobRangeKey window [], fun _ => trivial⟩
      · next hfresh =>
          simp only [Option.bind_eq_bind, Option.bind_eq_some_iff] at hafter
          obtain ⟨parentStop, -, hafter⟩ := hafter
          cases hafter
          simp only [Bool.eq_false_iff.mpr hfresh, Bool.false_eq_true, if_false]
          exact ⟨trivial, _, fun number => WindowDb.pointRanges_apply _ number⟩
  · next hsame =>
      rw [if_neg hsame]
      have hranges : written.rangeByParaBlock = db.rangeByParaBlock ∧
          written.rangeByParentBlock = db.rangeByParentBlock := by
        split at h <;> cases h <;> exact ⟨rfl, rfl⟩
      rw [hranges.1, hranges.2]
      simp only [List.map_nil, List.not_mem_nil, if_false]
      exact ⟨trivial, WindowDb.blobRangeKey visit.currentWindow [],
        fun _ => trivial⟩

theorem newRange_paraStart {rangeMeta : RangeMeta}
    (h : walk.newRange chain db = some rangeMeta) :
    rangeMeta.dry = rangeMeta ∧
      (rangeMeta.paraRange = [] ∧ rangeMeta.paraStartBlock = -1 ∨
        rangeMeta.paraRange ≠ [] ∧
          ∃ number : Nat, rangeMeta.paraStartBlock = number) := by
  unfold Walk.newRange at h
  simp only [Option.ite_none_right_eq_some, Option.some.injEq] at h
  obtain ⟨-, rfl⟩ := h
  refine ⟨rfl, ?_⟩
  simp only [WindowDb.dryRangeMeta]
  rcases List.eq_nil_or_concat (walk.context.push
      (chain.parent walk.parentNumber)
      (chain.para walk.paraNumber)).paraBlocks with hempty | ⟨_, _, hpacks⟩
  · rw [hempty]
    exact Or.inl ⟨rfl, rfl⟩
  · rw [hpacks]
    exact Or.inr ⟨by simp, (walk.context.push (chain.parent walk.parentNumber)
      (chain.para walk.paraNumber)).paraStartBlock, by simp⟩

theorem Indexed.newRange {rangeMeta : RangeMeta} (h : Indexed db)
    (hnew : walk.newRange chain db = some rangeMeta)
    (hwritten : RangeWritten db written (some rangeMeta)) :
    Indexed written := by
  obtain ⟨hparent, hpara⟩ := hwritten
  obtain ⟨hdry, hstart⟩ := newRange_paraStart hnew
  constructor
  · intro first
    rw [hparent, hpara]
    rcases eq_or_ne first rangeMeta.parentStartBlock with rfl | hne
    · rw [Function.update_self, Function.update_self, Option.map_some, hdry]
    · rw [Function.update_of_ne hne, Function.update_of_ne hne]
      exact h.para first
  · rw [hparent]
    refine update_forall h.parentStart fun other hother => ?_
    cases hother
    rfl
  · rw [hparent]
    refine update_forall h.paraStart fun other hother => ?_
    cases hother
    exact hstart

theorem Indexed.unchanged (h : Indexed db)
    (hparent : written.rangeByParentBlock = db.rangeByParentBlock)
    (hpara : written.rangeByParaBlock = db.rangeByParaBlock) :
    Indexed written where
  para := by
    rw [hparent, hpara]
    exact h.para
  parentStart := by
    rw [hparent]
    exact h.parentStart
  paraStart := by
    rw [hparent]
    exact h.paraStart

theorem Indexed.pointed {key : RangeKey} {numbers : List Nat} (h : Indexed db)
    (hpara : written.rangeByParaBlock = db.rangeByParaBlock)
    (hparent : ∀ number, written.rangeByParentBlock number =
      if number ∈ numbers then
        (db.rangeByParentBlock number).map (WindowDb.pointToBlob key)
      else db.rangeByParentBlock number) :
    Indexed written := by
  have hold : ∀ first rangeMeta,
      written.rangeByParentBlock first = some rangeMeta →
        ∃ old, db.rangeByParentBlock first = some old ∧
          (rangeMeta = old ∨ rangeMeta = WindowDb.pointToBlob key old) := by
    intro first rangeMeta hstored
    rw [hparent] at hstored
    split at hstored
    · obtain ⟨old, hold, rfl⟩ := Option.map_eq_some_iff.mp hstored
      exact ⟨old, hold, Or.inr rfl⟩
    · exact ⟨rangeMeta, hstored, Or.inl rfl⟩
  constructor
  · intro first
    rw [hpara, hparent, h.para]
    split
    · rw [Option.map_map]
      rfl
    · rfl
  · intro first rangeMeta hstored
    obtain ⟨old, hold, rfl | rfl⟩ := hold first rangeMeta hstored
    · exact h.parentStart first rangeMeta hold
    · exact h.parentStart first old hold
  · intro first rangeMeta hstored
    obtain ⟨old, hold, rfl | rfl⟩ := hold first rangeMeta hstored
    · exact h.paraStart first rangeMeta hold
    · exact h.paraStart first old hold

theorem setDryRange_isSome (db : WindowDb)
    (parentStartBlock latestSetId : Nat) (paraStartBlock : Int)
    (paraBlocks : List ParaBlock) {parentBlocks : List ParentBlock}
    {parentStop : ParentBlock} (changed : Bool)
    (hlast : parentBlocks.getLast? = some parentStop) :
    ∃ written, db.setDryRange parentStartBlock paraStartBlock paraBlocks
      parentBlocks latestSetId changed = some written := by
  simp only [WindowDb.setDryRange, hlast, Option.bind_eq_bind, Option.bind_some]
  split
  · exact ⟨db, rfl⟩
  · exact ⟨_, rfl⟩

theorem visitBlock_isSome (chain : Chain) (db : WindowDb) (walk : Walk) :
    ∃ written visit, visitBlock chain db walk = some (written, visit) := by
  simp only [visitBlock]
  split
  · obtain ⟨written, hwritten⟩ := setDryRange_isSome db
      (walk.context.push (chain.parent walk.parentNumber)
        (chain.para walk.paraNumber)).parentStartBlock _ _ _ _
      (push_getLast? ..)
    simp only [Context.setDryRange, Option.bind_eq_bind]
    rw [hwritten]
    exact ⟨_, _, rfl⟩
  · exact ⟨_, _, rfl⟩

theorem pointed_of_finishVisit_none (h : finishVisit db visit = none) :
    visit.pointed db = [] := by
  simp only [finishVisit] at h
  unfold Visit.pointed
  split at h
  · next hgrows =>
      rw [if_pos hgrows]
      cases hwindow : closeWindow visit with
      | none => rfl
      | some window =>
          simp only
          split
          · rfl
          · next hfresh =>
              cases hlast : visit.context.accParentBlocks.getLast? with
              | none => exact List.getLast?_eq_none_iff.mp hlast
              | some parentStop =>
                  simp only [hwindow, WindowDb.commitBlobRange, hfresh, hlast,
                    Option.bind_eq_bind, Option.bind_some] at h
                  cases h
  · next hsame => rw [if_neg hsame]

theorem walkWindow_ranges {before after : WalkState} {windowId : Nat}
    {lastWindow : Option Window}
    (h : walkWindow chain before windowId lastWindow = some after) :
    RangeWritten before.db after.db none := by
  simp only [walkWindow] at h
  split at h
  · split at h <;> cases h <;> exact ⟨rfl, rfl⟩
  · obtain ⟨_, -, h⟩ := Option.bind_eq_some_iff.mp h
    cases h
    exact ⟨rfl, rfl⟩

theorem walkMachine_ranges {before after : WalkState} {event : WalkEvent}
    (taken : (walkMachine chain).step before event = some after) :
    (∃ walk, event = .proceed ∧ before.proc = .block walk ∧
        RangeWritten before.db after.db (walk.newRange chain before.db)) ∨
      (∃ visit key, event = .proceed ∧ before.proc = .visited visit ∧
        after.db.rangeByParaBlock = before.db.rangeByParaBlock ∧
        ∀ number, after.db.rangeByParentBlock number =
          if number ∈ (visit.pointed before.db).map (·.number) then
            (before.db.rangeByParentBlock number).map
              (WindowDb.pointToBlob key)
          else before.db.rangeByParentBlock number) ∨
      keepsIndexes chain before event ∧
        RangeWritten before.db after.db none := by
  cases event with
  | crash =>
      cases taken
      exact Or.inr (Or.inr ⟨trivial, rfl, rfl⟩)
  | proceed =>
      have hafter : walkStep chain before = after := Option.some.inj taken
      subst hafter
      unfold keepsIndexes Proc.keepsIndexes walkStep
      cases hproc : before.proc with
      | block walk =>
          obtain ⟨written, visit, hvisit⟩ := visitBlock_isSome chain before.db walk
          refine Or.inl ⟨walk, rfl, rfl, ?_⟩
          simp only [hvisit]
          exact visitBlock_ranges hvisit
      | visited visit =>
          refine Or.inr (Or.inl ?_)
          simp only
          cases hfinish : finishVisit before.db visit with
          | none =>
              refine ⟨visit, WindowDb.blobRangeKey visit.currentWindow [],
                trivial, rfl, rfl, fun number => ?_⟩
              rw [pointed_of_finishVisit_none hfinish, List.map_nil,
                if_neg List.not_mem_nil]
          | some result =>
              obtain ⟨hpara, key, hparent⟩ := finishVisit_ranges hfinish
              exact ⟨visit, key, trivial, rfl, hpara, hparent⟩
      | next windowId lastWindow =>
          refine Or.inr (Or.inr ⟨trivial, ?_⟩)
          simp only
          cases hwalk : walkWindow chain before windowId lastWindow with
          | none => exact ⟨rfl, rfl⟩
          | some after => exact walkWindow_ranges hwalk
      | mark window key => exact Or.inr (Or.inr ⟨trivial, rfl, rfl⟩)
      | close window => exact Or.inr (Or.inr ⟨trivial, rfl, rfl⟩)
      | commit window => exact Or.inr (Or.inr ⟨trivial, rfl, rfl⟩)
      | exited => exact Or.inr (Or.inr ⟨trivial, rfl, rfl⟩)

theorem indexed_step {before after : WalkState} {event : WalkEvent}
    (h : Indexed before.db)
    (taken : (walkMachine chain).step before event = some after) :
    Indexed after.db := by
  rcases walkMachine_ranges taken with ⟨walk, -, -, hwritten⟩ |
    ⟨visit, key, -, -, hpara, hparent⟩ | ⟨-, hparent, hpara⟩
  · cases hnew : walk.newRange chain before.db with
    | some rangeMeta =>
        rw [hnew] at hwritten
        exact h.newRange hnew hwritten
    | none =>
        rw [hnew] at hwritten
        exact h.unchanged hwritten.1 hwritten.2
  · exact h.pointed hpara hparent
  · exact h.unchanged hparent hpara

theorem plain_newRange_iff {rangeMeta : RangeMeta}
    (hplain : ∀ first other, db.rangeByParentBlock first = some other →
      other.Plain)
    (hwritten : RangeWritten db written (some rangeMeta)) :
    (∀ first other, written.rangeByParentBlock first = some other →
        other.Plain) ↔ rangeMeta.Plain := by
  constructor
  · intro h
    refine h rangeMeta.parentStartBlock rangeMeta ?_
    rw [hwritten.1, Function.update_self]
  · intro hnew
    rw [hwritten.1]
    refine update_forall hplain fun other hother => ?_
    cases hother
    exact hnew

theorem plain_pointed_iff {key : RangeKey} {numbers : List Nat}
    (hplain : ∀ first other, db.rangeByParentBlock first = some other →
      other.Plain)
    (hparent : ∀ number, written.rangeByParentBlock number =
      if number ∈ numbers then
        (db.rangeByParentBlock number).map (WindowDb.pointToBlob key)
      else db.rangeByParentBlock number) :
    (∀ first other, written.rangeByParentBlock first = some other →
        other.Plain) ↔
      ∀ number ∈ numbers, db.rangeByParentBlock number = none := by
  constructor
  · intro h number hmem
    cases hstored : db.rangeByParentBlock number with
    | none => rfl
    | some rangeMeta =>
        have hpointed := hparent number
        rw [if_pos hmem, hstored] at hpointed
        have hdry := (h number _ hpointed).dry
        cases congrArg (·.blobSyncHeaderReqKey) hdry
  · intro hnone first other hstored
    rw [hparent] at hstored
    split at hstored
    · next hmem =>
        rw [hnone first hmem] at hstored
        cases hstored
    · exact hplain first other hstored

/-- A step keeps the agreement of the indexes exactly when the range it writes
starts at one height on both chains, and it gives no stored range its blob. -/
theorem agree_step_iff {before after : WalkState} {event : WalkEvent}
    (h : Indexed before.db) (hagree : RangeIndexesAgree before.db)
    (taken : (walkMachine chain).step before event = some after) :
    RangeIndexesAgree after.db ↔ keepsIndexes chain before event := by
  have hplain := (agree_iff_plain h).mp hagree
  rw [agree_iff_plain (indexed_step h taken)]
  rcases walkMachine_ranges taken with ⟨walk, rfl, hproc, hwritten⟩ |
    ⟨visit, key, rfl, hproc, -, hparent⟩ | ⟨hkeeps, hparent, -⟩
  · change _ ↔ before.proc.keepsIndexes chain before.db
    rw [hproc, Proc.keepsIndexes]
    cases hnew : walk.newRange chain before.db with
    | some rangeMeta =>
        rw [hnew] at hwritten
        rw [plain_newRange_iff hplain hwritten]
        constructor
        · rintro hrange _ ⟨⟩
          exact ⟨hrange.packs, hrange.aligned⟩
        · intro hkeeps
          obtain ⟨hpacks, haligned⟩ := hkeeps rangeMeta rfl
          exact ⟨hpacks, haligned, (newRange_paraStart hnew).1⟩
    | none =>
        rw [hnew] at hwritten
        rw [hwritten.1]
        exact iff_of_true hplain fun _ hmem => by cases hmem
  · change _ ↔ before.proc.keepsIndexes chain before.db
    rw [hproc, Proc.keepsIndexes, plain_pointed_iff hplain hparent,
      List.forall_mem_map]
  · rw [hparent]
    exact iff_of_true hplain hkeeps

theorem indexed_empty : Indexed .empty where
  para _ := rfl
  parentStart _ _ h := by cases h
  paraStart _ _ h := by cases h

theorem agree_empty : RangeIndexesAgree .empty where
  same _ _ h := by cases h
  only number h := by cases number <;> exact absurd rfl h

/-- While every range starts at one height on both chains and none has got its
blob fields, the two indexes agree.  Any other write of a range ends that. -/
theorem range_indexes_agree (chain : Chain) (state : WalkState)
    (h : (walkMachine chain).Reaches (keepsIndexes chain) state) :
    RangeIndexesAgree state.db ∧
      ∀ event after, (walkMachine chain).step state event = some after →
        (RangeIndexesAgree after.db ↔ keepsIndexes chain state event) := by
  have hpreserved : (walkMachine chain).Preserves (keepsIndexes chain)
      fun state => Indexed state.db ∧ RangeIndexesAgree state.db := by
    intro before event after hkeeps hbefore taken
    exact ⟨indexed_step hbefore.1 taken,
      (agree_step_iff hbefore.1 hbefore.2 taken).mpr hkeeps⟩
  obtain ⟨hindexed, hagree⟩ :=
    hpreserved.reaches ⟨indexed_empty, agree_empty⟩ h
  exact ⟨hagree, fun event after => agree_step_iff hindexed hagree⟩

/-- The relay chain is the given number of blocks ahead of the para chain, and
every relay block is justified. -/
def aheadBy (blocks : Nat) : Chain :=
  Chain.fetched { paraNumber := 0, parentNumber := blocks } fun number =>
    { header := [], justifications := some [(FRNK, [])]
      setId := 0, paraNumber := number - blocks, paraProof := []
      authoritySet := [] }

/-- On chains of one height the first range is stored under 1. -/
theorem range_indexes_agree_level :
    RangeIndexesAgree ((walkMachine (aheadBy 0)).endedIf
        (fun state event => decide (keepsIndexes (aheadBy 0) state event))
        [.proceed, .proceed]).db ∧
      (((walkMachine (aheadBy 0)).endedIf
        (fun state event => decide (keepsIndexes (aheadBy 0) state event))
        [.proceed, .proceed]).db.getRangeByParaNumber 1).isSome = true :=
  ⟨(range_indexes_agree (aheadBy 0) _
    (Machine.reaches_endedIf (fun _ _ h => of_decide_eq_true h)
      (by decide +kernel))).1, by decide +kernel⟩

/-- The first range is stored under relay block 11 in both indexes. -/
theorem range_indexes_apart :
    ¬ ∀ chain state, (walkMachine chain).Reachable state →
      RangeIndexesAgree state.db := by
  intro hclaim
  have hagree := hclaim (aheadBy 10)
    ((walkMachine (aheadBy 10)).ended [.proceed, .proceed])
    (Machine.reachable_ended rfl)
  have hsame := hagree.same 11 _ rfl (List.cons_ne_nil _ _)
  cases hsame

end RuntimeBridge.DataProvider
