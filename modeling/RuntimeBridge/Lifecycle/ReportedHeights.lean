import RuntimeBridge.DataProvider.ProviderInfo
import RuntimeBridge.Lifecycle.Sync

/-! The numbers of the data providers on their way to the sync loops:
`GetDataProviderInfo`, `updateDataProviderInfoLoop` of a runner, which asks any
provider at any time, and what its sync loops conclude. -/

namespace RuntimeBridge.Lifecycle

open Library DataProvider

variable {Hash Id : Type} {codec : HeaderCodec Hash}

structure Reports {Hash : Type} (Id : Type) (codec : HeaderCodec Hash) where
  providers : Id → Provider codec
  /-- What the providers have answered. -/
  answers : List (Id × ProviderInfo)
  fetchStatus : Option ProviderInfo

inductive ReportsEvent (Hash Id : Type) where
  | provider (id : Id) (event : ProviderEvent Hash)
  | answers (id : Id)
  | takes (answer : Nat)

/-- An answer that is behind with the para blocks is not taken. -/
def takeInfo (fetchStatus : Option ProviderInfo) (info : ProviderInfo) :
    ProviderInfo :=
  match fetchStatus with
  | some old =>
      if old .paraProcessedHeight ≤ info .paraProcessedHeight then info else old
  | none => info

def FetchStatus.ofInfo (info : ProviderInfo) : FetchStatus where
  parentProcessedHeight := info .parentProcessedHeight
  paraFetchedHeight := info .paraFetchedHeight
  paraProcessedHeight := info .paraProcessedHeight

def Reports.step [DecidableEq Hash] [DecidableEq Id] (genesis : Genesis)
    (state : Reports Id codec) :
    ReportsEvent Hash Id → Option (Reports Id codec)
  | .provider id event =>
      ((state.providers id).step genesis event).map fun provider =>
        { state with providers := Function.update state.providers id provider }
  | .answers id =>
      some { state with
        answers := (id, (state.providers id).info) :: state.answers }
  | .takes answer =>
      state.answers[answer]?.map fun answered =>
        { state with
          fetchStatus := some (takeInfo state.fetchStatus answered.2) }

def reportsMachine [DecidableEq Hash] [DecidableEq Id]
    (codec : HeaderCodec Hash) (genesis : Genesis) (batchSize : Option Nat) :
    Machine (Reports Id codec) (ReportsEvent Hash Id) where
  start :=
    { providers := fun _ => .initial codec batchSize
      answers := []
      fetchStatus := none }
  step := Reports.step genesis

structure ReportsOk (genesis : Genesis) (state : Reports Id codec) : Prop where
  providers : ∀ id, ProviderOk genesis (state.providers id)
  answers : ∀ answer ∈ state.answers,
    (state.providers answer.1).walkers.BacksInfo genesis answer.2
  fetchStatus : ∀ info, state.fetchStatus = some info →
    ∃ id, (state.providers id).walkers.BacksInfo genesis info

variable [DecidableEq Hash] [DecidableEq Id] {genesis : Genesis}
  {batchSize : Option Nat} {state after : Reports Id codec}
  {event : ReportsEvent Hash Id} {info old : ProviderInfo}

theorem takeInfo_cases (fetchStatus : Option ProviderInfo)
    (info : ProviderInfo) :
    takeInfo fetchStatus info = info ∨
      fetchStatus = some (takeInfo fetchStatus info) := by
  unfold takeInfo
  split
  · split
    · exact Or.inl rfl
    · exact Or.inr rfl
  · exact Or.inl rfl

theorem le_takeInfo (old info : ProviderInfo) :
    old .paraProcessedHeight ≤
      takeInfo (some old) info .paraProcessedHeight := by
  unfold takeInfo
  simp only
  split
  · next hle => exact hle
  · exact Int.le_refl _

theorem ReportsOk.provider {id : Id} {event : ProviderEvent Hash}
    {provider : Provider codec} (h : ReportsOk genesis state)
    (taken : (state.providers id).step genesis event = some provider) :
    ReportsOk genesis
      { state with providers := Function.update state.providers id provider } := by
  obtain ⟨hok, hgrows⟩ := providerOk_step (h.providers id) taken
  have hkept : ∀ (other : Id) (info : ProviderInfo),
      (state.providers other).walkers.BacksInfo genesis info →
      (Function.update state.providers id provider other).walkers.BacksInfo
        genesis info := by
    intro other info hbacks
    by_cases hsame : other = id
    · subst hsame
      rw [Function.update_self]
      exact fun key => hgrows.backs (hbacks key)
    · rwa [Function.update_of_ne hsame]
  exact
    { providers := fun other => by
        by_cases hsame : other = id
        · subst hsame
          simpa using hok
        · simpa [hsame] using h.providers other
      answers := fun answer hmember =>
        hkept answer.1 answer.2 (h.answers answer hmember)
      fetchStatus := fun info hstatus => by
        obtain ⟨other, hbacks⟩ := h.fetchStatus info hstatus
        exact ⟨other, hkept other info hbacks⟩ }

theorem reportsOk_step (h : ReportsOk genesis state)
    (taken : state.step genesis event = some after) :
    ReportsOk genesis after := by
  cases event with
  | provider id event =>
      obtain ⟨provider, hprovider, rfl⟩ := Option.map_eq_some_iff.mp taken
      exact h.provider hprovider
  | answers id =>
      cases Option.some.inj taken
      refine { h with answers := fun answer hmember => ?_ }
      rcases List.mem_cons.mp hmember with rfl | hold
      · exact (h.providers id).info
      · exact h.answers answer hold
  | takes answer =>
      obtain ⟨answered, hanswered, rfl⟩ := Option.map_eq_some_iff.mp taken
      refine { h with fetchStatus := fun info hstatus => ?_ }
      cases Option.some.inj hstatus
      rcases takeInfo_cases state.fetchStatus answered.2 with hnew | hold
      · rw [hnew]
        exact ⟨answered.1, h.answers answered (List.mem_of_getElem? hanswered)⟩
      · exact h.fetchStatus _ hold

theorem reportsOk_reachable
    (h : (reportsMachine codec genesis batchSize).Reachable state) :
    ReportsOk genesis state := by
  refine Machine.Preserves.reaches
    (fun _ _ _ _ hbefore taken => reportsOk_step hbefore taken) ?_ h
  exact
    { providers := fun id =>
        { walkers := walkersOk_reachable (Relation.ReflTransGen.refl)
          para := paraOk_startPara fun number hfirst hle => by
            cases Nat.le_zero.mp hle
            cases hfirst
          sent := List.forall_mem_nil _
          info := backs_initial }
      answers := List.forall_mem_nil _
      fetchStatus := fun info hnone => by cases hnone }

theorem fetchStatus_step (holds : state.fetchStatus = some old)
    (taken : state.step genesis event = some after) :
    ∃ info, after.fetchStatus = some info ∧
      old .paraProcessedHeight ≤ info .paraProcessedHeight := by
  cases event with
  | provider id event =>
      obtain ⟨provider, -, rfl⟩ := Option.map_eq_some_iff.mp taken
      exact ⟨old, holds, Int.le_refl _⟩
  | answers id =>
      cases Option.some.inj taken
      exact ⟨old, holds, Int.le_refl _⟩
  | takes answer =>
      obtain ⟨answered, -, rfl⟩ := Option.map_eq_some_iff.mp taken
      rw [holds]
      exact ⟨_, rfl, le_takeInfo old answered.2⟩

omit [DecidableEq Hash] [DecidableEq Id] in
theorem ReportsOk.sync_status {sync : SyncState} {status : FetchStatus}
    (h : ReportsOk genesis state)
    (hshared : sync.fetchStatus = state.fetchStatus.map FetchStatus.ofInfo)
    (hstatus : sync.fetchStatus = some status) :
    ∃ id, ∀ number : Nat,
      (genesis.parentNumber ≤ number →
        (number : Int) ≤ status.parentProcessedHeight →
        (state.providers id).walkers.fetchParent.store.pb number = true) ∧
      ((number : Int) ≤ status.paraFetchedHeight →
        (state.providers id).walkers.fetchPara.store.stored number = true) := by
  rw [hshared] at hstatus
  obtain ⟨info, hinfo, rfl⟩ := Option.map_eq_some_iff.mp hstatus
  obtain ⟨id, hbacks⟩ := h.fetchStatus info hinfo
  exact ⟨id, fun number =>
    ⟨hbacks .parentProcessedHeight number, hbacks .paraFetchedHeight number⟩⟩

theorem status_of_syncIteratorTop {sync : SyncState} {step : SyncStep}
    {position : Position} (h : sync.syncIteratorTop = .yields step position) :
    ∃ status, sync.fetchStatus = some status ∧
      sync.headerSyncNumber ≤ status.parentProcessedHeight ∧
      sync.paraBlockSyncNumber ≤ status.paraFetchedHeight := by
  unfold SyncState.syncIteratorTop at h
  split at h
  · cases h
  · split at h
    · cases h
    · next status hstatus =>
        split at h
        · cases h
        · next hready =>
            obtain ⟨hparent, hpara⟩ := not_or.mp hready
            exact ⟨status, hstatus, Int.not_lt.mp hparent, Int.not_lt.mp hpara⟩

theorem status_of_headerSyncIterator {sync : SyncState} {step : SyncStep}
    {position : Position} (h : sync.headerSyncIterator = .yields step position) :
    ∃ status, sync.fetchStatus = some status ∧
      sync.headerSyncNumber ≤ status.parentProcessedHeight := by
  unfold SyncState.headerSyncIterator at h
  split at h
  · cases h
  · split at h
    · cases h
    · next status hstatus =>
        split at h
        · cases h
        · next hready => exact ⟨status, hstatus, Int.not_lt.mp hready⟩

/-- What a runner takes for the state of its data providers holds of one of
them, and its para height never falls.  Where the header loop or the head of the
single loop goes on, the blocks up to the ones that it asks for are stored.  The
para block loop does not look at the heights. -/
theorem reported_heights (codec : HeaderCodec Hash) (genesis : Genesis)
    (batchSize : Option Nat) (state : Reports Id codec)
    (h : (reportsMachine codec genesis batchSize).Reachable state) :
    (∀ info, state.fetchStatus = some info →
      ∃ id, (state.providers id).walkers.BacksInfo genesis info) ∧
    (∀ later old,
      (reportsMachine codec genesis batchSize).Leads Machine.anyEvent state
        later → state.fetchStatus = some old →
      ∃ info, later.fetchStatus = some info ∧
        old .paraProcessedHeight ≤ info .paraProcessedHeight) ∧
    ∀ (sync : SyncState) step position,
      sync.fetchStatus = state.fetchStatus.map FetchStatus.ofInfo →
      (sync.headerSyncIterator = .yields step position →
        ∃ id, ∀ number : Nat, genesis.parentNumber ≤ number →
          (number : Int) ≤ sync.headerSyncNumber →
          (state.providers id).walkers.fetchParent.store.pb number = true) ∧
      (sync.syncIteratorTop = .yields step position →
        ∃ id, ∀ number : Nat,
          (genesis.parentNumber ≤ number →
            (number : Int) ≤ sync.headerSyncNumber →
            (state.providers id).walkers.fetchParent.store.pb number = true) ∧
          ((number : Int) ≤ sync.paraBlockSyncNumber →
            (state.providers id).walkers.fetchPara.store.stored number =
              true)) := by
  have hok := reportsOk_reachable h
  refine ⟨hok.fetchStatus, fun later old hleads holds => ?_,
    fun sync step position hshared => ⟨fun hyields => ?_, fun hyields => ?_⟩⟩
  · have hkept : (reportsMachine codec genesis batchSize).Preserves
        Machine.anyEvent fun later : Reports Id codec =>
          ∃ info, later.fetchStatus = some info ∧
            old .paraProcessedHeight ≤ info .paraProcessedHeight := by
      rintro before event after - ⟨middle, hmiddle, hle⟩ taken
      obtain ⟨info, hinfo, hgrown⟩ := fetchStatus_step hmiddle taken
      exact ⟨info, hinfo, Int.le_trans hle hgrown⟩
    exact hkept.leads ⟨old, holds, Int.le_refl _⟩ hleads
  · obtain ⟨status, hstatus, hparent⟩ := status_of_headerSyncIterator hyields
    obtain ⟨id, hstored⟩ := hok.sync_status hshared hstatus
    exact ⟨id, fun number hfirst hle =>
      (hstored number).1 hfirst (Int.le_trans hle hparent)⟩
  · obtain ⟨status, hstatus, hparent, hpara⟩ := status_of_syncIteratorTop hyields
    obtain ⟨id, hstored⟩ := hok.sync_status hshared hstatus
    exact ⟨id, fun number =>
      ⟨fun hfirst hle => (hstored number).1 hfirst (Int.le_trans hle hparent),
        fun hle => (hstored number).2 (Int.le_trans hle hpara)⟩⟩

def takesReport : List (ReportsEvent Bytes Unit) :=
  closesTwoWindows.map (.provider () ∘ .walks) ++
    [.provider () (.walks (.fetchPara .proceed)),
      .provider () (.receives .parentProcessedHeight 3),
      .provider () (.receives .paraFetchedHeight 1), .answers (), .takes 0]

theorem reported_heights_taken :
    let state := (reportsMachine nestedHeaders
      { paraNumber := 0, parentNumber := 0 } none).ended takesReport
    let sync := SyncState.startSync .single
      (state.fetchStatus.map FetchStatus.ofInfo)
      { headernum := 3, paraHeadernum := 1, blocknum := 1 }
    sync.syncIteratorTop = .yields .header .tail ∧
      ∃ id, ∀ number : Nat,
        ((number : Int) ≤ 3 →
          (state.providers id).walkers.fetchParent.store.pb number = true) ∧
        ((number : Int) ≤ 1 →
          (state.providers id).walkers.fetchPara.store.stored number = true) := by
  intro state sync
  have hreached : (reportsMachine nestedHeaders
      { paraNumber := 0, parentNumber := 0 } none).Reachable state :=
    Machine.reachable_ended rfl
  have hyields : sync.syncIteratorTop = .yields .header .tail := rfl
  obtain ⟨id, hstored⟩ := ((reported_heights nestedHeaders _ none state
    hreached).2.2 sync .header .tail rfl).2 hyields
  exact ⟨hyields, id, fun number =>
    ⟨(hstored number).1 (Nat.zero_le _), (hstored number).2⟩⟩

end RuntimeBridge.Lifecycle
