import RuntimeBridge.DataProvider.Cursors
import RuntimeBridge.DataProvider.ParaBlob

/-! The numbers that a data provider reports about itself.  Its walkers send
them to the main process with `send` of `ipc.ts`, and `GetDataProviderInfo`
answers with the highest ones. -/

namespace RuntimeBridge.DataProvider

open Library

inductive InfoKey where
  | parentTarget
  | parentFetchedHeight
  | parentProcessedHeight
  | parentCommittedHeight
  | paraTarget
  | paraFetchedHeight
  | paraProcessedHeight
  | paraCommittedHeight
  deriving DecidableEq, Repr

abbrev ProviderInfo := InfoKey → Int

def ProviderInfo.initial : ProviderInfo := fun _ => -1

def updateNumber (key : InfoKey) (info : ProviderInfo) (num : Int) :
    ProviderInfo :=
  if info key < num then Function.update info key num else info

section

variable {Hash : Type} {codec : HeaderCodec Hash}

/-- `setParaFetchedHeight` follows `walkParaBlock`. -/
def ParaFetcher.sends (fetcher : ParaFetcher codec) :
    FetchEvent Hash → List (InfoKey × Int)
  | .restart _ target => [(.paraTarget, target)]
  | .updateParaTarget target => [(.paraTarget, target)]
  | .proceed =>
      match fetcher.proc with
      | .cached walk =>
          if (fetcher.store.pb walk.number).isSome then
            [(.paraFetchedHeight, walk.number)]
          else
            []
      | .setWritten walk _ => [(.paraFetchedHeight, walk.number)]
      | _ => []
  | _ => []

def ParentFetcher.sends (fetcher : ParentFetcher) :
    ParentEvent → List (InfoKey × Int)
  | .restart target => [(.parentTarget, target)]
  | .updateParentTarget target => [(.parentTarget, target)]
  | .proceed =>
      match fetcher.proc with
      | .existance walk =>
          if fetcher.store.written walk.number then
            [(.parentFetchedHeight, walk.number)]
          else
            []
      | .setWritten walk => [(.parentFetchedHeight, walk.number)]
      | _ => []
  | _ => []

/-- What `walkParaBlock` of `blob.js` sends behind `setDryParaBlockRange`. -/
def ParaState.sends (state : ParaState) : List (InfoKey × Int) :=
  match state.para with
  | .check number =>
      if (state.db.dryParaBlock number).isSome then
        [(.paraProcessedHeight, number), (.paraCommittedHeight, number)]
      else
        []
  | .write number =>
      [(.paraProcessedHeight, number), (.paraCommittedHeight, number)]
  | .commit _ => []

/-- The committed heights that a step of the window loop adds, and the relay
block that `walkBlock` goes on from. -/
def WalkState.sends (before after : WalkState) : List (InfoKey × Int) :=
  (after.committedHeights.drop before.committedHeights.length).map
      (Prod.mk .parentCommittedHeight) ++
    match before.proc, after.proc with
    | .visited visit, .block _ =>
        [(.parentProcessedHeight, visit.currParentBlock.number)]
    | _, _ => []

def Walkers.sends (genesis : Genesis) (walkers : Walkers codec) :
    WalkersEvent Hash → List (InfoKey × Int)
  | .fetchPara event => walkers.fetchPara.sends event
  | .fetchParent event => walkers.fetchParent.sends event
  | .para _ => walkers.para.sends
  | .batch _ => []
  | .window blocks =>
      walkers.window.sends (walkStep { blocks with genesis } walkers.window)
  | .startMakeBlob _ => []

/-- Two of the calls are throttled, so that a message may never be sent. -/
structure Provider {Hash : Type} (codec : HeaderCodec Hash) where
  walkers : Walkers codec
  sent : List (InfoKey × Int)
  info : ProviderInfo

inductive ProviderEvent (Hash : Type) where
  | walks (event : WalkersEvent Hash)
  | receives (key : InfoKey) (num : Int)
  /-- The main process is started again. -/
  | starts

namespace Provider

def initial (codec : HeaderCodec Hash) (batchSize : Option Nat) :
    Provider codec where
  walkers := .initial codec batchSize
  sent := []
  info := .initial

def step [DecidableEq Hash] (genesis : Genesis) (provider : Provider codec) :
    ProviderEvent Hash → Option (Provider codec)
  | .walks event =>
      (provider.walkers.step genesis event).map fun walkers =>
        { provider with
          walkers
          sent := provider.walkers.sends genesis event ++ provider.sent }
  | .receives key num =>
      if (key, num) ∈ provider.sent then
        some { provider with info := updateNumber key provider.info num }
      else
        none
  | .starts => some { provider with info := .initial }

end Provider

/-- What a reported number stands for. -/
def Walkers.Backs (genesis : Genesis) (walkers : Walkers codec) :
    InfoKey → Int → Prop
  | .parentFetchedHeight, height | .parentProcessedHeight, height =>
      ∀ number : Nat, genesis.parentNumber ≤ number → (number : Int) ≤ height →
        walkers.fetchParent.store.pb number = true
  | .parentCommittedHeight, height =>
      ∀ number : Nat, genesis.parentNumber ≤ number → (number : Int) < height →
        walkers.fetchParent.store.pb number = true
  | .paraFetchedHeight, height =>
      ∀ number : Nat, (number : Int) ≤ height →
        walkers.fetchPara.store.stored number = true
  | .paraProcessedHeight, height | .paraCommittedHeight, height =>
      ∀ number : Nat, 1 ≤ number → (number : Int) ≤ height →
        (walkers.para.db.dryParaBlock number).isSome = true ∧
          walkers.fetchPara.store.stored number = true
  | .parentTarget, _ | .paraTarget, _ => True

def Walkers.BacksInfo (genesis : Genesis) (walkers : Walkers codec)
    (info : ProviderInfo) : Prop :=
  ∀ key, walkers.Backs genesis key (info key)

structure ProviderOk (genesis : Genesis) (provider : Provider codec) :
    Prop where
  walkers : ∃ parentStop paraStop,
    WalkersOk genesis provider.walkers parentStop paraStop
  para : ParaOk provider.walkers.para
  sent : ∀ message ∈ provider.sent,
    provider.walkers.Backs genesis message.1 message.2
  info : provider.walkers.BacksInfo genesis provider.info

variable {genesis : Genesis} {walkers after : Walkers codec}
  {parentStop paraStop : Nat} {event : WalkersEvent Hash} {info : ProviderInfo}
  {key : InfoKey} {num : Int} {provider next : Provider codec}

theorem backs_initial (key : InfoKey) : walkers.Backs genesis key (-1) := by
  cases key with
  | parentTarget => exact True.intro
  | parentFetchedHeight => exact fun number _ hle => by omega
  | parentProcessedHeight => exact fun number _ hle => by omega
  | parentCommittedHeight => exact fun number _ hlt => by omega
  | paraTarget => exact True.intro
  | paraFetchedHeight => exact fun number hle => by omega
  | paraProcessedHeight => exact fun number _ hle => by omega
  | paraCommittedHeight => exact fun number _ hle => by omega

/-- The stores only ever grow. -/
structure Walkers.Grows (before after : Walkers codec) : Prop where
  parents : ∀ number, before.fetchParent.store.pb number = true →
    after.fetchParent.store.pb number = true
  paras : ∀ number, before.fetchPara.store.stored number = true →
    after.fetchPara.store.stored number = true
  dry : ∀ number, (before.para.db.dryParaBlock number).isSome = true →
    (after.para.db.dryParaBlock number).isSome = true

theorem Walkers.Grows.backs (h : walkers.Grows after)
    (hbacks : walkers.Backs genesis key num) :
    after.Backs genesis key num := by
  cases key with
  | parentTarget => exact True.intro
  | paraTarget => exact True.intro
  | parentFetchedHeight =>
      exact fun number hfirst hle => h.parents _ (hbacks number hfirst hle)
  | parentProcessedHeight =>
      exact fun number hfirst hle => h.parents _ (hbacks number hfirst hle)
  | parentCommittedHeight =>
      exact fun number hfirst hlt => h.parents _ (hbacks number hfirst hlt)
  | paraFetchedHeight =>
      exact fun number hle => h.paras _ (hbacks number hle)
  | paraProcessedHeight =>
      exact fun number hfirst hle =>
        ⟨h.dry _ (hbacks number hfirst hle).1,
          h.paras _ (hbacks number hfirst hle).2⟩
  | paraCommittedHeight =>
      exact fun number hfirst hle =>
        ⟨h.dry _ (hbacks number hfirst hle).1,
          h.paras _ (hbacks number hfirst hle).2⟩

theorem BacksInfo.updateNumber (h : walkers.BacksInfo genesis info)
    (hnum : walkers.Backs genesis key num) :
    walkers.BacksInfo genesis (updateNumber key info num) := by
  intro other
  unfold DataProvider.updateNumber
  split
  · by_cases hsame : other = key
    · subst hsame
      rwa [Function.update_self]
    · rw [Function.update_of_ne hsame]
      exact h other
  · exact h other

theorem fetchPara_grows [DecidableEq Hash] {fetcher later : ParaFetcher codec}
    {event : FetchEvent Hash} (taken : fetcher.step event = some later)
    (number : Nat) (hstored : fetcher.store.stored number = true) :
    later.store.stored number = true := by
  have hwrite : (fetcher.proc.write fetcher.store).stored number = true := by
    unfold FetchProc.write
    split
    · exact update_isSome hstored
    · exact hstored
    · exact hstored
  cases event with
  | restart cursor target =>
      cases Option.some.inj taken
      exact hstored
  | updateParaTarget target =>
      cases Option.some.inj taken
      exact hstored
  | proceed =>
      cases Option.some.inj taken
      exact hwrite
  | blockHash hash =>
      simp only [ParaFetcher.step] at taken
      split at taken
      · cases Option.some.inj taken
        exact hstored
      · cases taken
  | header header =>
      simp only [ParaFetcher.step] at taken
      split at taken
      · split at taken
        · cases Option.some.inj taken
          exact hstored
        · cases Option.some.inj taken
          exact hstored
      · cases taken
  | fail applied =>
      simp only [ParaFetcher.step] at taken
      split at taken
      · cases Option.some.inj taken
        cases applied with
        | false => exact hstored
        | true => exact hwrite
      · cases taken

theorem fetchParent_grows {fetcher later : ParentFetcher} {startNum : Int}
    {event : ParentEvent} (taken : fetcher.step startNum event = some later)
    (number : Nat) (hstored : fetcher.store.pb number = true) :
    later.store.pb number = true := by
  have hwrite : (fetcher.proc.write fetcher.store).pb number = true := by
    unfold ParentProc.write
    split
    · next walk _ =>
        by_cases hsame : number = walk.number
        · simp [hsame]
        · simpa [hsame] using hstored
    · exact hstored
    · exact hstored
  cases event with
  | restart target =>
      cases Option.some.inj taken
      exact hstored
  | updateParentTarget target =>
      cases Option.some.inj taken
      exact hstored
  | proceed =>
      cases Option.some.inj taken
      exact hwrite
  | fail applied =>
      simp only [ParentFetcher.step] at taken
      split at taken
      · cases Option.some.inj taken
        cases applied with
        | false => exact hstored
        | true => exact hwrite
      · cases taken

theorem paraStep_grows {blocks : Chain} {para : ParaState} {number : Nat}
    (hstored : (para.db.dryParaBlock number).isSome = true) :
    ((paraStep blocks para).db.dryParaBlock number).isSome = true := by
  rcases paraStep_db blocks para with ⟨hsame, -⟩ | ⟨written, hwritten, -⟩
  · obtain ⟨-, hdry, -⟩ := BlobCache.mk.inj hsame
    rwa [hdry]
  · rw [hwritten]
    exact update_isSome hstored

theorem walkers_grow [DecidableEq Hash]
    (taken : walkers.step genesis event = some after) :
    walkers.Grows after := by
  cases event with
  | fetchPara event =>
      obtain ⟨fetcher, hfetcher, rfl⟩ := Option.map_eq_some_iff.mp taken
      exact ⟨fun _ h => h, fetchPara_grows hfetcher, fun _ h => h⟩
  | fetchParent event =>
      obtain ⟨fetcher, hfetcher, rfl⟩ := Option.map_eq_some_iff.mp taken
      exact ⟨fetchParent_grows hfetcher, fun _ h => h, fun _ h => h⟩
  | para blocks =>
      simp only [Walkers.step] at taken
      split at taken
      · cases Option.some.inj taken
        exact ⟨fun _ h => h, fun _ h => h, fun _ => paraStep_grows⟩
      · cases taken
  | batch blocks =>
      simp only [Walkers.step] at taken
      split at taken
      · obtain ⟨para, hpara, rfl⟩ := Option.map_eq_some_iff.mp taken
        refine ⟨fun _ h => h, fun _ h => h, fun number hstored => ?_⟩
        rcases batchStep_cases hpara with
          ⟨-, -, -, -, -, hdry, -⟩ | ⟨-, -, -, rfl⟩
        · rwa [hdry]
        · exact hstored
      · cases taken
  | window blocks =>
      simp only [Walkers.step] at taken
      split at taken
      · cases Option.some.inj taken
        exact ⟨fun _ h => h, fun _ h => h, fun _ h => h⟩
      · cases taken
  | startMakeBlob batchSize =>
      cases Option.some.inj taken
      exact ⟨fun _ h => h, fun _ h => h, fun _ h => h⟩

theorem paraOk_walkers [DecidableEq Hash] (h : ParaOk walkers.para)
    (taken : walkers.step genesis event = some after) : ParaOk after.para := by
  cases event with
  | fetchPara event =>
      obtain ⟨fetcher, -, rfl⟩ := Option.map_eq_some_iff.mp taken
      exact h
  | fetchParent event =>
      obtain ⟨fetcher, -, rfl⟩ := Option.map_eq_some_iff.mp taken
      exact h
  | para blocks =>
      simp only [Walkers.step] at taken
      split at taken
      · cases Option.some.inj taken
        exact paraOk_paraStep h
      · cases taken
  | batch blocks =>
      simp only [Walkers.step] at taken
      split at taken
      · obtain ⟨para, hpara, rfl⟩ := Option.map_eq_some_iff.mp taken
        exact @paraOk_step blocks _ _ none .batch h hpara
      · cases taken
  | window blocks =>
      simp only [Walkers.step] at taken
      split at taken
      · cases Option.some.inj taken
        exact h
      · cases taken
  | startMakeBlob batchSize =>
      cases Option.some.inj taken
      exact paraOk_startPara h.committed

theorem WalkersOk.parents_below
    (h : WalkersOk genesis walkers parentStop paraStop) {number : Nat}
    (hfirst : genesis.parentNumber ≤ number) (hlt : number < parentStop) :
    walkers.fetchParent.store.pb number = true :=
  (h.fetchParent.stored number).mpr ⟨hfirst, hlt⟩

theorem WalkersOk.paras_below
    (h : WalkersOk genesis walkers parentStop paraStop) {number : Nat}
    (hlt : number < paraStop) :
    walkers.fetchPara.store.stored number = true :=
  (h.fetchPara.stored number).mpr hlt

/-- A number is sent when its block is stored. -/
theorem fetchPara_sends [DecidableEq Hash] {event : FetchEvent Hash}
    (h : WalkersOk genesis walkers parentStop paraStop)
    (hsent : (key, num) ∈ walkers.fetchPara.sends event) :
    walkers.Backs genesis key num := by
  have hbacks : ∀ stored : Nat, stored < paraStop →
      walkers.Backs genesis .paraFetchedHeight stored :=
    fun stored hlt number hle => h.paras_below (by omega)
  unfold ParaFetcher.sends at hsent
  split at hsent
  · cases List.mem_singleton.mp hsent
    exact True.intro
  · cases List.mem_singleton.mp hsent
    exact True.intro
  · split at hsent
    · next walk _ =>
        split at hsent
        · next hstored =>
            cases List.mem_singleton.mp hsent
            exact hbacks _ (h.fetchPara.stored.below hstored)
        · cases hsent
    · next walk block hproc =>
        cases List.mem_singleton.mp hsent
        have hfits := h.fetchPara.proc
        rw [hproc] at hfits
        refine hbacks _ (h.fetchPara.stored.below ?_)
        rw [ParaStore.stored, hfits.2]
        rfl
    · cases hsent
  · cases hsent

theorem fetchParent_sends {event : ParentEvent}
    (h : WalkersOk genesis walkers parentStop paraStop)
    (hsent : (key, num) ∈ walkers.fetchParent.sends event) :
    walkers.Backs genesis key num := by
  have hbacks : ∀ stored : Nat, stored < parentStop →
      walkers.Backs genesis .parentFetchedHeight stored :=
    fun stored hlt number hfirst hle => h.parents_below hfirst (by omega)
  unfold ParentFetcher.sends at hsent
  split at hsent
  · cases List.mem_singleton.mp hsent
    exact True.intro
  · cases List.mem_singleton.mp hsent
    exact True.intro
  · split at hsent
    · next walk _ =>
        split at hsent
        · next hwritten =>
            cases List.mem_singleton.mp hsent
            have hstored := h.fetchParent.written _ hwritten
            exact hbacks _ ((h.fetchParent.stored _).mp hstored).2
        · cases hsent
    · next walk hproc =>
        cases List.mem_singleton.mp hsent
        have hfits := h.fetchParent.proc
        rw [hproc] at hfits
        exact hbacks _ hfits.2
    · cases hsent
  · cases hsent

/-- The block is stored when the step is done. -/
theorem para_sends {blocks : Chain} (hpara : ParaOk walkers.para)
    (h : WalkersOk genesis
      { walkers with para := paraStep blocks walkers.para } parentStop paraStop)
    (hsent : (key, num) ∈ walkers.para.sends) :
    Walkers.Backs genesis
      { walkers with para := paraStep blocks walkers.para } key num := by
  have hcommits : ∀ number : Nat,
      (paraStep blocks walkers.para).para = .commit number →
      ∀ other : Nat, 1 ≤ other → (other : Int) ≤ number →
        ((paraStep blocks walkers.para).db.dryParaBlock other).isSome = true ∧
          walkers.fetchPara.store.stored other = true := by
    intro number hcommit other hfirst hle
    have hok := (@paraOk_paraStep blocks _ hpara).para
    rw [hcommit] at hok
    have hlt : number < paraStop := h.para.commit number hcommit
    exact ⟨hok.2 other hfirst (by omega), h.paras_below (by omega)⟩
  have hboth : ∀ number : Nat,
      (paraStep blocks walkers.para).para = .commit number →
      (key, num) ∈ [(InfoKey.paraProcessedHeight, (number : Int)),
        (.paraCommittedHeight, number)] →
      Walkers.Backs genesis
        { walkers with para := paraStep blocks walkers.para } key num := by
    intro number hcommit hmember
    rcases List.mem_cons.mp hmember with heq | hlater
    · cases heq
      exact hcommits number hcommit
    · cases List.mem_singleton.mp hlater
      exact hcommits number hcommit
  unfold ParaState.sends at hsent
  split at hsent
  · next number hproc =>
      split at hsent
      · next hstored =>
          refine hboth number ?_ hsent
          simp only [paraStep, hproc, hstored, if_true]
      · cases hsent
  · next number hproc =>
      refine hboth number ?_ hsent
      simp only [paraStep, hproc]
  · cases hsent

theorem walkStep_heights {first stop : Nat} {chain : Chain} {state : WalkState}
    (h : WalkWithin first stop state) :
    ∀ height ∈ (walkStep chain state).committedHeights.drop
        state.committedHeights.length, height ≤ stop := by
  obtain ⟨db, proc, heights⟩ := state
  have hnone : ∀ height ∈ heights.drop heights.length,
      height ≤ (stop : Int) := by
    rw [List.drop_length]
    exact List.forall_mem_nil _
  have hone : ∀ reported : Int, reported ≤ stop →
      ∀ height ∈ (heights ++ [reported]).drop heights.length,
        height ≤ (stop : Int) := by
    intro reported hle height hmember
    rw [List.drop_left] at hmember
    rwa [List.mem_singleton.mp hmember]
  cases proc with
  | next windowId lastWindow =>
      simp only [walkStep, walkWindow, WindowDb.getWindow]
      split
      · next window hwindow =>
          have hopens := h.db.opens windowId window hwindow
          have hstart := hopens.start_le
          split
          · simp only [Option.getD_some]
            split
            · exact hone _ (by omega)
            · exact hnone
          · exact hone _ (by omega)
      · cases firstBlocks chain windowId lastWindow with
        | none => exact hnone
        | some blocks => exact hnone
  | block walk =>
      simp only [walkStep]
      split <;> exact hnone
  | visited visit =>
      simp only [walkStep]
      split <;> exact hnone
  | mark window key => exact hnone
  | close window => exact hnone
  | commit window =>
      have hstart := Window.OpensWithin.start_le
        (Window.ClosesWithin.toOpensWithin h.proc)
      exact hone _ (by omega)
  | exited => exact hnone

theorem window_sends {next : WalkState}
    (h : WalkersOk genesis walkers parentStop paraStop)
    (hheights : ∀ height ∈ next.committedHeights.drop
      walkers.window.committedHeights.length, height ≤ parentStop)
    (hsent : (key, num) ∈ walkers.window.sends next) :
    walkers.Backs genesis key num := by
  rcases List.mem_append.mp hsent with hcommitted | hprocessed
  · obtain ⟨height, hmember, heq⟩ := List.mem_map.mp hcommitted
    cases heq
    have hle := hheights num hmember
    exact fun number hfirst hlt => h.parents_below hfirst (by omega)
  · split at hprocessed
    · next visit walk hproc _ =>
        cases List.mem_singleton.mp hprocessed
        have hwithin := h.window.proc
        rw [hproc] at hwithin
        obtain ⟨-, -, -, hlt, -⟩ := hwithin
        exact fun number hfirst hle => h.parents_below hfirst (by omega)
    · cases hprocessed

theorem sends_backed [DecidableEq Hash] (hpara : ParaOk walkers.para)
    (h : WalkersOk genesis walkers parentStop paraStop)
    (taken : walkers.step genesis event = some after)
    (hsent : (key, num) ∈ walkers.sends genesis event) :
    after.Backs genesis key num := by
  have hgrows := walkers_grow taken
  cases event with
  | fetchPara event => exact hgrows.backs (fetchPara_sends h hsent)
  | fetchParent event => exact hgrows.backs (fetchParent_sends h hsent)
  | para blocks =>
      obtain ⟨parentStored, paraStored, hafter⟩ := walkersOk_step h taken
      simp only [Walkers.step] at taken
      split at taken
      · cases Option.some.inj taken
        exact para_sends hpara hafter hsent
      · cases taken
  | batch blocks => cases hsent
  | window blocks =>
      exact hgrows.backs (window_sends h (walkStep_heights h.window) hsent)
  | startMakeBlob batchSize => cases hsent

theorem providerOk_step [DecidableEq Hash] {event : ProviderEvent Hash}
    (h : ProviderOk genesis provider)
    (taken : provider.step genesis event = some next) :
    ProviderOk genesis next ∧ provider.walkers.Grows next.walkers := by
  have hsame : provider.walkers.Grows provider.walkers :=
    ⟨fun _ h => h, fun _ h => h, fun _ h => h⟩
  cases event with
  | walks event =>
      obtain ⟨walkers, hwalkers, rfl⟩ := Option.map_eq_some_iff.mp taken
      obtain ⟨parentStop, paraStop, hok⟩ := h.walkers
      have hgrows := walkers_grow hwalkers
      refine ⟨?_, hgrows⟩
      exact
        { walkers := walkersOk_step hok hwalkers
          para := paraOk_walkers h.para hwalkers
          sent := fun message hmember => by
            rcases List.mem_append.mp hmember with hnew | hold
            · exact sends_backed h.para hok hwalkers hnew
            · exact hgrows.backs (h.sent message hold)
          info := fun key => hgrows.backs (h.info key) }
  | receives key num =>
      simp only [Provider.step] at taken
      split at taken
      · next hmember =>
          cases Option.some.inj taken
          exact ⟨{ h with
            info := BacksInfo.updateNumber h.info (h.sent _ hmember) }, hsame⟩
      · cases taken
  | starts =>
      cases Option.some.inj taken
      exact ⟨{ h with info := backs_initial }, hsame⟩

end

end RuntimeBridge.DataProvider
