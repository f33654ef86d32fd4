import RuntimeBridge.DataProvider.Block
import RuntimeBridge.Library.Machine
import RuntimeBridge.Library.Update

/-! `fetch_block` for the para chain: `iteratePara` and `_walkParaBlock` between
their awaits, with any answers of the node, failures and restarts. -/

namespace RuntimeBridge.DataProvider

open Library

/-- `blake2AsHex` of an encoded header, and the parent hash that it carries. -/
structure HeaderCodec (Hash : Type) where
  blake2AsHex : Bytes → Hash
  parentHash : Bytes → Hash

/-- Of `para:n:pb` only the header is read back. -/
structure ParaStore where
  pb : Nat → Option Bytes
  written : Nat → Bool

def ParaStore.empty : ParaStore where
  pb _ := none
  written _ := false

/-- What `processParaBlock` returns, once it has compared the hashes. -/
structure ParaBlockData {Hash : Type} (codec : HeaderCodec Hash) where
  header : Bytes
  headerHashHex : Hash
  checked : headerHashHex = codec.blake2AsHex header

/-- The arguments of `walkParaBlock`.  `target` is the finalized number that
was known when `paraIterable` yielded the number. -/
structure ParaWalk (Hash : Type) where
  number : Nat
  lastHeaderHashHex : Option Hash
  retries : Nat
  target : Nat

/-- The await at which the fetcher is. -/
inductive FetchProc {Hash : Type} (codec : HeaderCodec Hash) where
  | iterate (i : Int) (currHash : Option Hash)
  /-- `getParaBlock(paraBlockNumber)` -/
  | cached (walk : ParaWalk Hash)
  | getBlockHash (walk : ParaWalk Hash)
  | getHeader (walk : ParaWalk Hash) (hash : Hash)
  | getStorageChanges (walk : ParaWalk Hash) (block : ParaBlockData codec)
  /-- `getParaBlock(paraBlockNumber - 1)` -/
  | previous (walk : ParaWalk Hash) (block : ParaBlockData codec)
  | setPb (walk : ParaWalk Hash) (block : ParaBlockData codec)
  | setWritten (walk : ParaWalk Hash) (block : ParaBlockData codec)
  | exited

structure ParaFetcher {Hash : Type} (codec : HeaderCodec Hash) where
  store : ParaStore
  paraTarget : Nat
  proc : FetchProc codec

inductive FetchEvent (Hash : Type) where
  /-- The process starts, whatever it was doing, with the value of
  `LAST_COMMITTED_PARA_BLOCK` and a first target. -/
  | restart (cursor target : Nat)
  | updateParaTarget (target : Nat)
  | proceed
  | blockHash (hash : Hash)
  | header (header : Bytes)
  /-- The await rejects; a write may have been applied. -/
  | fail (applied : Bool)

section

variable {Hash : Type} {codec : HeaderCodec Hash}

def FetchProc.walk? : FetchProc codec → Option (ParaWalk Hash)
  | .iterate _ _ => none
  | .cached walk => some walk
  | .getBlockHash walk => some walk
  | .getHeader walk _ => some walk
  | .getStorageChanges walk _ => some walk
  | .previous walk _ => some walk
  | .setPb walk _ => some walk
  | .setWritten walk _ => some walk
  | .exited => none

/-- The block that is being fetched from the node. -/
def FetchProc.fetching : FetchProc codec → Option (ParaWalk Hash)
  | .getBlockHash walk => some walk
  | .getHeader walk _ => some walk
  | .getStorageChanges walk _ => some walk
  | _ => none

/-- `promiseRetry` starts `_walkParaBlock` again, three times at most. -/
def ParaWalk.retry (walk : ParaWalk Hash) : FetchProc codec :=
  if walk.retries < 3 then .cached { walk with retries := walk.retries + 1 }
  else .exited

/-- The comparison of `_walkParaBlock`. -/
def ParaWalk.compare [DecidableEq Hash] (walk : ParaWalk Hash) (block : ParaBlockData codec)
    (lastHeaderHashHex : Hash) : FetchProc codec :=
  if codec.parentHash block.header = lastHeaderHashHex then .setPb walk block
  else .exited

def FetchProc.write (proc : FetchProc codec) (store : ParaStore) : ParaStore :=
  match proc with
  | .setPb walk block =>
      { store with pb := Function.update store.pb walk.number (some block.header) }
  | .setWritten walk _ =>
      { store with written := Function.update store.written walk.number true }
  | _ => store

def FetchProc.next [DecidableEq Hash] (proc : FetchProc codec)
    (store : ParaStore) (paraTarget : Nat) : FetchProc codec :=
  match proc with
  | .iterate i currHash =>
      if i < paraTarget then
        .cached
          { number := (i + 1).toNat, lastHeaderHashHex := currHash
            retries := 0, target := paraTarget }
      else
        proc
  | .cached walk =>
      if (store.pb walk.number).isSome then .iterate walk.number none
      else .getBlockHash walk
  | .getStorageChanges walk block =>
      if 2 ≤ walk.number then
        match walk.lastHeaderHashHex with
        | some lastHeaderHashHex => walk.compare block lastHeaderHashHex
        | none => .previous walk block
      else
        .setPb walk block
  | .previous walk block =>
      match store.pb (walk.number - 1) with
      | some lastHeader => walk.compare block (codec.blake2AsHex lastHeader)
      -- `lastBlock.header` of an absent block throws.
      | none => walk.retry
  | .setPb walk block => .setWritten walk block
  | .setWritten walk block => .iterate walk.number (some block.headerHashHex)
  | .getBlockHash _ => proc
  | .getHeader _ _ => proc
  | .exited => proc

def ParaFetcher.step [DecidableEq Hash] (fetcher : ParaFetcher codec) :
    FetchEvent Hash → Option (ParaFetcher codec)
  | .restart cursor target =>
      some { fetcher with
        paraTarget := target
        proc := .iterate ((cursor : Int) - 1) none }
  | .updateParaTarget target => some { fetcher with paraTarget := target }
  | .proceed =>
      some { fetcher with
        store := fetcher.proc.write fetcher.store
        proc := fetcher.proc.next fetcher.store fetcher.paraTarget }
  | .blockHash hash =>
      match fetcher.proc with
      | .getBlockHash walk =>
          some { fetcher with proc := .getHeader walk hash }
      | _ => none
  | .header header =>
      match fetcher.proc with
      | .getHeader walk hash =>
          if checked : hash = codec.blake2AsHex header then
            some { fetcher with
              proc := .getStorageChanges walk
                { header, headerHashHex := hash, checked } }
          else
            some { fetcher with proc := .exited }
      | _ => none
  | .fail applied =>
      match fetcher.proc.walk? with
      | some walk =>
          some { fetcher with
            store :=
              if applied then fetcher.proc.write fetcher.store
              else fetcher.store
            proc := walk.retry }
      | none => none

def fetchMachine [DecidableEq Hash] (codec : HeaderCodec Hash) :
    Machine (ParaFetcher codec) (FetchEvent Hash) where
  start := { store := .empty, paraTarget := 0, proc := .exited }
  step := ParaFetcher.step

/-- `LAST_COMMITTED_PARA_BLOCK` is not set, or does not exceed a stored block
number. -/
def resumesStored (fetcher : ParaFetcher codec) (event : FetchEvent Hash) :
    Prop :=
  ∀ cursor target, event = .restart cursor target →
    cursor = 0 ∨
      ∃ number, cursor ≤ number ∧ (fetcher.store.pb number).isSome = true

/-- Blocks `0, ..., count - 1` are stored. -/
def ParaStore.StoredTo (store : ParaStore) (count : Nat) : Prop :=
  ∀ number, (store.pb number).isSome = true ↔ number < count

/-- The hash is that of the stored header of block `number`. -/
def ParaStore.HashOf (codec : HeaderCodec Hash) (store : ParaStore)
    (number : Nat) (hash : Hash) : Prop :=
  ∃ header, store.pb number = some header ∧ codec.blake2AsHex header = hash

/-- Every block names the stored header before it. -/
def ParaLinked (codec : HeaderCodec Hash) (store : ParaStore) : Prop :=
  ∀ number header, 2 ≤ number → store.pb number = some header →
    ∃ previous, store.pb (number - 1) = some previous ∧
      codec.parentHash header = codec.blake2AsHex previous

structure WalkFits (codec : HeaderCodec Hash) (store : ParaStore)
    (count : Nat) (walk : ParaWalk Hash) : Prop where
  number_le : walk.number ≤ count
  last : ∀ hash, walk.lastHeaderHashHex = some hash →
    0 < walk.number ∧ store.HashOf codec (walk.number - 1) hash
  target : walk.number ≤ walk.target

/-- The walk is at the first block that is not stored. -/
structure FetchFits (codec : HeaderCodec Hash) (store : ParaStore)
    (count : Nat) (walk : ParaWalk Hash) : Prop
    extends WalkFits codec store count walk where
  number_eq : walk.number = count

def BlockFits (store : ParaStore) (walk : ParaWalk Hash)
    (block : ParaBlockData codec) : Prop :=
  2 ≤ walk.number →
    store.HashOf codec (walk.number - 1) (codec.parentHash block.header)

def FetchProcOk (store : ParaStore) (count : Nat) : FetchProc codec → Prop
  | .iterate i currHash =>
      -1 ≤ i ∧ i < count ∧
        ∀ hash, currHash = some hash → ∃ number : Nat,
          i = number ∧ store.HashOf codec number hash
  | .cached walk => WalkFits codec store count walk
  | .getBlockHash walk => FetchFits codec store count walk
  | .getHeader walk _ => FetchFits codec store count walk
  | .getStorageChanges walk _ => FetchFits codec store count walk
  | .previous walk _ => FetchFits codec store count walk
  | .setPb walk block =>
      FetchFits codec store count walk ∧ BlockFits store walk block
  | .setWritten walk block =>
      WalkFits codec store count walk ∧
        store.pb walk.number = some block.header
  | .exited => True

structure FetcherOk (fetcher : ParaFetcher codec) (count : Nat) : Prop where
  stored : fetcher.store.StoredTo count
  linked : ParaLinked codec fetcher.store
  proc : FetchProcOk fetcher.store count fetcher.proc

variable {store : ParaStore} {count : Nat} {walk : ParaWalk Hash}
  {block : ParaBlockData codec} {fetcher after : ParaFetcher codec}
  {event : FetchEvent Hash}

theorem WalkFits.retry (h : WalkFits codec store count walk) :
    FetchProcOk store count (walk.retry : FetchProc codec) := by
  unfold ParaWalk.retry
  split
  · exact
      { number_le := h.number_le
        last := h.last
        target := h.target }
  · exact True.intro

theorem FetchProcOk.walkFits {proc : FetchProc codec}
    (h : FetchProcOk store count proc) (hwalk : proc.walk? = some walk) :
    WalkFits codec store count walk := by
  cases proc with
  | iterate i currHash => cases hwalk
  | cached other => cases hwalk; exact h
  | getBlockHash other => cases hwalk; exact h.toWalkFits
  | getHeader other hash => cases hwalk; exact h.toWalkFits
  | getStorageChanges other block => cases hwalk; exact h.toWalkFits
  | previous other block => cases hwalk; exact h.toWalkFits
  | setPb other block => cases hwalk; exact h.1.toWalkFits
  | setWritten other block => cases hwalk; exact h.1
  | exited => cases hwalk

theorem ParaStore.StoredTo.absent (h : store.StoredTo count)
    (hfits : FetchFits codec store count walk) :
    store.pb walk.number = none := by
  rw [← Option.not_isSome_iff_eq_none, h, hfits.number_eq]
  exact Nat.lt_irrefl count

/-- A stored block is not written again. -/
theorem ParaStore.HashOf.setPb {number : Nat} {hash : Hash}
    (h : store.HashOf codec number hash)
    (habsent : store.pb walk.number = none) :
    ((FetchProc.setPb walk block).write store).HashOf codec number hash := by
  obtain ⟨header, hheader, hhash⟩ := h
  refine ⟨header, ?_, hhash⟩
  have hne : number ≠ walk.number := by
    rintro rfl
    rw [habsent] at hheader
    contradiction
  exact (Function.update_of_ne hne ..).trans hheader

theorem WalkFits.setPb (h : FetchFits codec store count walk)
    (hstored : store.StoredTo count) :
    WalkFits codec ((FetchProc.setPb walk block).write store) (count + 1)
      walk where
  number_le := Nat.le_succ_of_le h.number_le
  last := fun hash hlast => by
    obtain ⟨hpos, hhash⟩ := h.last hash hlast
    exact ⟨hpos, hhash.setPb (hstored.absent h)⟩
  target := h.target

theorem storedTo_setPb (hstored : store.StoredTo count)
    (h : FetchFits codec store count walk) :
    ((FetchProc.setPb walk block).write store).StoredTo (count + 1) := by
  intro number
  have hnumber := h.number_eq
  rcases eq_or_ne number walk.number with rfl | hne
  · simp only [FetchProc.write, Function.update_self, Option.isSome_some,
      true_iff]
    omega
  · simp only [FetchProc.write, Function.update_of_ne hne, hstored number]
    omega

theorem paraLinked_setPb (hstored : store.StoredTo count)
    (hlinked : ParaLinked codec store)
    (h : FetchFits codec store count walk)
    (hblock : BlockFits store walk block) :
    ParaLinked codec ((FetchProc.setPb walk block).write store) := by
  intro number header hge hheader
  have habsent := hstored.absent h
  rcases update_some_cases hheader with ⟨rfl, hnew⟩ | ⟨-, hold⟩
  · cases Option.some.inj hnew
    obtain ⟨previous, hprevious, hhash⟩ :=
      @ParaStore.HashOf.setPb _ _ _ _ block _ _ (hblock hge) habsent
    exact ⟨previous, hprevious, hhash.symm⟩
  · obtain ⟨previous, hprevious, hparent⟩ := hlinked number header hge hold
    obtain ⟨kept, hkept, hhash⟩ :=
      @ParaStore.HashOf.setPb _ _ _ _ block _ _ ⟨previous, hprevious, rfl⟩
        habsent
    exact ⟨kept, hkept, hparent.trans hhash.symm⟩

theorem WalkFits.compare [DecidableEq Hash] {hash : Hash}
    (h : FetchFits codec store count walk)
    (hhash : 2 ≤ walk.number → store.HashOf codec (walk.number - 1) hash) :
    FetchProcOk store count (walk.compare block hash) := by
  unfold ParaWalk.compare
  split
  · next heq =>
      exact ⟨h, fun hge => by
        rw [heq]
        exact hhash hge⟩
  · exact True.intro

theorem fetchNext_iterate [DecidableEq Hash] {i : Int}
    {currHash : Option Hash} (paraTarget : Nat)
    (h : FetchProcOk store count (.iterate i currHash : FetchProc codec)) :
    FetchProcOk store count
      ((FetchProc.iterate i currHash : FetchProc codec).next store
        paraTarget) := by
  obtain ⟨hge, hlt, hcurr⟩ := h
  simp only [FetchProc.next]
  split
  · next hbehind =>
      refine { number_le := ?_, last := ?_, target := ?_ }
      · change (i + 1).toNat ≤ count
        omega
      · intro hash hlast
        obtain ⟨number, rfl, hhash⟩ := hcurr hash hlast
        refine ⟨by change 0 < ((number : Int) + 1).toNat; omega, ?_⟩
        have heq : ((number : Int) + 1).toNat - 1 = number := by omega
        change store.HashOf codec (((number : Int) + 1).toNat - 1) hash
        rwa [heq]
      · change (i + 1).toNat ≤ paraTarget
        omega
  · exact ⟨hge, hlt, hcurr⟩

theorem fetchNext_cached [DecidableEq Hash] (paraTarget : Nat)
    (hstored : store.StoredTo count) (h : WalkFits codec store count walk) :
    FetchProcOk store count
      ((FetchProc.cached walk : FetchProc codec).next store paraTarget) := by
  have hle := h.number_le
  simp only [FetchProc.next]
  split
  · next hfound =>
      have hlt := (hstored walk.number).mp hfound
      exact ⟨by omega, by omega, fun _ hnone => by cases hnone⟩
  · next hmissing =>
      rw [hstored walk.number] at hmissing
      exact { h with number_eq := by omega }

theorem fetchNext_storageChanges [DecidableEq Hash] (paraTarget : Nat)
    (h : FetchFits codec store count walk) :
    FetchProcOk store count
      ((FetchProc.getStorageChanges walk block).next store paraTarget) := by
  simp only [FetchProc.next]
  split
  · split
    · next hash hlast => exact WalkFits.compare h fun _ => (h.last hash hlast).2
    · exact h
  · next hsmall => exact ⟨h, fun hge => absurd hge hsmall⟩

theorem fetchNext_previous [DecidableEq Hash] (paraTarget : Nat)
    (h : FetchFits codec store count walk) :
    FetchProcOk store count
      ((FetchProc.previous walk block).next store paraTarget) := by
  simp only [FetchProc.next]
  split
  · next header hheader =>
      exact WalkFits.compare h fun _ => ⟨header, hheader, rfl⟩
  · exact h.toWalkFits.retry

/-- The write of an await and what the fetcher does after it. -/
theorem fetcherOk_proceed [DecidableEq Hash] (h : FetcherOk fetcher count) :
    ∃ stored, count ≤ stored ∧ FetcherOk
      { fetcher with
        store := fetcher.proc.write fetcher.store
        proc := fetcher.proc.next fetcher.store fetcher.paraTarget }
      stored := by
  obtain ⟨store, paraTarget, proc⟩ := fetcher
  obtain ⟨hstored, hlinked, hproc⟩ := h
  cases proc with
  | iterate i currHash =>
      exact ⟨count, Nat.le_refl _, hstored, hlinked,
        fetchNext_iterate paraTarget hproc⟩
  | cached walk =>
      exact ⟨count, Nat.le_refl _, hstored, hlinked,
        fetchNext_cached paraTarget hstored hproc⟩
  | getBlockHash walk => exact ⟨count, Nat.le_refl _, hstored, hlinked, hproc⟩
  | getHeader walk hash =>
      exact ⟨count, Nat.le_refl _, hstored, hlinked, hproc⟩
  | getStorageChanges walk block =>
      exact ⟨count, Nat.le_refl _, hstored, hlinked,
        fetchNext_storageChanges paraTarget hproc⟩
  | previous walk block =>
      exact ⟨count, Nat.le_refl _, hstored, hlinked,
        fetchNext_previous paraTarget hproc⟩
  | setPb walk block =>
      obtain ⟨hfits, hblock⟩ := hproc
      exact ⟨count + 1, Nat.le_succ count,
        { stored := storedTo_setPb hstored hfits
          linked := paraLinked_setPb hstored hlinked hfits hblock
          proc := ⟨WalkFits.setPb hfits hstored, Function.update_self ..⟩ }⟩
  | setWritten walk block =>
      obtain ⟨hfits, hheader⟩ := hproc
      have hlt := (hstored walk.number).mp (by rw [hheader]; rfl)
      refine ⟨count, Nat.le_refl _, hstored, hlinked, by omega, by omega, ?_⟩
      intro hash hcurr
      cases hcurr
      exact ⟨walk.number, rfl, block.header, hheader, block.checked.symm⟩
  | exited => exact ⟨count, Nat.le_refl _, hstored, hlinked, hproc⟩

theorem fetcherOk_fail [DecidableEq Hash] {applied : Bool}
    (h : FetcherOk fetcher count) (hwalk : fetcher.proc.walk? = some walk) :
    ∃ stored, count ≤ stored ∧ FetcherOk
      ({ fetcher with
        store :=
          if applied then fetcher.proc.write fetcher.store else fetcher.store
        proc := walk.retry } : ParaFetcher codec)
      stored := by
  have hfits := h.proc.walkFits hwalk
  cases applied with
  | false =>
      exact ⟨count, Nat.le_refl _,
        { stored := h.stored, linked := h.linked, proc := hfits.retry }⟩
  | true =>
      obtain ⟨store, paraTarget, proc⟩ := fetcher
      obtain ⟨hstored, hlinked, hproc⟩ := h
      cases proc with
      | setPb other block =>
          cases hwalk
          obtain ⟨hfetch, hblock⟩ := hproc
          exact ⟨count + 1, Nat.le_succ count,
            { stored := storedTo_setPb hstored hfetch
              linked := paraLinked_setPb hstored hlinked hfetch hblock
              proc := (WalkFits.setPb hfetch hstored).retry }⟩
      | setWritten other block =>
          have hkept : WalkFits codec
              ((FetchProc.setWritten other block).write store) count walk :=
            { number_le := hfits.number_le
              last := hfits.last
              target := hfits.target }
          exact ⟨count, Nat.le_refl _, hstored, hlinked, hkept.retry⟩
      | _ => exact ⟨count, Nat.le_refl _, hstored, hlinked, hfits.retry⟩

theorem fetcherOk_step [DecidableEq Hash] (h : FetcherOk fetcher count)
    (hresumes : resumesStored fetcher event)
    (taken : fetcher.step event = some after) :
    ∃ stored, count ≤ stored ∧ FetcherOk after stored := by
  cases event with
  | restart cursor target =>
      cases taken
      refine ⟨count, Nat.le_refl _, h.stored, h.linked, by omega, ?_, ?_⟩
      · rcases hresumes cursor target rfl with rfl | ⟨number, hle, hnumber⟩
        · omega
        · have := (h.stored number).mp hnumber
          omega
      · intro hash hnone
        cases hnone
  | updateParaTarget target =>
      cases taken
      exact ⟨count, Nat.le_refl _, h.stored, h.linked, h.proc⟩
  | proceed =>
      cases taken
      exact fetcherOk_proceed h
  | blockHash hash =>
      obtain ⟨store, paraTarget, proc⟩ := fetcher
      cases proc with
      | getBlockHash walk =>
          cases taken
          exact ⟨count, Nat.le_refl _, h.stored, h.linked, h.proc⟩
      | _ => cases taken
  | header header =>
      obtain ⟨store, paraTarget, proc⟩ := fetcher
      cases proc with
      | getHeader walk hash =>
          simp only [ParaFetcher.step] at taken
          split at taken
          · cases taken
            exact ⟨count, Nat.le_refl _, h.stored, h.linked, h.proc⟩
          · cases taken
            exact ⟨count, Nat.le_refl _, h.stored, h.linked, True.intro⟩
      | _ => cases taken
  | fail applied =>
      simp only [ParaFetcher.step] at taken
      split at taken
      · next walk hwalk =>
          cases taken
          exact fetcherOk_fail h hwalk
      · cases taken

theorem fetcherOk_reaches [DecidableEq Hash]
    (h : (fetchMachine codec).Reaches resumesStored fetcher) :
    ∃ stored, FetcherOk fetcher stored := by
  have hpreserved : (fetchMachine codec).Preserves resumesStored
      fun fetcher => ∃ stored, FetcherOk fetcher stored := by
    intro before event after hresumes hbefore taken
    obtain ⟨count, hok⟩ := hbefore
    obtain ⟨stored, -, hafter⟩ := fetcherOk_step hok hresumes taken
    exact ⟨stored, hafter⟩
  refine hpreserved.reaches ⟨0, ?_, ?_, True.intro⟩ h
  · intro number
    simp [fetchMachine, ParaStore.empty]
  · intro number header _ hheader
    cases hheader

/-- The stored para blocks form a hash chain, and what is fetched lies within
the target that was known when its walk began. -/
theorem paraChain_linked [DecidableEq Hash] (codec : HeaderCodec Hash)
    (fetcher : ParaFetcher codec)
    (h : (fetchMachine codec).Reaches resumesStored fetcher) :
    ParaLinked codec fetcher.store ∧
      ∀ walk, fetcher.proc.fetching = some walk →
        walk.number ≤ walk.target := by
  obtain ⟨count, -, hlinked, hproc⟩ := fetcherOk_reaches h
  refine ⟨hlinked, fun walk hfetching => ?_⟩
  have hwalk : fetcher.proc.walk? = some walk := by
    revert hfetching
    cases fetcher.proc <;> simp [FetchProc.fetching, FetchProc.walk?]
  exact (hproc.walkFits hwalk).target

end

/-- Headers that are their own hash, and carry the parent's behind one byte. -/
def nestedHeaders : HeaderCodec Bytes where
  blake2AsHex header := header
  parentHash header := header.tail

theorem resumes_from_zero {events : List (FetchEvent Bytes)}
    (h : ∀ cursor target, .restart cursor target ∈ events → cursor = 0) :
    ∀ (fetcher : ParaFetcher nestedHeaders), ∀ event ∈ events,
      resumesStored fetcher event := by
  intro fetcher event hmem cursor target heq
  subst heq
  exact Or.inl (h cursor target hmem)

/-- Three blocks; the mark of the first one is written by an await that
rejects. -/
def threeBlocks : List (FetchEvent Bytes) :=
  [.restart 0 2, .proceed, .proceed, .blockHash [5], .header [5], .proceed,
    .proceed, .fail true, .proceed, .proceed, .proceed, .blockHash [7, 5],
    .header [7, 5], .proceed, .proceed, .proceed, .proceed, .proceed,
    .blockHash [9, 7, 5], .header [9, 7, 5], .proceed, .proceed, .proceed]

theorem paraChain_linked_retried :
    ((fetchMachine nestedHeaders).ended threeBlocks).store.pb 2 =
        some [9, 7, 5] ∧
      ParaLinked nestedHeaders
        ((fetchMachine nestedHeaders).ended threeBlocks).store :=
  ⟨rfl, (paraChain_linked nestedHeaders _
    (Machine.reaches_ended (resumes_from_zero (by simp [threeBlocks]))
      rfl)).1⟩

/-- Block 1 is yielded at target 1, and fetched when the node has gone back to
target 0. -/
def targetDrops : List (FetchEvent Bytes) :=
  [.restart 0 0, .proceed, .proceed, .blockHash [5], .header [5], .proceed,
    .proceed, .proceed, .updateParaTarget 1, .proceed, .updateParaTarget 0,
    .proceed]

theorem paraChain_fetches_beyond :
    ¬ ∀ fetcher : ParaFetcher nestedHeaders,
      (fetchMachine nestedHeaders).Reaches resumesStored fetcher →
        ParaLinked nestedHeaders fetcher.store ∧
          ∀ walk, fetcher.proc.fetching = some walk →
            walk.number ≤ fetcher.paraTarget := by
  intro hclaim
  obtain ⟨-, hwithin⟩ := hclaim
    ((fetchMachine nestedHeaders).ended targetDrops)
    (Machine.reaches_ended (resumes_from_zero (by simp [targetDrops])) rfl)
  have hnumber := hwithin _ rfl
  exact absurd hnumber (by decide)

end RuntimeBridge.DataProvider
