import RuntimeBridge.DataProvider.Block
import RuntimeBridge.Library.Update

/-! `fetch_block` for the relay chain: `iterate` and `_walkParentBlock` between
their awaits, with failures and restarts. -/

namespace RuntimeBridge.DataProvider

open Library

/-- Which of the two keys of a relay block are stored. -/
structure ParentStore where
  pb : Nat → Bool
  written : Nat → Bool

def ParentStore.empty : ParentStore where
  pb _ := false
  written _ := false

structure ParentWalk where
  number : Nat
  retries : Nat
  deriving DecidableEq

/-- The await at which the fetcher is. -/
inductive ParentProc where
  | iterate (curr : Int)
  /-- `getParentBlockExistance` -/
  | existance (walk : ParentWalk)
  | processParentBlock (walk : ParentWalk)
  | setPb (walk : ParentWalk)
  | setWritten (walk : ParentWalk)
  | exited
  deriving DecidableEq

structure ParentFetcher where
  store : ParentStore
  parentTarget : Nat
  proc : ParentProc

inductive ParentEvent where
  /-- The process starts, whatever it was doing, with a first target. -/
  | restart (target : Nat)
  | updateParentTarget (target : Nat)
  | proceed
  /-- The await rejects; a write may have been applied. -/
  | fail (applied : Bool)
  deriving DecidableEq

def ParentProc.walk? : ParentProc → Option ParentWalk
  | .iterate _ => none
  | .existance walk => some walk
  | .processParentBlock walk => some walk
  | .setPb walk => some walk
  | .setWritten walk => some walk
  | .exited => none

/-- `promiseRetry` starts `_walkParentBlock` again, three times at most. -/
def ParentWalk.retry (walk : ParentWalk) : ParentProc :=
  if walk.retries < 3 then
    .existance { walk with retries := walk.retries + 1 }
  else
    .exited

def ParentProc.write (proc : ParentProc) (store : ParentStore) : ParentStore :=
  match proc with
  | .setPb walk =>
      { store with pb := Function.update store.pb walk.number true }
  | .setWritten walk =>
      { store with written := Function.update store.written walk.number true }
  | _ => store

def ParentProc.next (proc : ParentProc) (store : ParentStore)
    (parentTarget : Nat) : ParentProc :=
  match proc with
  | .iterate curr =>
      if curr < parentTarget then
        .existance { number := (curr + 1).toNat, retries := 0 }
      else
        proc
  | .existance walk =>
      if store.written walk.number then .iterate walk.number
      else .processParentBlock walk
  | .processParentBlock walk => .setPb walk
  | .setPb walk => .setWritten walk
  | .setWritten walk => .iterate walk.number
  | .exited => .exited

/-- `startNum` is the argument of `iterate`. -/
def ParentFetcher.step (startNum : Int) (fetcher : ParentFetcher) :
    ParentEvent → Option ParentFetcher
  | .restart target =>
      some { fetcher with
        parentTarget := target
        proc := .iterate (startNum - 1) }
  | .updateParentTarget target => some { fetcher with parentTarget := target }
  | .proceed =>
      some { fetcher with
        store := fetcher.proc.write fetcher.store
        proc := fetcher.proc.next fetcher.store fetcher.parentTarget }
  | .fail applied =>
      match fetcher.proc.walk? with
      | some walk =>
          some { fetcher with
            store :=
              if applied then fetcher.proc.write fetcher.store
              else fetcher.store
            proc := walk.retry }
      | none => none

def ParentFetcher.initial : ParentFetcher where
  store := .empty
  parentTarget := 0
  proc := .exited

/-- The relay blocks from `first` up to `stop`, which is not one of them, are
stored. -/
def ParentStore.StoredFrom (store : ParentStore) (first stop : Nat) : Prop :=
  ∀ number, store.pb number = true ↔ first ≤ number ∧ number < stop

def ParentProcOk (first stop : Nat) : ParentProc → Prop
  | .iterate curr => (first : Int) - 1 ≤ curr ∧ curr < stop
  | .existance walk => first ≤ walk.number ∧ walk.number ≤ stop
  | .processParentBlock walk => first ≤ walk.number ∧ walk.number ≤ stop
  | .setPb walk => first ≤ walk.number ∧ walk.number ≤ stop
  | .setWritten walk => first ≤ walk.number ∧ walk.number < stop
  | .exited => True

structure ParentFetcherOk (fetcher : ParentFetcher) (first stop : Nat) :
    Prop where
  ordered : first ≤ stop
  stored : fetcher.store.StoredFrom first stop
  written : ∀ number, fetcher.store.written number = true →
    fetcher.store.pb number = true
  proc : ParentProcOk first stop fetcher.proc

variable {first stop : Nat} {startNum : Int} {fetcher after : ParentFetcher}
  {store : ParentStore} {walk : ParentWalk} {event : ParentEvent}

theorem ParentProcOk.bounds {proc : ParentProc}
    (h : ParentProcOk first stop proc) (hwalk : proc.walk? = some walk) :
    first ≤ walk.number ∧ walk.number ≤ stop := by
  cases proc with
  | iterate curr => cases hwalk
  | existance other => cases hwalk; exact h
  | processParentBlock other => cases hwalk; exact h
  | setPb other => cases hwalk; exact h
  | setWritten other => cases hwalk; exact ⟨h.1, Nat.le_of_lt h.2⟩
  | exited => cases hwalk

theorem ParentProcOk.retry (h : first ≤ walk.number ∧ walk.number ≤ stop) :
    ParentProcOk first stop walk.retry := by
  unfold ParentWalk.retry
  split
  · exact h
  · exact True.intro

/-- The block that is stored is one of the interval, or the one behind it. -/
theorem storedFrom_setPb (hstored : store.StoredFrom first stop)
    (hwalk : first ≤ walk.number ∧ walk.number ≤ stop) :
    ((ParentProc.setPb walk).write store).StoredFrom first
      (max stop (walk.number + 1)) := by
  intro number
  rcases eq_or_ne number walk.number with rfl | hne
  · simp only [ParentProc.write, Function.update_self, true_iff]
    omega
  · simp only [ParentProc.write, Function.update_of_ne hne, hstored number]
    omega

theorem parentWritten_setPb
    (hwritten : ∀ number, store.written number = true →
      store.pb number = true) :
    ∀ number, ((ParentProc.setPb walk).write store).written number = true →
      ((ParentProc.setPb walk).write store).pb number = true := by
  intro number hmark
  exact update_relates (fun new old => old = true → new = true)
    (fun _ hold => hold) (fun _ => rfl) number (hwritten number hmark)

theorem parentWritten_setWritten
    (hwritten : ∀ number, store.written number = true →
      store.pb number = true)
    (hwalk : store.pb walk.number = true) :
    ∀ number, ((ParentProc.setWritten walk).write store).written number = true →
      ((ParentProc.setWritten walk).write store).pb number = true := by
  intro number hmark
  rcases update_cases (· = true) hmark with ⟨rfl, -⟩ | ⟨-, hold⟩
  · exact hwalk
  · exact hwritten number hold

/-- The write of an await, before anything is known of what follows it. -/
theorem ParentFetcherOk.write (h : ParentFetcherOk fetcher first stop) :
    ∃ stored, stop ≤ stored ∧
      (∀ walk, fetcher.proc = .setPb walk → walk.number < stored) ∧
      ParentFetcherOk { fetcher with store := fetcher.proc.write fetcher.store }
        first stored := by
  obtain ⟨store, parentTarget, proc⟩ := fetcher
  obtain ⟨hordered, hstored, hwritten, hproc⟩ := h
  cases proc with
  | setPb walk =>
      obtain ⟨hfirst, hlast⟩ := hproc
      refine ⟨max stop (walk.number + 1), by omega, ?_, ?_⟩
      · intro other heq
        cases heq
        omega
      · exact
          { ordered := by omega
            stored := storedFrom_setPb hstored ⟨hfirst, hlast⟩
            written := parentWritten_setPb hwritten
            proc := ⟨hfirst, by omega⟩ }
  | setWritten walk =>
      refine ⟨stop, Nat.le_refl _, nofun, ?_⟩
      exact
        { ordered := hordered
          stored := hstored
          written := parentWritten_setWritten hwritten
            ((hstored walk.number).mpr hproc)
          proc := hproc }
  | _ =>
      exact ⟨stop, Nat.le_refl _, nofun, hordered, hstored, hwritten, hproc⟩

theorem ParentFetcherOk.next (h : ParentFetcherOk fetcher first stop)
    {stored : Nat} (hle : stop ≤ stored)
    (hwrite : ∀ walk, fetcher.proc = .setPb walk → walk.number < stored) :
    ParentProcOk first stored
      (fetcher.proc.next fetcher.store fetcher.parentTarget) := by
  obtain ⟨store, parentTarget, proc⟩ := fetcher
  obtain ⟨hordered, hstored, hwritten, hproc⟩ := h
  cases proc with
  | iterate curr =>
      obtain ⟨hfirst, hlast⟩ := hproc
      simp only [ParentProc.next]
      split
      · change first ≤ (curr + 1).toNat ∧ (curr + 1).toNat ≤ stored
        omega
      · exact ⟨hfirst, by omega⟩
  | existance walk =>
      obtain ⟨hfirst, hlast⟩ := hproc
      simp only [ParentProc.next]
      split
      · next hmark =>
          have := (hstored walk.number).mp (hwritten walk.number hmark)
          exact ⟨by omega, by omega⟩
      · exact ⟨hfirst, Nat.le_trans hlast hle⟩
  | processParentBlock walk => exact ⟨hproc.1, Nat.le_trans hproc.2 hle⟩
  | setPb walk => exact ⟨hproc.1, hwrite walk rfl⟩
  | setWritten walk =>
      obtain ⟨hfirst, hlast⟩ := hproc
      exact ⟨by omega, by omega⟩
  | exited => exact True.intro

/-- The stored interval only grows, and only at its end. -/
theorem parentFetcherOk_step (h : ParentFetcherOk fetcher first stop)
    (hstart : (first : Int) ≤ startNum ∧ startNum ≤ stop)
    (taken : fetcher.step startNum event = some after) :
    ∃ stored, stop ≤ stored ∧ ParentFetcherOk after first stored := by
  cases event with
  | restart target =>
      cases taken
      refine ⟨stop, Nat.le_refl _, h.ordered, h.stored, h.written, ?_, ?_⟩
      · omega
      · omega
  | updateParentTarget target =>
      cases taken
      exact ⟨stop, Nat.le_refl _, h.ordered, h.stored, h.written, h.proc⟩
  | proceed =>
      cases taken
      obtain ⟨stored, hle, hwrite, hok⟩ := h.write
      exact ⟨stored, hle, hok.ordered, hok.stored, hok.written,
        h.next hle hwrite⟩
  | fail applied =>
      simp only [ParentFetcher.step] at taken
      split at taken
      · next walk hwalk =>
          cases taken
          obtain ⟨hfirst, hlast⟩ := ParentProcOk.bounds h.proc hwalk
          cases applied with
          | false =>
              exact ⟨stop, Nat.le_refl _, h.ordered, h.stored, h.written,
                ParentProcOk.retry ⟨hfirst, hlast⟩⟩
          | true =>
              obtain ⟨stored, hle, -, hok⟩ := h.write
              exact ⟨stored, hle, hok.ordered, hok.stored, hok.written,
                ParentProcOk.retry ⟨hfirst, Nat.le_trans hlast hle⟩⟩
      · cases taken

theorem parentFetcherOk_initial (first : Nat) :
    ParentFetcherOk .initial first first where
  ordered := Nat.le_refl _
  stored := fun number => by
    simp only [ParentFetcher.initial, ParentStore.empty, Bool.false_eq_true,
      false_iff]
    omega
  written := fun _ hmark => hmark
  proc := True.intro

end RuntimeBridge.DataProvider
