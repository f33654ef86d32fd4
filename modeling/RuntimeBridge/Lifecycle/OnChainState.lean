import RuntimeBridge.Library.Machine
import RuntimeBridge.Library.Update

/-! `subscribeOnChainState`: a subscription to the account that a worker is bound
to, and under it one to the session of each account.  The state machine of the
worker decides by `sessionInfo`. -/

namespace RuntimeBridge.Lifecycle

open Library

/-- A subscription to `sessions(account)`. -/
structure SessionSub (Account : Type) where
  account : Account
  /-- The promise of its unsubscribe function has settled. -/
  returned : Bool
  live : Bool
  deriving DecidableEq

/-- `sessionInfo` is kept with the account that it is about. -/
structure OnChainState (Account Session : Type) where
  shouldStop : Bool
  accountId : Option Account
  sessionInfo : Option (Account × Session)
  sessions : List (SessionSub Account)
  unsubscribeSessionInfo : Option Nat
  /-- The accounts that are asked about once. -/
  queries : List Account
  deriving DecidableEq

inductive OnChainEvent (Account Session : Type) where
  | account (account : Option Account)
  | subscribed (sub : Nat)
  | subscribeFails (sub : Nat)
  | session (sub : Nat) (info : Session)
  | queried (query : Nat) (info : Session)
  | queryFails (query : Nat)
  | unsubscribe
  deriving DecidableEq

namespace OnChainState

variable {Account Session : Type}

def initial : OnChainState Account Session where
  shouldStop := false
  accountId := none
  sessionInfo := none
  sessions := []
  unsubscribeSessionInfo := none
  queries := []

/-- `ret._unsubscribeSessionInfo?.()` -/
def endSession (state : OnChainState Account Session) :
    OnChainState Account Session :=
  match state.unsubscribeSessionInfo with
  | some sub =>
      { state with
        sessions := state.sessions.modify sub ({ · with live := false }) }
  | none => state

/-- The callback of `workerBindings`, up to its await. -/
def onAccount (noAccount : Account) (state : OnChainState Account Session)
    (account : Option Account) : OnChainState Account Session :=
  if state.shouldStop then
    state
  else
    match account with
    | some account =>
        { state.endSession with
          accountId := some account
          sessions := state.endSession.sessions ++
            [{ account, returned := false, live := true }] }
    | none =>
        { state with
          accountId := some noAccount
          queries := state.queries ++ [noAccount] }

/-- The callback of `sessions`. -/
def onSession (state : OnChainState Account Session) (account : Account)
    (info : Session) : OnChainState Account Session :=
  if state.shouldStop then
    state.endSession
  else
    { state with sessionInfo := some (account, info) }

/-- `noAccount` is the account of an empty binding. -/
def step (noAccount : Account) (state : OnChainState Account Session) :
    OnChainEvent Account Session → Option (OnChainState Account Session)
  | .account account => some (state.onAccount noAccount account)
  | .subscribed sub =>
      match state.sessions[sub]? with
      | some { returned := false, .. } =>
          some { state with
            sessions := state.sessions.modify sub ({ · with returned := true })
            unsubscribeSessionInfo := some sub }
      | _ => none
  | .subscribeFails sub =>
      match state.sessions[sub]? with
      | some { returned := false, .. } =>
          some { state with
            sessions := state.sessions.modify sub
              ({ · with returned := true, live := false }) }
      | _ => none
  | .session sub info =>
      match state.sessions[sub]? with
      | some { account, live := true, .. } => some (state.onSession account info)
      | _ => none
  | .queried query info =>
      state.queries[query]?.map fun account =>
        { state with
          sessionInfo := some (account, info)
          queries := state.queries.eraseIdx query }
  | .queryFails query =>
      if query < state.queries.length then
        some { state with queries := state.queries.eraseIdx query }
      else
        none
  | .unsubscribe =>
      some { state.endSession with shouldStop := true }

end OnChainState

def onChainMachine {Account : Type} (Session : Type) (noAccount : Account) :
    Machine (OnChainState Account Session) (OnChainEvent Account Session) where
  start := .initial
  step := OnChainState.step noAccount

variable {Account Session : Type} {noAccount : Account}
  {state after later : OnChainState Account Session}
  {event : OnChainEvent Account Session} {sub : SessionSub Account} {place : Nat}

/-- No subscription is still being made when the worker is bound to another
account. -/
def bindsAlone (state : OnChainState Account Session) :
    OnChainEvent Account Session → Prop
  | .account (some _) => state.shouldStop = false →
      ∀ sub ∈ state.sessions, sub.returned = true
  | _ => True

instance (state : OnChainState Account Session)
    (event : OnChainEvent Account Session) : Decidable (bindsAlone state event) := by
  unfold bindsAlone
  split <;> infer_instance

namespace OnChainState

def AtMostOne (state : OnChainState Account Session) : Prop :=
  ∀ (place other : Nat) sub another,
    state.sessions[place]? = some sub → state.sessions[other]? = some another →
    sub.live = true → another.live = true → place = other

structure SessionsOk (noAccount : Account)
    (state : OnChainState Account Session) : Prop where
  /-- Only the last subscription is live. -/
  last : ∀ (place : Nat) sub, state.sessions[place]? = some sub →
    sub.live = true → place + 1 = state.sessions.length
  held : ∀ (place : Nat) sub, state.sessions[place]? = some sub →
    sub.live = true → sub.returned = true →
      state.unsubscribeSessionInfo = some place
  pending : ∀ (place : Nat) sub, state.sessions[place]? = some sub →
    sub.returned = false → sub.live = true
  current : ∀ place, state.unsubscribeSessionInfo = some place →
    ∃ sub, state.sessions[place]? = some sub ∧ sub.returned = true
  account : ∀ (place : Nat) sub, state.sessions[place]? = some sub →
    place + 1 = state.sessions.length →
      state.accountId = some sub.account ∨ state.accountId = some noAccount
  queries : ∀ account ∈ state.queries, account = noAccount

@[simp] theorem endSession_length (state : OnChainState Account Session) :
    state.endSession.sessions.length = state.sessions.length := by
  unfold endSession
  split
  · exact List.length_modify ..
  · rfl

theorem endSession_frame (state : OnChainState Account Session) :
    ∃ sessions, state.endSession = { state with sessions } := by
  unfold endSession
  split
  · exact ⟨_, rfl⟩
  · exact ⟨_, rfl⟩

theorem endSession_cases
    (h : state.endSession.sessions[place]? = some sub) :
    ∃ old, state.sessions[place]? = some old ∧ sub.account = old.account ∧
      sub.returned = old.returned ∧
      (sub.live = true ↔
        old.live = true ∧ state.unsubscribeSessionInfo ≠ some place) := by
  unfold endSession at h
  split at h
  · next current hcurrent =>
      rw [hcurrent]
      obtain ⟨old, hold, ⟨rfl, rfl⟩ | ⟨hne, rfl⟩⟩ := getElem?_modify_cases h
      · exact ⟨old, hold, rfl, rfl, by simp⟩
      · exact ⟨sub, hold, rfl, rfl, by simp [hne]⟩
  · next hnone =>
      rw [hnone]
      exact ⟨sub, h, rfl, rfl, by simp⟩

theorem endSession_some (h : state.sessions[place]? = some sub) :
    ∃ ended, state.endSession.sessions[place]? = some ended ∧
      ended.returned = sub.returned ∧
      (ended.live = true ↔
        sub.live = true ∧ state.unsubscribeSessionInfo ≠ some place) := by
  have hlt := (List.getElem?_eq_some_iff.mp h).1
  rw [← endSession_length] at hlt
  obtain ⟨old, hold, -, hreturned, hlive⟩ :=
    endSession_cases (List.getElem?_eq_getElem hlt)
  cases Option.some.inj (h.symm.trans hold)
  exact ⟨_, List.getElem?_eq_getElem hlt, hreturned, hlive⟩

namespace SessionsOk

theorem atMostOne (h : SessionsOk noAccount state) : state.AtMostOne := by
  intro place other sub another hsub hanother hlive hanotherLive
  have hplace := h.last place sub hsub hlive
  have hother := h.last other another hanother hanotherLive
  omega

theorem endSession (h : SessionsOk noAccount state) :
    SessionsOk noAccount state.endSession := by
  obtain ⟨sessions, hframe⟩ := state.endSession_frame
  have haccount : state.endSession.accountId = state.accountId := by
    rw [hframe]
  have hcurrent : state.endSession.unsubscribeSessionInfo =
      state.unsubscribeSessionInfo := by
    rw [hframe]
  have hqueries : state.endSession.queries = state.queries := by
    rw [hframe]
  refine
    { last := fun place sub hsub hlive => ?_
      held := fun place sub hsub hlive hreturned => ?_
      pending := fun place sub hsub hpending => ?_
      current := fun place hplace => ?_
      account := fun place sub hsub hlast => ?_
      queries := hqueries ▸ h.queries }
  · obtain ⟨old, hold, -, -, hiff⟩ := endSession_cases hsub
    rw [endSession_length]
    exact h.last place old hold (hiff.mp hlive).1
  · obtain ⟨old, hold, -, hsame, hiff⟩ := endSession_cases hsub
    obtain ⟨holdLive, hne⟩ := hiff.mp hlive
    exact absurd (h.held place old hold holdLive (hsame ▸ hreturned)) hne
  · obtain ⟨old, hold, -, hsame, hiff⟩ := endSession_cases hsub
    have holdPending : old.returned = false := hsame ▸ hpending
    refine hiff.mpr ⟨h.pending place old hold holdPending, fun heq => ?_⟩
    obtain ⟨returned, hreturned, htrue⟩ := h.current place heq
    cases Option.some.inj (hold.symm.trans hreturned)
    rw [holdPending] at htrue
    cases htrue
  · rw [hcurrent] at hplace
    obtain ⟨sub, hsub, hreturned⟩ := h.current place hplace
    obtain ⟨ended, hended, hsame, -⟩ := endSession_some hsub
    exact ⟨ended, hended, hsame.trans hreturned⟩
  · obtain ⟨old, hold, hsame, -, -⟩ := endSession_cases hsub
    rw [endSession_length] at hlast
    rw [haccount, hsame]
    exact h.account place old hold hlast

/-- A subscription that has returned can be ended. -/
theorem endSession_dead (h : SessionsOk noAccount state)
    (hmember : sub ∈ state.endSession.sessions) (hreturned : sub.returned = true) :
    sub.live = false := by
  obtain ⟨place, hsub⟩ := List.mem_iff_getElem?.mp hmember
  obtain ⟨old, hold, -, hsame, hiff⟩ := endSession_cases hsub
  rw [← Bool.not_eq_true]
  intro hlive
  obtain ⟨holdLive, hne⟩ := hiff.mp hlive
  exact hne (h.held place old hold holdLive (hsame ▸ hreturned))

theorem bind (h : SessionsOk noAccount state) (account : Account)
    (returned : ∀ sub ∈ state.sessions, sub.returned = true) :
    SessionsOk noAccount { state.endSession with
      accountId := some account
      sessions := state.endSession.sessions ++
        [{ account, returned := false, live := true }] } := by
  have hended := h.endSession
  have hold : ∀ (place : Nat) sub,
      state.endSession.sessions[place]? = some sub → sub.live = false := by
    intro place sub hsub
    obtain ⟨old, hold, -, hsame, -⟩ := endSession_cases hsub
    exact h.endSession_dead (List.mem_of_getElem? hsub)
      (hsame.trans (returned old (List.mem_of_getElem? hold)))
  refine
    { last := fun place sub hsub hlive => ?_
      held := fun place sub hsub hlive hreturned => ?_
      pending := fun place sub hsub hpending => ?_
      current := fun place hplace => ?_
      account := fun place sub hsub hlast => ?_
      queries := hended.queries }
  · rw [List.length_append, List.length_singleton]
    rcases getElem?_concat_cases hsub with hbefore | ⟨hplace, -⟩
    · rw [hold place sub hbefore] at hlive
      cases hlive
    · omega
  · rcases getElem?_concat_cases hsub with hbefore | ⟨-, rfl⟩
    · exact hended.held place sub hbefore hlive hreturned
    · cases hreturned
  · rcases getElem?_concat_cases hsub with hbefore | ⟨-, rfl⟩
    · exact hended.pending place sub hbefore hpending
    · rfl
  · obtain ⟨sub, hsub, hreturned⟩ := hended.current place hplace
    exact ⟨sub, getElem?_concat_of_some hsub _, hreturned⟩
  · rcases getElem?_concat_cases hsub with hbefore | ⟨-, rfl⟩
    · have hlt := (List.getElem?_eq_some_iff.mp hbefore).1
      rw [List.length_append, List.length_singleton] at hlast
      omega
    · exact Or.inl rfl

theorem subscribed (h : SessionsOk noAccount state)
    (hsub : state.sessions[place]? = some sub) (hpending : sub.returned = false) :
    SessionsOk noAccount { state with
      sessions := state.sessions.modify place ({ · with returned := true })
      unsubscribeSessionInfo := some place } := by
  have hlast := h.last place sub hsub (h.pending place sub hsub hpending)
  refine
    { last := fun other changed hchanged hlive => ?_
      held := fun other changed hchanged hlive _ => ?_
      pending := fun other changed hchanged hstill => ?_
      current := fun other hother => ?_
      account := fun other changed hchanged hend => ?_
      queries := h.queries }
  · rw [List.length_modify]
    obtain ⟨old, hold, ⟨-, rfl⟩ | ⟨-, rfl⟩⟩ := getElem?_modify_cases hchanged
    · exact h.last other old hold hlive
    · exact h.last other changed hold hlive
  · obtain ⟨old, hold, ⟨rfl, -⟩ | ⟨hne, rfl⟩⟩ := getElem?_modify_cases hchanged
    · rfl
    · have hother := h.last other changed hold hlive
      exact absurd (by omega) hne
  · obtain ⟨old, hold, ⟨-, rfl⟩ | ⟨-, rfl⟩⟩ := getElem?_modify_cases hchanged
    · cases hstill
    · exact h.pending other changed hold hstill
  · cases Option.some.inj hother
    exact ⟨_, by rw [List.getElem?_modify_eq, hsub]; rfl, rfl⟩
  · rw [List.length_modify] at hend
    obtain ⟨old, hold, ⟨-, rfl⟩ | ⟨-, rfl⟩⟩ := getElem?_modify_cases hchanged
    · exact h.account other old hold hend
    · exact h.account other changed hold hend

theorem subscribeFails (h : SessionsOk noAccount state)
    (hsub : state.sessions[place]? = some sub) (hpending : sub.returned = false) :
    SessionsOk noAccount { state with
      sessions := state.sessions.modify place
        ({ · with returned := true, live := false }) } := by
  refine
    { last := fun other changed hchanged hlive => ?_
      held := fun other changed hchanged hlive hreturned => ?_
      pending := fun other changed hchanged hstill => ?_
      current := fun other hother => ?_
      account := fun other changed hchanged hend => ?_
      queries := h.queries }
  · rw [List.length_modify]
    obtain ⟨old, hold, ⟨-, rfl⟩ | ⟨-, rfl⟩⟩ := getElem?_modify_cases hchanged
    · cases hlive
    · exact h.last other changed hold hlive
  · obtain ⟨old, hold, ⟨-, rfl⟩ | ⟨-, rfl⟩⟩ := getElem?_modify_cases hchanged
    · cases hlive
    · exact h.held other changed hold hlive hreturned
  · obtain ⟨old, hold, ⟨-, rfl⟩ | ⟨-, rfl⟩⟩ := getElem?_modify_cases hchanged
    · cases hstill
    · exact h.pending other changed hold hstill
  · obtain ⟨current, hcurrent, hreturned⟩ := h.current other hother
    have hne : place ≠ other := by
      rintro rfl
      cases Option.some.inj (hsub.symm.trans hcurrent)
      rw [hpending] at hreturned
      cases hreturned
    exact ⟨current, (List.getElem?_modify_ne _ _ hne).trans hcurrent, hreturned⟩
  · rw [List.length_modify] at hend
    obtain ⟨old, hold, ⟨-, rfl⟩ | ⟨-, rfl⟩⟩ := getElem?_modify_cases hchanged
    · exact h.account other old hold hend
    · exact h.account other changed hold hend

theorem onAccount (h : SessionsOk noAccount state) (account : Option Account)
    (hguard : bindsAlone state (.account account)) :
    SessionsOk noAccount (state.onAccount noAccount account) := by
  unfold OnChainState.onAccount
  split
  · exact h
  · next hgoes =>
      cases account with
      | some account => exact h.bind account (hguard (by simpa using hgoes))
      | none =>
          refine { h with
            account := fun _ _ _ _ => Or.inr rfl, queries := ?_ }
          intro account hmember
          rcases List.mem_append.mp hmember with hold | hnew
          · exact h.queries account hold
          · exact List.mem_singleton.mp hnew

theorem onSession (h : SessionsOk noAccount state) (account : Account)
    (info : Session) : SessionsOk noAccount (state.onSession account info) := by
  unfold OnChainState.onSession
  split
  · exact h.endSession
  · exact { h with }

theorem step (h : SessionsOk noAccount state) (hguard : bindsAlone state event)
    (taken : state.step noAccount event = some after) :
    SessionsOk noAccount after := by
  cases event with
  | account account =>
      cases Option.some.inj taken
      exact h.onAccount account hguard
  | subscribed place =>
      simp only [OnChainState.step] at taken
      split at taken
      · next hsub =>
          cases Option.some.inj taken
          exact h.subscribed hsub rfl
      · cases taken
  | subscribeFails place =>
      simp only [OnChainState.step] at taken
      split at taken
      · next hsub =>
          cases Option.some.inj taken
          exact h.subscribeFails hsub rfl
      · cases taken
  | session place info =>
      simp only [OnChainState.step] at taken
      split at taken
      · cases Option.some.inj taken
        exact h.onSession _ info
      · cases taken
  | queried query info =>
      obtain ⟨account, -, rfl⟩ := Option.map_eq_some_iff.mp taken
      exact { h with
        queries := fun other hmember =>
          h.queries other (List.mem_of_mem_eraseIdx hmember) }
  | queryFails query =>
      simp only [OnChainState.step] at taken
      split at taken
      · cases Option.some.inj taken
        exact { h with
          queries := fun other hmember =>
            h.queries other (List.mem_of_mem_eraseIdx hmember) }
      · cases taken
  | unsubscribe =>
      cases Option.some.inj taken
      exact { h.endSession with }

end SessionsOk

end OnChainState

open OnChainState

theorem sessionsOk_reaches
    (h : (onChainMachine Session noAccount).Reaches bindsAlone state) :
    SessionsOk noAccount state := by
  refine Machine.Preserves.reaches
    (fun _ _ _ hguard hbefore taken => hbefore.step hguard taken) ?_ h
  exact
    { last := fun _ _ hsub => by cases hsub
      held := fun _ _ hsub => by cases hsub
      pending := fun _ _ hsub => by cases hsub
      current := fun _ hplace => by cases hplace
      account := fun _ _ hsub => by cases hsub
      queries := fun _ hmember => by cases hmember }

/-- A binding that finds a subscription being made leaves it to itself. -/
theorem not_atMostOne (h : SessionsOk noAccount state) {account : Account}
    (hgoes : state.shouldStop = false) (hsub : sub ∈ state.sessions)
    (hpending : sub.returned = false) :
    ¬ (state.onAccount noAccount (some account)).AtMostOne := by
  intro hone
  obtain ⟨place, hplace⟩ := List.mem_iff_getElem?.mp hsub
  have hlive := h.pending place sub hplace hpending
  have hother : state.unsubscribeSessionInfo ≠ some place := by
    intro heq
    obtain ⟨current, hcurrent, hreturned⟩ := h.current place heq
    cases Option.some.inj (hplace.symm.trans hcurrent)
    rw [hpending] at hreturned
    cases hreturned
  obtain ⟨ended, hended, -, hiff⟩ := endSession_some hplace
  have hlt := (List.getElem?_eq_some_iff.mp hended).1
  have hbound : (state.onAccount noAccount (some account)).sessions =
      state.endSession.sessions ++
        [{ account, returned := false, live := true }] := by
    simp [onAccount, hgoes]
  have hsame := hone place state.endSession.sessions.length ended
    { account, returned := false, live := true }
    (by rw [hbound]; exact getElem?_concat_of_some hended _)
    (by rw [hbound, List.getElem?_concat_length])
    (hiff.mpr ⟨hlive, hother⟩) rfl
  omega

theorem atMostOne_iff (h : SessionsOk noAccount state)
    (taken : state.step noAccount event = some after) :
    after.AtMostOne ↔ bindsAlone state event := by
  refine ⟨fun hone => ?_, fun hguard => (h.step hguard taken).atMostOne⟩
  cases event with
  | account account =>
      cases account with
      | none => exact True.intro
      | some account =>
          cases Option.some.inj taken
          intro hgoes sub hsub
          rw [← Bool.not_eq_false]
          exact fun hpending =>
            not_atMostOne h hgoes hsub hpending hone
  | subscribed place => exact True.intro
  | subscribeFails place => exact True.intro
  | session place info => exact True.intro
  | queried query info => exact True.intro
  | queryFails query => exact True.intro
  | unsubscribe => exact True.intro

/-- Only the questions asked before can still change `sessionInfo`. -/
structure StaysStopped (state later : OnChainState Account Session) : Prop where
  stopped : later.shouldStop = true
  accountId : later.accountId = state.accountId
  sessions : later.sessions.length = state.sessions.length
  queries : state.queries = [] → later.queries = []
  sessionInfo : state.queries = [] → later.sessionInfo = state.sessionInfo

theorem StaysStopped.step (h : StaysStopped state later)
    (taken : later.step noAccount event = some after) :
    StaysStopped state after := by
  cases event with
  | account account =>
      cases Option.some.inj taken
      have hsame : later.onAccount noAccount account = later :=
        if_pos h.stopped
      rw [hsame]
      exact h
  | subscribed place =>
      simp only [OnChainState.step] at taken
      split at taken
      · cases Option.some.inj taken
        exact { h with sessions := (List.length_modify ..).trans h.sessions }
      · cases taken
  | subscribeFails place =>
      simp only [OnChainState.step] at taken
      split at taken
      · cases Option.some.inj taken
        exact { h with sessions := (List.length_modify ..).trans h.sessions }
      · cases taken
  | session place info =>
      simp only [OnChainState.step] at taken
      split at taken
      · cases Option.some.inj taken
        rw [onSession, if_pos h.stopped]
        have hlength := later.endSession_length
        obtain ⟨sessions, hframe⟩ := later.endSession_frame
        rw [hframe] at hlength ⊢
        exact { h with sessions := hlength.trans h.sessions }
      · cases taken
  | queried query info =>
      obtain ⟨account, haccount, rfl⟩ := Option.map_eq_some_iff.mp taken
      have hsome : state.queries ≠ [] := fun hnone => by
        rw [h.queries hnone] at haccount
        cases haccount
      exact
        { h with
          queries := fun hnone => absurd hnone hsome
          sessionInfo := fun hnone => absurd hnone hsome }
  | queryFails query =>
      simp only [OnChainState.step] at taken
      split at taken
      · cases Option.some.inj taken
        exact
          { h with
            queries := fun hnone => by rw [h.queries hnone]; rfl }
      · cases taken
  | unsubscribe =>
      cases Option.some.inj taken
      have hlength := later.endSession_length
      obtain ⟨sessions, hframe⟩ := later.endSession_frame
      rw [hframe] at hlength ⊢
      exact
        { h with
          stopped := rfl
          sessions := hlength.trans h.sessions }

/-- While the bindings come one by one, one session subscription is live at
most, and what it delivers is about the account that the worker was bound to
last.  The answer to a question is about the empty account, whatever the worker
is bound to by then.  Once unsubscribed, the state stays as it is, and the next
session ends what was still being subscribed. -/
theorem session_current (noAccount : Account)
    (state : OnChainState Account Session)
    (h : (onChainMachine Session noAccount).Reaches bindsAlone state) :
    (state.AtMostOne ∧ ∀ event after, state.step noAccount event = some after →
      (after.AtMostOne ↔ bindsAlone state event)) ∧
    (∀ place info after,
      state.step noAccount (.session place info) = some after →
      (state.shouldStop = false → ∃ account,
        after.sessionInfo = some (account, info) ∧
          (state.accountId = some account ∨
            state.accountId = some noAccount)) ∧
      (state.shouldStop = true →
        after.sessionInfo = state.sessionInfo ∧
        ∀ sub ∈ after.sessions, sub.returned = true → sub.live = false)) ∧
    (∀ query info after,
      state.step noAccount (.queried query info) = some after →
      after = { state with
        sessionInfo := some (noAccount, info)
        queries := state.queries.eraseIdx query }) ∧
    ∀ later,
      (onChainMachine Session noAccount).Leads Machine.anyEvent state later →
      state.shouldStop = true → StaysStopped state later := by
  have hok := sessionsOk_reaches h
  refine ⟨⟨hok.atMostOne, fun event after => atMostOne_iff hok⟩,
    fun place info after taken => ?_, fun query info after taken => ?_,
    fun later hleads hstop => ?_⟩
  · simp only [OnChainState.step] at taken
    split at taken
    · next account returned hsub =>
        cases Option.some.inj taken
        have hlast := hok.last place _ hsub rfl
        refine ⟨fun hgoes => ⟨account, ?_, hok.account place _ hsub hlast⟩,
          fun hstop => ?_⟩
        · simp [onSession, hgoes]
        · rw [onSession, if_pos hstop]
          obtain ⟨sessions, hframe⟩ := state.endSession_frame
          exact ⟨by rw [hframe], fun sub => hok.endSession_dead⟩
    · cases taken
  · obtain ⟨account, haccount, rfl⟩ := Option.map_eq_some_iff.mp taken
    rw [hok.queries account (List.mem_of_getElem? haccount)]
  · have hkept : (onChainMachine Session noAccount).Preserves
        Machine.anyEvent (StaysStopped state) :=
      fun _ _ _ _ hbefore taken => hbefore.step taken
    exact hkept.leads
      { stopped := hstop, accountId := rfl, sessions := rfl
        queries := id, sessionInfo := fun _ => rfl } hleads

/-- The worker is bound to a second account, and then it is destroyed. -/
def bindsTwice : List (OnChainEvent String Nat) :=
  [.account (some "a"), .session 0 4, .subscribed 0, .session 0 5,
    .account (some "b"), .subscribed 1, .session 1 6, .unsubscribe]

theorem session_current_twice :
    let state := (onChainMachine Nat "").endedIf
      (fun state event => decide (bindsAlone state event)) bindsTwice
    state.sessionInfo = some ("b", 6) ∧
      state.sessions.map (·.live) = [false, false] ∧ state.AtMostOne :=
  ⟨by decide, by decide, (session_current "" _ (Machine.reaches_endedIf
    (fun _ _ => of_decide_eq_true) (by decide))).1.1⟩

end RuntimeBridge.Lifecycle
