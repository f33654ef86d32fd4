import Mathlib.Logic.Function.Basic

/-! Numbered messages of several origins, for a receiver that takes the next one
of each origin. -/

namespace RuntimeBridge.Library

variable {Origin : Type u} {Message : Type v} [DecidableEq Origin]

/-- How the messages tell their origin and their place in it.  The receiver may
refuse those that are not valid. -/
structure Numbering (Origin : Type u) (Message : Type v) where
  origin : Message → Origin
  sequence : Message → Nat
  valid : Message → Prop

namespace Numbering

variable (numbering : Numbering Origin Message)

/-- What the receiver expects if it refuses nothing but what it has. -/
def reached (next : Origin → Nat) : List Message → (Origin → Nat)
  | [] => next
  | message :: rest =>
      let origin := numbering.origin message
      reached (Function.update next origin
        (max (next origin) (numbering.sequence message + 1))) rest

/-- No message comes before one of its origin that the receiver lacks. -/
def NoGap (next : Origin → Nat) : List Message → Prop
  | [] => True
  | message :: rest =>
      let origin := numbering.origin message
      numbering.valid message ∧ numbering.sequence message ≤ next origin ∧
        NoGap (Function.update next origin
          (max (next origin) (numbering.sequence message + 1))) rest

/-- Messages of one origin, numbered one after the other from at most the one
that the receiver expects. -/
def Follows (next : Origin → Nat) (origin : Origin) (messages : List Message) :
    Prop :=
  (∀ message ∈ messages,
      numbering.valid message ∧ numbering.origin message = origin) ∧
    ∃ first ≤ next origin, messages.map numbering.sequence =
      List.range' first messages.length

variable {numbering : Numbering Origin Message} {next later : Origin → Nat}
  {origin : Origin} {messages others : List Message} {message : Message}

theorem update_le {value more : Nat} (hle : ∀ other, next other ≤ later other)
    (hvalue : value ≤ more) (other : Origin) :
    Function.update next origin value other ≤
      Function.update later origin more other := by
  by_cases hsame : other = origin
  · subst hsame
    simpa using hvalue
  · simpa [hsame] using hle other

theorem le_update {value : Nat} (hvalue : next origin ≤ value)
    (other : Origin) : next other ≤ Function.update next origin value other := by
  by_cases hsame : other = origin
  · subst hsame
    simpa using hvalue
  · simp [hsame]

theorem le_reached (messages : List Message) (other : Origin) :
    next other ≤ numbering.reached next messages other := by
  induction messages generalizing next with
  | nil => exact Nat.le_refl _
  | cons message rest ih =>
      exact Nat.le_trans (le_update (Nat.le_max_left _ _) other) ih

/-- Whatever comes, each message is behind what is then expected. -/
theorem lt_reached (hmember : message ∈ messages) :
    numbering.sequence message <
      numbering.reached next messages (numbering.origin message) := by
  induction messages generalizing next with
  | nil => cases hmember
  | cons head rest ih =>
      rcases List.mem_cons.mp hmember with rfl | hlater
      · refine Nat.lt_of_lt_of_le ?_ (le_reached rest _)
        simp only [Function.update_self]
        exact Nat.lt_of_lt_of_le (Nat.lt_succ_self _) (Nat.le_max_right _ _)
      · exact ih hlater

theorem NoGap.mono (h : numbering.NoGap next messages)
    (hle : ∀ other, next other ≤ later other) :
    numbering.NoGap later messages := by
  induction messages generalizing next later with
  | nil => exact True.intro
  | cons message rest ih =>
      obtain ⟨hvalid, hmessage, hrest⟩ := h
      have hnext := hle (numbering.origin message)
      refine ⟨hvalid, Nat.le_trans hmessage hnext, ih hrest (update_le hle ?_)⟩
      omega

theorem NoGap.append (h : numbering.NoGap next messages)
    (hothers : numbering.NoGap next others) :
    numbering.NoGap next (messages ++ others) := by
  induction messages generalizing next with
  | nil => exact hothers
  | cons message rest ih =>
      exact ⟨h.1, h.2.1,
        ih h.2.2 (hothers.mono (le_update (Nat.le_max_left _ _)))⟩

omit [DecidableEq Origin] in
theorem Follows.mono (h : numbering.Follows next origin messages)
    (hle : ∀ other, next other ≤ later other) :
    numbering.Follows later origin messages := by
  obtain ⟨horigin, first, hfirst, hnumbers⟩ := h
  exact ⟨horigin, first, Nat.le_trans hfirst (hle origin), hnumbers⟩

/-- Leaving out the first messages of an origin leaves no gap, if the receiver
has them. -/
theorem Follows.noGap (h : numbering.Follows next origin messages)
    {seen : Nat} (hseen : seen ≤ next origin) :
    numbering.NoGap next
      (messages.filter fun message =>
        decide (seen ≤ numbering.sequence message)) := by
  obtain ⟨horigin, first, hfirst, hnumbers⟩ := h
  induction messages generalizing next first with
  | nil => exact True.intro
  | cons message rest ih =>
      rw [List.forall_mem_cons] at horigin
      rw [List.map_cons, List.length_cons, List.range'_succ,
        List.cons.injEq] at hnumbers
      obtain ⟨hsequence, hrest⟩ := hnumbers
      obtain ⟨⟨hvalid, hsame⟩, horigin⟩ := horigin
      rw [List.filter_cons]
      split
      · refine ⟨hvalid, by rw [hsame, hsequence]; exact hfirst, ?_⟩
        simp only [hsame, hsequence]
        refine ih ?_ horigin (first + 1) ?_ hrest
        · rw [Function.update_self]
          exact Nat.le_trans hseen (Nat.le_max_left _ _)
        · rw [Function.update_self]
          exact Nat.le_max_right _ _
      · next hskipped =>
          rw [decide_eq_true_eq, hsequence] at hskipped
          exact ih hseen horigin (first + 1) (by omega) hrest

end Numbering

end RuntimeBridge.Library
