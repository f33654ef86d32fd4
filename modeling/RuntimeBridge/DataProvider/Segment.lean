import Mathlib.Data.Nat.Find
import Mathlib.Data.Nat.Init
import RuntimeBridge.DataProvider.Walk

/-! What a walk from a given origin meets, in closed form: the para number it
waits for at each relay block, the blocks it collects, and the ranges that
justifications cut. -/

namespace RuntimeBridge.DataProvider

structure Origin where
  parentStart : Nat
  paraStart : Nat
  deriving DecidableEq

def Window.origin (window : Window) : Origin where
  parentStart := window.parentStartBlock
  paraStart := window.paraStartBlock

namespace Chain

variable (chain : Chain) (origin : Origin)

def advance (paraNumber number : Nat) : Nat :=
  if (chain.parent number).paraNumber = paraNumber then paraNumber + 1
  else paraNumber

/-- The para number a walk waits for when it reaches a relay block. -/
def cursor : Nat → Nat
  | 0 => origin.paraStart
  | number + 1 =>
      if number < origin.parentStart then origin.paraStart
      else chain.advance (cursor number) number

def parents (first last : Nat) : List ParentBlock :=
  (List.range' first (last - first)).map chain.parent

/-- The para blocks matched by the relay blocks in `[first, last)`. -/
def packed (first last : Nat) : List ParaBlock :=
  (List.range' (chain.cursor origin first)
    (chain.cursor origin last - chain.cursor origin first)).map chain.para

variable {chain origin} {first middle last number stop : Nat}

theorem le_advance (paraNumber number : Nat) :
    paraNumber ≤ chain.advance paraNumber number := by
  unfold advance
  split <;> omega

theorem cursor_of_le (h : number ≤ origin.parentStart) :
    chain.cursor origin number = origin.paraStart := by
  cases number with
  | zero => rfl
  | succ number => simp [cursor, show number < origin.parentStart by omega]

theorem cursor_succ (h : origin.parentStart ≤ number) :
    chain.cursor origin (number + 1) =
      chain.advance (chain.cursor origin number) number := by
  simp [cursor, show ¬ number < origin.parentStart by omega]

theorem cursor_mono (h : first ≤ last) :
    chain.cursor origin first ≤ chain.cursor origin last := by
  induction last, h using Nat.le_induction with
  | base => exact Nat.le_refl _
  | succ last _ ih =>
      apply Nat.le_trans ih
      rcases Nat.lt_or_ge last origin.parentStart with hlt | hge
      · rw [cursor_of_le (by omega), cursor_of_le (by omega)]
      · rw [cursor_succ hge]
        exact le_advance _ _

theorem parents_succ (h : first ≤ number) :
    chain.parents first (number + 1) =
      chain.parents first number ++ [chain.parent number] := by
  rw [parents, show number + 1 - first = (number - first) + 1 by omega,
    List.range'_1_concat, List.map_append, List.map_singleton]
  congr 3
  omega

@[simp] theorem parents_self (first : Nat) : chain.parents first first = [] := by
  simp [parents]

theorem parents_append (hleft : first ≤ middle) (hright : middle ≤ last) :
    chain.parents first middle ++ chain.parents middle last =
      chain.parents first last := by
  rw [parents, parents, parents,
    show last - first = (middle - first) + (last - middle) by omega,
    ← List.range'_append_1, List.map_append]
  congr 3
  omega

theorem parents_getLast? (h : first ≤ stop) :
    (chain.parents first (stop + 1)).getLast? = some (chain.parent stop) := by
  rw [parents_succ h, List.getLast?_concat]

theorem parents_numbers (first last : Nat) :
    (chain.parents first last).map (·.number) =
      List.range' first (last - first) := by
  simp [parents, Function.comp_def, chain.parent_number]

@[simp] theorem packed_self (first : Nat) :
    chain.packed origin first first = [] := by
  simp [packed]

theorem packed_append (hleft : first ≤ middle) (hright : middle ≤ last) :
    chain.packed origin first middle ++ chain.packed origin middle last =
      chain.packed origin first last := by
  have hfirst : chain.cursor origin first ≤ chain.cursor origin middle :=
    cursor_mono hleft
  have hlast : chain.cursor origin middle ≤ chain.cursor origin last :=
    cursor_mono hright
  rw [packed, packed, packed,
    show chain.cursor origin last - chain.cursor origin first =
      (chain.cursor origin middle - chain.cursor origin first) +
        (chain.cursor origin last - chain.cursor origin middle) by omega,
    ← List.range'_append_1, List.map_append]
  congr 3
  omega

theorem packed_succ (hstart : origin.parentStart ≤ number)
    (hfirst : first ≤ number) :
    chain.packed origin first (number + 1) =
      chain.packed origin first number ++
        if (chain.parent number).paraNumber = chain.cursor origin number then
          [chain.para (chain.cursor origin number)]
        else [] := by
  rw [← packed_append hfirst (Nat.le_succ number)]
  congr 1
  rw [packed, cursor_succ hstart, advance]
  split <;> simp

theorem packed_numbers (first last : Nat) :
    (chain.packed origin first last).map (·.number) =
      List.range' (chain.cursor origin first)
        (chain.cursor origin last - chain.cursor origin first) := by
  simp [packed, Function.comp_def, chain.para_number]

variable (chain origin)

structure OpenRange (first number : Nat) : Prop where
  start_le : origin.parentStart ≤ first
  ordered : first ≤ number
  begins : first = origin.parentStart ∨ chain.Justified (first - 1)
  quiet : ∀ other, first ≤ other → other < number → ¬ chain.Justified other

/-- A dry range: opened at `first` and closed by the justification of `stop`. -/
structure IsRange (first stop : Nat) : Prop
    extends OpenRange chain origin first stop where
  closes : chain.Justified stop

variable {chain origin}

theorem OpenRange.start : chain.OpenRange origin origin.parentStart
    origin.parentStart where
  start_le := Nat.le_refl _
  ordered := Nat.le_refl _
  begins := Or.inl rfl
  quiet := fun _ hle hlt => absurd hle (by omega)

theorem OpenRange.extend (h : chain.OpenRange origin first number)
    (hquiet : ¬ chain.Justified number) :
    chain.OpenRange origin first (number + 1) where
  start_le := h.start_le
  ordered := Nat.le_succ_of_le h.ordered
  begins := h.begins
  quiet := fun other hle hlt => by
    rcases Nat.lt_succ_iff_lt_or_eq.mp hlt with hlt | rfl
    · exact h.quiet other hle hlt
    · exact hquiet

theorem IsRange.next_open (h : chain.IsRange origin first stop) :
    chain.OpenRange origin (stop + 1) (stop + 1) where
  start_le := by have := h.start_le; have := h.ordered; omega
  ordered := Nat.le_refl _
  begins := Or.inr h.closes
  quiet := fun _ hle hlt => absurd hle (by omega)

theorem IsRange.stop_unique {other : Origin} {otherStop : Nat}
    (h : chain.IsRange origin first stop)
    (hother : chain.IsRange other first otherStop) : stop = otherStop := by
  rcases Nat.lt_trichotomy stop otherStop with hlt | heq | hlt
  · exact absurd h.closes (hother.quiet stop h.ordered hlt)
  · exact heq
  · exact absurd hother.closes (h.quiet otherStop hother.ordered hlt)

theorem OpenRange.begins_outside (h : chain.OpenRange origin first number)
    {inner innerStop : Nat} (hinner : chain.IsRange origin inner innerStop)
    (hlt : first < inner) : number < inner := by
  rcases hinner.begins with hstart | hjustified
  · have := h.start_le
    omega
  · by_contra hle
    exact h.quiet (inner - 1) (by omega) (by omega) hjustified

theorem IsRange.start_unique {other : Nat}
    (h : chain.IsRange origin first stop)
    (hother : chain.IsRange origin other stop) : first = other := by
  have hle := h.ordered
  have hotherLe := hother.ordered
  rcases Nat.lt_trichotomy first other with hlt | heq | hlt
  · have := h.begins_outside hother hlt
    omega
  · exact heq
  · have := hother.begins_outside h hlt
    omega

theorem exists_range (hstart : origin.parentStart ≤ first)
    (hbegins : first = origin.parentStart ∨ chain.Justified (first - 1))
    (hle : first ≤ last) (hlast : chain.Justified last) :
    ∃ stop, stop ≤ last ∧ chain.IsRange origin first stop := by
  have hexists : ∃ stop, first ≤ stop ∧ chain.Justified stop :=
    ⟨last, hle, hlast⟩
  classical
  refine ⟨Nat.find hexists, Nat.find_min' hexists ⟨hle, hlast⟩, ?_⟩
  refine
    { start_le := hstart, ordered := (Nat.find_spec hexists).1,
      begins := hbegins, quiet := ?_, closes := (Nat.find_spec hexists).2 }
  intro other hle hlt hjustified
  exact Nat.find_min hexists hlt ⟨hle, hjustified⟩

end Chain

end RuntimeBridge.DataProvider
