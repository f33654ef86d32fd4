import Mathlib.Data.List.Basic
import Mathlib.Data.List.Range

/-! Sparse indexes whose entries are laid out one behind the other.  An index
maps the first number of each entry to the entry; `entries` reads it in key
order, and `entries_induction` follows the layout from entry to entry. -/

namespace RuntimeBridge.Library

variable {index : Nat → Option α} {first middle last : Nat} {value : α}

/-- The closed intervals fill `[first, last)` in order, without gap or
overlap. -/
def Tiles : Nat → List (Nat × Nat) → Nat → Prop
  | first, [], last => first = last
  | first, interval :: rest, last =>
      interval.1 = first ∧ interval.1 ≤ interval.2 ∧
        Tiles (interval.2 + 1) rest last

theorem Tiles.append {left right : List (Nat × Nat)}
    (hleft : Tiles first left middle) (hright : Tiles middle right last) :
    Tiles first (left ++ right) last := by
  induction left generalizing first with
  | nil =>
      cases (hleft : first = middle)
      exact hright
  | cons interval rest ih =>
      obtain ⟨hfirst, hordered, hrest⟩ := hleft
      exact ⟨hfirst, hordered, ih hrest⟩

theorem Tiles.exists_interval {intervals : List (Nat × Nat)} {number : Nat}
    (h : Tiles first intervals last) (hfirst : first ≤ number)
    (hlast : number < last) :
    ∃ interval ∈ intervals, interval.1 ≤ number ∧ number ≤ interval.2 := by
  induction intervals generalizing first with
  | nil =>
      have heq : first = last := h
      omega
  | cons interval rest ih =>
      obtain ⟨hstart, hordered, hrest⟩ := h
      rcases Nat.lt_or_ge interval.2 number with hlt | hge
      · obtain ⟨found, hfound, hcontains⟩ := ih hrest hlt
        exact ⟨found, List.mem_cons_of_mem _ hfound, hcontains⟩
      · exact ⟨interval, by simp, by omega, hge⟩

/-- The stored entries whose keys lie in `[first, last)`, in key order. -/
def entries (index : Nat → Option α) (first last : Nat) : List α :=
  (List.range' first (last - first)).filterMap index

@[simp] theorem entries_self (index : Nat → Option α) (first : Nat) :
    entries index first first = [] := by
  simp [entries]

theorem mem_entries :
    value ∈ entries index first last ↔
      ∃ key, first ≤ key ∧ key < last ∧ index key = some value := by
  simp only [entries, List.mem_filterMap, List.mem_range'_1]
  constructor
  · rintro ⟨key, ⟨hfirst, hlast⟩, hkey⟩
    exact ⟨key, hfirst, by omega, hkey⟩
  · rintro ⟨key, hfirst, hlast, hkey⟩
    exact ⟨key, ⟨hfirst, by omega⟩, hkey⟩

theorem entries_append (index : Nat → Option α) (hleft : first ≤ middle)
    (hright : middle ≤ last) :
    entries index first last =
      entries index first middle ++ entries index middle last := by
  have hsplit : List.range' first (last - first) =
      List.range' first (middle - first) ++
        List.range' middle (last - middle) := by
    rw [show last - first = (middle - first) + (last - middle) by omega,
      ← List.range'_append_1]
    congr 2
    omega
  rw [entries, hsplit, List.filterMap_append]
  rfl

theorem entries_eq_nil
    (empty : ∀ key, first ≤ key → key < last → index key = none) :
    entries index first last = [] := by
  rw [List.eq_nil_iff_forall_not_mem]
  intro value member
  obtain ⟨key, hfirst, hlast, hkey⟩ := mem_entries.mp member
  rw [empty key hfirst hlast] at hkey
  contradiction

theorem entries_cons (hit : index first = some value) (hlt : first < middle)
    (hle : middle ≤ last)
    (skipped : ∀ key, first < key → key < middle → index key = none) :
    entries index first last = value :: entries index middle last := by
  have hskipped : entries index (first + 1) middle = [] :=
    entries_eq_nil fun key hfirst hlast => skipped key (by omega) hlast
  have hhead : entries index first (first + 1) = [value] := by
    simp [entries, hit]
  rw [entries_append index (Nat.le_of_lt hlt) hle,
    entries_append index (Nat.le_succ first) hlt, hskipped, hhead]
  rfl

/-- Induction along the layout of an index.  Every `cut` before `last` carries
an entry that ends before `last`, and the number behind it is a cut again. -/
theorem entries_induction {motive : Nat → List α → Prop} {cut : Nat → Prop}
    {stop : α → Nat} (done : motive last [])
    (step : ∀ key, cut key → key < last →
      ∃ value, index key = some value ∧ key ≤ stop value ∧
        stop value < last ∧ cut (stop value + 1) ∧
        (∀ other, key < other → other < stop value + 1 →
          index other = none) ∧
        ∀ rest, motive (stop value + 1) rest → motive key (value :: rest))
    (start : cut first) (hle : first ≤ last) :
    motive first (entries index first last) := by
  obtain ⟨size, hsize⟩ : ∃ size, last - first = size := ⟨_, rfl⟩
  induction size using Nat.strong_induction_on generalizing first with
  | _ size ih =>
      rcases Nat.eq_or_lt_of_le hle with rfl | hlt
      · simpa using done
      · obtain ⟨value, hit, hkey, hstop, hcut, skipped, extend⟩ :=
          step first start hlt
        rw [entries_cons hit (by omega) (by omega) skipped]
        exact extend _
          (ih (last - (stop value + 1)) (by omega) hcut (by omega) rfl)

end RuntimeBridge.Library
