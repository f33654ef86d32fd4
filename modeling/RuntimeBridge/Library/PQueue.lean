import Mathlib.Data.List.Basic

/-! A promise queue: at most `concurrency` tasks run, the others wait in the
order in which they were added, and a slot that becomes free goes to the first
of them. -/

namespace RuntimeBridge.Library

structure PQueue (α : Type u) where
  concurrency : Nat
  running : List α
  waiting : List α
  bounded : running.length ≤ concurrency
  busy : waiting ≠ [] → running.length = concurrency

namespace PQueue

variable {α : Type u} {queue : PQueue α} {task other : α}

def idle (concurrency : Nat) : PQueue α where
  concurrency
  running := []
  waiting := []
  bounded := Nat.zero_le _
  busy := fun h => absurd rfl h

/-- The tasks in the order in which they were added. -/
def tasks (queue : PQueue α) : List α :=
  queue.running ++ queue.waiting

theorem mem_tasks :
    task ∈ queue.tasks ↔ task ∈ queue.running ∨ task ∈ queue.waiting :=
  List.mem_append

/-- Add a task.  The second part is the task that starts, if one does. -/
def add (queue : PQueue α) (task : α) : PQueue α × Option α :=
  if h : queue.running.length < queue.concurrency then
    ({ concurrency := queue.concurrency
       running := queue.running ++ [task]
       waiting := []
       bounded := by
         rw [List.length_append]
         exact h
       busy := fun h => absurd rfl h },
      some task)
  else
    ({ concurrency := queue.concurrency
       running := queue.running
       waiting := queue.waiting ++ [task]
       bounded := queue.bounded
       busy := fun _ => Nat.le_antisymm queue.bounded (Nat.le_of_not_lt h) },
      none)

theorem add_fifo (queue : PQueue α) (task : α) :
    (queue.add task).2.toList ++ (queue.add task).1.waiting =
      queue.waiting ++ [task] := by
  unfold add
  split
  · next h =>
      have hempty : queue.waiting = [] := by
        by_contra hwaiting
        have := queue.busy hwaiting
        omega
      simp [hempty]
  · simp

@[simp] theorem add_concurrency (queue : PQueue α) (task : α) :
    (queue.add task).1.concurrency = queue.concurrency := by
  unfold add
  split <;> rfl

theorem add_running (queue : PQueue α) (task : α) :
    (queue.add task).1.running =
      queue.running ++ (queue.add task).2.toList := by
  unfold add
  split <;> simp

theorem add_started {started : α} (h : (queue.add task).2 = some started) :
    started = task := by
  unfold add at h
  split at h
  · exact (Option.some.inj h).symm
  · contradiction

@[simp] theorem tasks_add (queue : PQueue α) (task : α) :
    (queue.add task).1.tasks = queue.tasks ++ [task] := by
  rw [tasks, add_running, List.append_assoc, add_fifo, ← List.append_assoc,
    tasks]

theorem mem_add (queue : PQueue α) (task : α) :
    task ∈ (queue.add task).1.running ∨
      task ∈ (queue.add task).1.waiting := by
  rw [← mem_tasks, tasks_add]
  exact List.mem_append_right _ (List.mem_singleton.mpr rfl)

theorem mem_add_of_mem (task : α)
    (h : other ∈ queue.running ∨ other ∈ queue.waiting) :
    other ∈ (queue.add task).1.running ∨
      other ∈ (queue.add task).1.waiting := by
  rw [← mem_tasks, tasks_add]
  exact List.mem_append_left _ (mem_tasks.mpr h)

theorem mem_of_mem_add
    (h : other ∈ (queue.add task).1.running ∨
      other ∈ (queue.add task).1.waiting) :
    other = task ∨ other ∈ queue.running ∨ other ∈ queue.waiting := by
  rw [← mem_tasks, tasks_add] at h
  rcases List.mem_append.mp h with hold | hnew
  · exact Or.inr (mem_tasks.mp hold)
  · exact Or.inl (List.mem_singleton.mp hnew)

theorem add_of_full (h : queue.running.length = queue.concurrency) :
    (queue.add task).2 = none := by
  rw [add, dif_neg (by omega)]

theorem running_eq (hsingle : queue.concurrency = 1)
    (member : task ∈ queue.running) : queue.running = [task] := by
  have hbounded := queue.bounded
  rw [hsingle] at hbounded
  cases hrunning : queue.running with
  | nil =>
      rw [hrunning] at member
      cases member
  | cons head rest =>
      rw [hrunning] at hbounded member
      have hrest : rest = [] := by
        rw [← List.length_eq_zero_iff]
        simpa using hbounded
      subst hrest
      rw [List.mem_singleton.mp member]

theorem exists_running (hpositive : 0 < queue.concurrency)
    (h : queue.waiting ≠ []) : ∃ task, task ∈ queue.running := by
  have hbusy := queue.busy h
  exact List.exists_mem_of_length_pos (by omega)

/-- Drop the waiting tasks. -/
def clear (queue : PQueue α) : PQueue α where
  concurrency := queue.concurrency
  running := queue.running
  waiting := []
  bounded := queue.bounded
  busy := fun h => absurd rfl h

theorem tasks_clear : queue.clear.tasks = queue.running :=
  List.append_nil _

theorem tasks_cleared {cleared : PQueue α}
    (h : cleared = queue ∨ cleared = queue.clear) :
    cleared.tasks.Sublist queue.tasks := by
  rcases h with rfl | rfl
  · exact List.Sublist.refl _
  · rw [tasks_clear]
    exact List.sublist_append_left _ _

theorem concurrency_cleared {cleared : PQueue α}
    (h : cleared = queue ∨ cleared = queue.clear) :
    cleared.concurrency = queue.concurrency := by
  rcases h with rfl | rfl <;> rfl

theorem head_running (hpositive : 0 < queue.concurrency) {rest : List α}
    (h : queue.tasks = task :: rest) : task ∈ queue.running := by
  cases hrunning : queue.running with
  | nil =>
      rw [tasks, hrunning, List.nil_append] at h
      have hbusy := queue.busy (by simp [h])
      rw [hrunning, List.length_nil] at hbusy
      omega
  | cons head others =>
      rw [tasks, hrunning, List.cons_append] at h
      rw [(List.cons.inj h).1]
      exact List.mem_cons_self

variable [DecidableEq α]

/-- A running task settles.  The second part is the task that takes its slot,
if one does. -/
def finish (queue : PQueue α) (task : α) : PQueue α × Option α :=
  if h : task ∈ queue.running then
    match hwaiting : queue.waiting with
    | [] =>
        ({ concurrency := queue.concurrency
           running := queue.running.erase task
           waiting := []
           bounded :=
             Nat.le_trans List.erase_sublist.length_le queue.bounded
           busy := fun h => absurd rfl h },
          none)
    | next :: rest =>
        have hfull : (queue.running.erase task ++ [next]).length =
            queue.concurrency := by
          have hbusy := queue.busy (by simp [hwaiting])
          have hpositive := List.length_pos_of_mem h
          rw [List.length_append, List.length_erase_of_mem h,
            List.length_singleton]
          omega
        ({ concurrency := queue.concurrency
           running := queue.running.erase task ++ [next]
           waiting := rest
           bounded := Nat.le_of_eq hfull
           busy := fun _ => hfull },
          some next)
  else
    (queue, none)

theorem finish_fifo (queue : PQueue α) (task : α) :
    (queue.finish task).2.toList ++ (queue.finish task).1.waiting =
      queue.waiting := by
  unfold finish
  split
  · split
    · next h => simp [h]
    · next h => simp [h]
  · simp

@[simp] theorem finish_concurrency (queue : PQueue α) (task : α) :
    (queue.finish task).1.concurrency = queue.concurrency := by
  unfold finish
  split
  · split <;> rfl
  · rfl

theorem finish_running (h : task ∈ queue.running) :
    (queue.finish task).1.running =
      queue.running.erase task ++ (queue.finish task).2.toList := by
  unfold finish
  rw [dif_pos h]
  split <;> simp

theorem finish_single (hsingle : queue.concurrency = 1)
    (h : task ∈ queue.running) :
    (queue.finish task).1.running = (queue.finish task).2.toList := by
  rw [finish_running h, running_eq hsingle h, List.erase_cons_head,
    List.nil_append]

theorem tasks_finish (h : task ∈ queue.running) :
    (queue.finish task).1.tasks = queue.tasks.erase task := by
  rw [tasks, finish_running h, List.append_assoc, finish_fifo, tasks,
    List.erase_append_left _ h]

theorem mem_finish_of_ne (settled : task ∈ queue.running) (hne : other ≠ task)
    (h : other ∈ queue.running ∨ other ∈ queue.waiting) :
    other ∈ (queue.finish task).1.running ∨
      other ∈ (queue.finish task).1.waiting := by
  rw [← mem_tasks, tasks_finish settled]
  exact (List.mem_erase_of_ne hne).mpr (mem_tasks.mpr h)

theorem finish_of_not_mem (h : task ∉ queue.running) :
    queue.finish task = (queue, none) := by
  rw [finish, dif_neg h]

theorem mem_of_mem_finish
    (h : other ∈ (queue.finish task).1.running ∨
      other ∈ (queue.finish task).1.waiting) :
    other ∈ queue.running ∨ other ∈ queue.waiting := by
  by_cases hsettled : task ∈ queue.running
  · rw [← mem_tasks, tasks_finish hsettled] at h
    exact mem_tasks.mp (List.mem_of_mem_erase h)
  · rw [finish_of_not_mem hsettled] at h
    exact h

end PQueue

end RuntimeBridge.Library
