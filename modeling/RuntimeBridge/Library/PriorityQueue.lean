import Mathlib.Data.List.Sort
import RuntimeBridge.Library.PQueue

/-! A promise queue whose tasks have a priority: a slot that becomes free goes
to the first of the waiting tasks that have the highest one. -/

namespace RuntimeBridge.Library

structure PriorityQueue {α : Type u} (priority : α → Nat) extends PQueue α where
  sorted : waiting.Pairwise fun task other => priority other ≤ priority task

namespace PriorityQueue

variable {α : Type u} {priority : α → Nat} {task other started : α}

/-- Behind the tasks that are as important. -/
def enqueue (priority : α → Nat) (task : α) (waiting : List α) : List α :=
  waiting.orderedInsert (fun new old => priority old < priority new) task

theorem perm_enqueue (task : α) (waiting : List α) :
    (enqueue priority task waiting).Perm (task :: waiting) :=
  List.perm_orderedInsert _ task waiting

theorem enqueue_sorted {waiting : List α}
    (h : waiting.Pairwise fun task other => priority other ≤ priority task)
    (task : α) :
    (enqueue priority task waiting).Pairwise
      fun task other => priority other ≤ priority task := by
  induction waiting with
  | nil => exact List.pairwise_singleton _ _
  | cons head rest ih =>
      obtain ⟨hhead, hrest⟩ := List.pairwise_cons.mp h
      unfold enqueue
      rw [List.orderedInsert_cons]
      split
      · next hlt =>
          refine List.pairwise_cons.mpr ⟨fun other hother => ?_, h⟩
          rcases List.mem_cons.mp hother with rfl | hlater
          · exact Nat.le_of_lt hlt
          · exact Nat.le_trans (hhead other hlater) (Nat.le_of_lt hlt)
      · next hle =>
          refine List.pairwise_cons.mpr ⟨fun other hother => ?_, ih hrest⟩
          rcases List.mem_cons.mp ((perm_enqueue task rest).mem_iff.mp hother)
            with rfl | hlater
          · exact Nat.le_of_not_lt hle
          · exact hhead other hlater

/-- The tasks of one priority. -/
def atLevel (priority : α → Nat) (level : Nat) (tasks : List α) : List α :=
  tasks.filter fun task => priority task = level

@[simp] theorem atLevel_append (level : Nat) (left right : List α) :
    atLevel priority level (left ++ right) =
      atLevel priority level left ++ atLevel priority level right :=
  List.filter_append _ _

theorem atLevel_below {level : Nat} {tasks : List α}
    (h : ∀ task ∈ tasks, priority task < level) :
    atLevel priority level tasks = [] := by
  rw [atLevel, List.filter_eq_nil_iff]
  intro task htask hlevel
  have hlevel := of_decide_eq_true hlevel
  have hlt := h task htask
  omega

theorem atLevel_cons_of_ne {level : Nat} (h : priority task ≠ level)
    (tasks : List α) :
    atLevel priority level (task :: tasks) = atLevel priority level tasks :=
  List.filter_cons_of_neg (by simpa using h)

/-- Tasks of one priority wait in the order in which they were added. -/
theorem enqueue_fifo {waiting : List α}
    (h : waiting.Pairwise fun task other => priority other ≤ priority task)
    (task : α) (level : Nat) :
    atLevel priority level (enqueue priority task waiting) =
      atLevel priority level (waiting ++ [task]) := by
  induction waiting with
  | nil => rfl
  | cons head rest ih =>
      obtain ⟨hhead, hrest⟩ := List.pairwise_cons.mp h
      unfold enqueue
      rw [List.orderedInsert_cons]
      split
      · next hlt =>
          by_cases hlevel : priority task = level
          · -- Nothing that waits is as important as the task.
            have hbelow : atLevel priority level (head :: rest) = [] := by
              refine atLevel_below fun other hother => ?_
              rw [← hlevel]
              rcases List.mem_cons.mp hother with rfl | hlater
              · exact hlt
              · exact Nat.lt_of_le_of_lt (hhead other hlater) hlt
            rw [← List.singleton_append, atLevel_append, atLevel_append, hbelow,
              List.append_nil, List.nil_append]
          · rw [atLevel_cons_of_ne hlevel, atLevel_append,
              atLevel_cons_of_ne hlevel]
            exact (List.append_nil _).symm
      · calc atLevel priority level (head :: enqueue priority task rest)
          _ = atLevel priority level [head] ++
              atLevel priority level (enqueue priority task rest) :=
            atLevel_append level [head] _
          _ = atLevel priority level [head] ++
              atLevel priority level (rest ++ [task]) := by rw [ih hrest]
          _ = atLevel priority level (head :: rest ++ [task]) :=
            (atLevel_append level [head] _).symm

def idle (concurrency : Nat) : PriorityQueue priority where
  toPQueue := .idle concurrency
  sorted := List.Pairwise.nil

theorem add_waiting_sorted (queue : PriorityQueue priority) (task : α)
    (h : queue.running.length < queue.concurrency) :
    (queue.toPQueue.add task).1.waiting.Pairwise
      fun task other => priority other ≤ priority task := by
  rw [PQueue.add, dif_pos h]
  exact List.Pairwise.nil

/-- Add a task.  The second part is the task that starts, if one does. -/
def add (queue : PriorityQueue priority) (task : α) :
    PriorityQueue priority × Option α :=
  if h : queue.running.length < queue.concurrency then
    ({ toPQueue := (queue.toPQueue.add task).1
       sorted := queue.add_waiting_sorted task h },
      (queue.toPQueue.add task).2)
  else
    ({ concurrency := queue.concurrency
       running := queue.running
       waiting := enqueue priority task queue.waiting
       bounded := queue.bounded
       busy := fun _ => Nat.le_antisymm queue.bounded (Nat.le_of_not_lt h)
       sorted := enqueue_sorted queue.sorted task },
      none)

@[simp] theorem add_concurrency (queue : PriorityQueue priority) (task : α) :
    (queue.add task).1.concurrency = queue.concurrency := by
  unfold add
  split
  · exact queue.toPQueue.add_concurrency task
  · rfl

theorem add_running (queue : PriorityQueue priority) (task : α) :
    (queue.add task).1.running =
      queue.running ++ (queue.add task).2.toList := by
  unfold add
  split
  · exact queue.toPQueue.add_running task
  · exact (List.append_nil _).symm

/-- A task that starts at once finds nothing waiting. -/
theorem add_started {queue : PriorityQueue priority}
    (h : (queue.add task).2 = some started) :
    started = task ∧ (queue.add task).1.waiting = [] := by
  unfold add at h ⊢
  split
  · next hfree =>
      rw [dif_pos hfree] at h
      refine ⟨PQueue.add_started h, ?_⟩
      change (queue.toPQueue.add task).1.waiting = []
      rw [PQueue.add, dif_pos hfree]
  · next hfull =>
      rw [dif_neg hfull] at h
      cases h

theorem perm_tasks_add (queue : PriorityQueue priority) (task : α) :
    (queue.add task).1.tasks.Perm (task :: queue.tasks) := by
  unfold add
  split
  · change (queue.toPQueue.add task).1.tasks.Perm (task :: queue.tasks)
    rw [PQueue.tasks_add]
    exact List.perm_append_singleton _ _
  · exact ((perm_enqueue task queue.waiting).append_left queue.running).trans
      List.perm_middle

theorem atLevel_tasks_add (queue : PriorityQueue priority) (task : α)
    (level : Nat) :
    atLevel priority level (queue.add task).1.tasks =
      atLevel priority level (queue.tasks ++ [task]) := by
  unfold add
  split
  · exact congrArg _ (queue.toPQueue.tasks_add task)
  · simp only [PQueue.tasks, atLevel_append, enqueue_fifo queue.sorted,
      List.append_assoc]

variable [DecidableEq α]

theorem finish_sorted (queue : PriorityQueue priority) (task : α) :
    (queue.toPQueue.finish task).1.waiting.Pairwise
      fun task other => priority other ≤ priority task := by
  have hsorted := queue.sorted
  rw [← queue.toPQueue.finish_fifo task] at hsorted
  exact hsorted.sublist (List.sublist_append_right _ _)

/-- A running task settles.  The second part is the task that takes its slot,
if one does. -/
def finish (queue : PriorityQueue priority) (task : α) :
    PriorityQueue priority × Option α :=
  ({ toPQueue := (queue.toPQueue.finish task).1
     sorted := queue.finish_sorted task },
    (queue.toPQueue.finish task).2)

/-- The task that takes the slot is one of the most important. -/
theorem finish_started {queue : PriorityQueue priority}
    (h : (queue.finish task).2 = some started)
    (waits : other ∈ (queue.finish task).1.waiting) :
    priority other ≤ priority started := by
  have hsorted := queue.sorted
  rw [← queue.toPQueue.finish_fifo task, show (queue.toPQueue.finish task).2 =
    some started from h] at hsorted
  exact (List.pairwise_cons.mp hsorted).1 other waits

end PriorityQueue

end RuntimeBridge.Library
