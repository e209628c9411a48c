import Promotion.Webhook.Notifier

/-!
# Scheduling Deliveries

Background tasks on one processor: each has a number, and those that can go on
stand in a queue.

A task is put into the queue when it starts, and again when what it waits for
is there. It goes on until it ends or has to wait, and only then the next one
does. Nothing runs until somebody settles the queue.

## Main definitions

* `Webhook.Schedule`: Numbered tasks and the queue.
* `Webhook.Schedule.start`: Starts a task for an event.
* `Webhook.Schedule.wake`: Lets waiting tasks go on.
* `Webhook.Schedule.settle`: Runs the queue until it is empty.

## Theorems

* `Webhook.Schedule.tasks_start`: Starting a task is `Webhook.detach`.
-/

namespace Promotion

namespace Webhook

/-- Background tasks with their numbers, and those that can go on. -/
structure Schedule where
  tasks : List (Nat × Task)
  /-- The numbers of the tasks that can go on, in order. -/
  queue : List Nat
  /-- The number of the next task. -/
  next : Nat

namespace Schedule

/-- The schedule without tasks. -/
def empty : Schedule := ⟨[], [], 0⟩

instance : Inhabited Schedule := ⟨empty⟩

/-- The tasks without their numbers. -/
def pending (s : Schedule) : List Task := s.tasks.map Prod.snd

/-- The schedule after one more task was started for an event, if anybody subscribes to it. -/
def start (s : Schedule) (webhooks : List Webhook) (event : Event) (r : Record) : Schedule :=
  match subscribers webhooks event with
  | [] => s
  | told =>
    let kept := s.tasks.filter fun t => t.2.isRunning
    ⟨kept ++ [(s.next, ⟨event, .ofRecord event r, told, .running⟩)], s.queue ++ [s.next],
      s.next + 1⟩

/-- The schedule after what some tasks wait for is there. -/
def wake (s : Schedule) (numbers : List Nat) : Schedule :=
  { s with queue := s.queue ++ numbers }

variable {σ : Type} (dispatch : Nat → Dispatcher σ)

/-- Lets the task of a number go on. -/
def advance (number : Nat) : List (Nat × Task) → Run σ (List (Nat × Task))
  | [] => return []
  | (n, t) :: rest => do
    if n = number then
      let t ← t.advance (dispatch n)
      return (n, t) :: rest
    else
      let rest ← advance number rest
      return (n, t) :: rest

/-- Lets the tasks of some numbers go on, one after the other. -/
def advanceEach (tasks : List (Nat × Task)) : List Nat → Run σ (List (Nat × Task))
  | [] => return tasks
  | number :: rest => do
    let tasks ← advance dispatch number tasks
    advanceEach tasks rest

/-- Runs the queue until it is empty. The dispatcher is told which task it works for. -/
def settle (s : Schedule) : Run σ Schedule := do
  let tasks ← advanceEach dispatch s.tasks s.queue
  return { s with tasks, queue := [] }

/-- Starting a task detaches it. -/
theorem tasks_start (s : Schedule) (webhooks : List Webhook) (event : Event) (r : Record) :
    (s.start webhooks event r).pending = detach webhooks event r s.pending := by
  simp only [start, detach, pending]
  cases subscribers webhooks event <;> simp [List.filter_map, Function.comp_def]

end Schedule

end Webhook

end Promotion
