import MessageFlow.Loop

/-!
# Work lists

Tasks that call for further tasks, done first come first served: what a task calls for is done
after everything that was there before it. The work ends when nothing is left or a task fails; work
that calls for more without end has no result. `run_append` says that the tasks on a list can be
done as one round, which leaves behind what they called for, and `run_induction` how to prove
something of all work that ends.
-/

namespace MessageFlow

variable [PayloadTypes]

/-- How tasks are done: what a task does, and the tasks it calls for. -/
abbrev Work (α : Type) := α → Run (List α)

namespace Work

variable {α : Type}

/-- Does the oldest task, and puts what it calls for behind the others. -/
def step (visit : Work α) : List α → Run (List α ⊕ Unit)
  | [] => return .inr ()
  | task :: rest => do
    let further ← visit task
    return .inl (rest ++ further)

/-- Does all tasks, the oldest first. -/
def run (visit : Work α) (tasks : List α) : Run Unit :=
  Run.loop (step visit) tasks

/-- Does each of the tasks, and returns what they called for. -/
def round (visit : Work α) : List α → Run (List α)
  | [] => return []
  | task :: rest => do
    let further ← visit task
    return further ++ (← round visit rest)

/-- Does a number of rounds, each with what the round before it called for. -/
def rounds (visit : Work α) : Nat → List α → Run (List α)
  | 0, tasks => return tasks
  | n + 1, tasks => do rounds visit n (← round visit tasks)

/-- Where no task is left, the work is done. -/
@[simp] theorem run_nil (visit : Work α) : run visit [] = pure () := by
  rw [run, Run.loop_eq, step, pure_bind]

/-- The first task is done, and what it calls for goes to the end of the list. -/
theorem run_cons (visit : Work α) (task : α) (rest : List α) :
    run visit (task :: rest) = visit task >>= fun further => run visit (rest ++ further) := by
  rw [run, Run.loop_eq, step, bind_assoc]
  simp only [pure_bind, run]

/-- What holds where nothing is left or the oldest task fails, and goes back from what is left after
a task to what was there before it, holds of all work that ends. -/
theorem run_induction {visit : Work α}
    {motive : List α → World → Except Failure Unit → World → Prop}
    (nil : ∀ w, motive [] w (.ok ()) w)
    (failed : ∀ task rest w failure v, (visit task).exec w = some (.error failure, v) →
      motive (task :: rest) w (.error failure) v)
    (done : ∀ task rest further w u result v, (visit task).exec w = some (.ok further, u) →
      motive (rest ++ further) u result v → motive (task :: rest) w result v)
    {tasks : List α} {w v : World} {result : Except Failure Unit}
    (h : (run visit tasks).exec w = some (result, v)) : motive tasks w result v := by
  refine Run.loop_induction ?_ ?_ ?_ h
  · intro tasks w b v hstep
    cases tasks with
    | nil =>
      cases hstep
      exact nil w
    | cons task rest =>
      rw [step, Run.exec_bind] at hstep
      split at hstep <;> cases hstep
  · intro tasks w failure v hstep
    cases tasks with
    | nil => cases hstep
    | cons task rest =>
      rw [step, Run.exec_bind] at hstep
      split at hstep
      · cases hstep
      · next hfails =>
        cases hstep
        exact failed task rest w failure v hfails
      · cases hstep
  · intro tasks w tasks' u result v hstep hrest
    cases tasks with
    | nil => cases hstep
    | cons task rest =>
      rw [step, Run.exec_bind] at hstep
      split at hstep
      · next further hvisit =>
        cases hstep
        exact done task rest _ w u result v hvisit hrest
      · cases hstep
      · cases hstep

/-- The tasks at the front of a list are done before any of those they call for. -/
theorem run_append (visit : Work α) (tasks later : List α) :
    run visit (tasks ++ later) =
      round visit tasks >>= fun further => run visit (later ++ further) := by
  induction tasks generalizing later with
  | nil => simp [round]
  | cons task rest ih =>
    rw [List.cons_append, run_cons, round, bind_assoc]
    congr 1
    funext further
    rw [List.append_assoc, ih (later ++ further)]
    simp [List.append_assoc]

/-- What is on a list is done in one round, and then what it called for. -/
theorem run_eq_round (visit : Work α) (tasks : List α) :
    run visit tasks = round visit tasks >>= run visit := by
  simpa using run_append visit tasks []

/-- Whatever was called for after some rounds is what is left of the list. -/
theorem run_eq_rounds (visit : Work α) (n : Nat) (tasks : List α) :
    run visit tasks = rounds visit n tasks >>= run visit := by
  induction n generalizing tasks with
  | zero => simp [rounds]
  | succ n ih =>
    rw [run_eq_round, rounds, bind_assoc]
    congr 1
    funext further
    exact ih further

end Work

end MessageFlow
