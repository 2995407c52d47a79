import MessageFlow.Run

/-!
# Loops

Steps that are taken until one of them ends with a result. A loop has no bound of its own; steps
without end have no result at all. `loop_eq` unfolds a loop by one step, and `loop_induction` is how
to prove something of every loop that ends.
-/

namespace MessageFlow.Run

variable [PayloadTypes]

variable {σ β : Type}

/-- A step of a loop: it goes on with another state, or ends with a result. -/
abbrev Step (σ β : Type) := σ → Run (σ ⊕ β)

/-- How a loop ends in a world. -/
def Step.loopFrom (step : Step σ β) (s : σ) (w : World) :
    Option (Except Failure β × World) := do
  match ← (step s).exec w with
  | (.ok (.inl s'), v) => step |>.loopFrom s' v
  | (.ok (.inr b), v) => return (.ok b, v)
  | (.error failure, v) => return (.error failure, v)
partial_fixpoint

/-- Takes steps until one ends with a result. -/
def loop (step : Step σ β) (s : σ) : Run β :=
  ExceptT.mk fun w => step.loopFrom s w

/-- Runs are the same if they end alike in every world. -/
theorem ext_exec {α : Type} {r r' : Run α} (h : ∀ w, r.exec w = r'.exec w) : r = r' :=
  funext h

/-- A loop takes a step, and then ends or goes on from where the step led. -/
theorem exec_loop (step : Step σ β) (s : σ) (w : World) :
    (loop step s).exec w =
      match (step s).exec w with
      | some (.ok (.inl s'), v) => (loop step s').exec v
      | some (.ok (.inr b), v) => some (.ok b, v)
      | some (.error failure, v) => some (.error failure, v)
      | none => none := by
  show step.loopFrom s w = _
  rw [Step.loopFrom]
  rcases (step s).exec w with _ | ⟨_ | s' | b, v⟩ <;> rfl

/-- A loop is one step, and then the same loop unless the step ended it. -/
theorem loop_eq (step : Step σ β) (s : σ) :
    loop step s = step s >>= fun
      | .inl s' => loop step s'
      | .inr b => pure b := by
  apply ext_exec
  intro w
  rw [exec_loop, exec_bind]
  rcases (step s).exec w with _ | ⟨_ | s' | b, v⟩ <;> rfl

/-- What holds of every way to end at once, and of a loop if it holds of what is left of it after a
step, holds of every loop that ends. -/
theorem loop_induction {step : Step σ β}
    {motive : σ → World → Except Failure β → World → Prop}
    (ended : ∀ s w b v, (step s).exec w = some (.ok (.inr b), v) → motive s w (.ok b) v)
    (failed : ∀ s w failure v, (step s).exec w = some (.error failure, v) →
      motive s w (.error failure) v)
    (further : ∀ s w s' u result v, (step s).exec w = some (.ok (.inl s'), u) →
      motive s' u result v → motive s w result v)
    {s : σ} {w v : World} {result : Except Failure β}
    (h : (loop step s).exec w = some (result, v)) : motive s w result v := by
  refine Step.loopFrom.partial_correctness step (fun s w ended => motive s w ended.1 ended.2)
    ?_ s w (result, v) h
  intro loop' ih s w ended' hended
  obtain ⟨⟨result', u⟩, hstep, hrest⟩ := Option.bind_eq_some_iff.1 hended
  cases result' with
  | error failure =>
    cases hrest
    exact failed s w failure u hstep
  | ok next =>
    cases next with
    | inl s' => exact further s w s' u _ _ hstep (ih s' u ended' hrest)
    | inr b =>
      cases hrest
      exact ended s w b u hstep

end MessageFlow.Run
