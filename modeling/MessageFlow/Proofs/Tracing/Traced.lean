import MessageFlow.Proofs.Composer.Recast

/-!
# Definitions with tracing

What composers make of a definition whose stages are traced. Advice is nothing that a composer looks
at, so tracing is one more guise of a definition (`recasts_traced`). Whole compositions go side by
side in it (`traced_afterAll`), and so do the flows at their ends (`finished_traced`).
-/

namespace MessageFlow

variable [PayloadTypes]

/-- The stage with tracing around everything else. -/
def FlowStage.traced (stage : FlowStage) : FlowStage :=
  { stage with
    endpoint := { stage.endpoint with advice := Advice.tracing :: stage.endpoint.advice } }

/-- The flow with tracing around each stage. -/
def Flow.traced (flow : Flow) : Flow :=
  { flow with stages := flow.stages.map FlowStage.traced }

/-- The settings that ask for tracing, and are otherwise the same. -/
def FlowConfig.traced (config : FlowConfig) : FlowConfig :=
  { config with logStages := true }

/-- The definition with tracing around each stage, now and from now on. -/
def FlowDefinition.traced (d : FlowDefinition) : FlowDefinition :=
  d.recast FlowStage.traced d.config.traced d.converters

/-- A stage that is not traced by itself is traced now. -/
theorem recasts_traced {config : FlowConfig} (hquiet : config.logStages = false) :
    Recasts FlowStage.traced config config.traced := by
  refine ⟨fun _ => rfl, fun _ => rfl, fun _ => rfl, fun _ _ => rfl, fun r flow index input => ?_⟩
  have hloud : config.traced.logStages = true := rfl
  simp only [StageRequest.endpoint, hquiet, hloud, FlowStage.traced]
  rfl

namespace FlowDefinition

variable {d : FlowDefinition}

/-- One call after the other returns the same, and leaves the same with tracing around each
stage. -/
theorem traced_afterAll (hd : d.components.Consistent) (hquiet : d.config.logStages = false)
    (cs : List Call) :
    d.traced.results cs = d.results cs ∧ d.traced.afterAll cs = (d.afterAll cs).traced := by
  induction cs generalizing d with
  | nil => exact ⟨rfl, rfl⟩
  | cons c cs ih =>
    have hstep := c.step_of_call hd
    have hconfig : (c.after d).config = d.config := congrArg (·.2.2) (origin_step hstep)
    obtain ⟨hresult, hafter⟩ :=
      perform_recast hd (recasts_traced hquiet) c d.converters fun _ _ => rfl
    have hcall : c.after d.traced = (c.after d).traced := by
      rw [traced, traced, hafter, hconfig, converters_after hd]
    obtain ⟨hresults, hall⟩ := ih (consistent_step hstep hd) (hconfig ▸ hquiet)
    exact ⟨by rw [results, results, hcall, hresults]; exact congrArg (· :: _) hresult,
      by rw [afterAll, afterAll, hcall, hall]⟩

/-- The flow that is made in the end is the same with tracing around each stage. -/
theorem finished_traced (hquiet : d.config.logStages = false) :
    d.traced.finished = d.finished.map Flow.traced :=
  finished_recast (recasts_traced hquiet) rfl

end FlowDefinition

end MessageFlow
