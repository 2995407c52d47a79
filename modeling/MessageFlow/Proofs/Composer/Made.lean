import MessageFlow.Proofs.Composer.Sketch

/-!
# What stages are made by

Whatever a composer does, every stage of a definition was appended for one of the calls that append
stages, and is what that call asks for (`made_of_reachable`). Only its output may have been wired
since. So what holds of all calls holds of all stages of a finished flow (`made_of_finished`), be
it a line or not. What holds of the calls of one composer and of all bridges holds of the stages of
its flow (`madeOf_afterAll`).
-/

namespace MessageFlow

variable [PayloadTypes]

/-- A stage that is what a call asks for. Its output may be anything. -/
def FlowStage.MadeBy (stage : FlowStage) (f : Factory) : Prop :=
  ∃ (r : StageRequest) (flow : String) (config : FlowConfig) (index : Nat),
    f.request = .ok r ∧ stage.endpoint.unwired = r.endpoint flow config index none

/-- Stages each of which is made by a call of a certain sort. -/
def MadeOf (sort : Factory → Prop) (stages : List FlowStage) : Prop :=
  ∀ stage ∈ stages, ∃ f, stage.MadeBy f ∧ sort f

/-- The bridges that connect channels are of a sort. -/
def HasBridges (sort : Factory → Prop) : Prop :=
  ∀ goal, sort (.bridge { EndpointSpec.standard with output := some goal })

/-- Stages each of which is made by some call. -/
def Made (stages : List FlowStage) : Prop :=
  ∀ stage ∈ stages, ∃ f, stage.MadeBy f

namespace FlowStage

variable {stage : FlowStage} {f : Factory}

/-- Who made a stage is the same when its output is wired. -/
theorem madeBy_withOutput (h : stage.MadeBy f) (ref : ChannelRef) :
    (stage.withOutput ref).MadeBy f := h

/-- What a stage made by a call does is what the call asks for, and its advice is that of the call,
with tracing around it if the settings ask for it. -/
theorem MadeBy.endpoint (h : stage.MadeBy f) :
    ∃ r, f.request = .ok r ∧ stage.endpoint.handler = r.handler ∧
      stage.endpoint.type = r.type ∧ stage.endpoint.info.kind = r.kind ∧
      ∀ advice ∈ r.spec.advice, advice ∈ stage.endpoint.advice := by
  obtain ⟨r, flow, config, index, hrequest, he⟩ := h
  have hadvice : stage.endpoint.advice = if config.logStages then Advice.tracing :: r.spec.advice
      else r.spec.advice := congrArg Endpoint.advice he
  refine ⟨r, hrequest, congrArg Endpoint.handler he, congrArg Endpoint.type he,
    congrArg (fun e => e.info.kind) he, fun advice hmem => ?_⟩
  rw [hadvice]
  split
  · exact List.mem_cons_of_mem _ hmem
  · exact hmem

/-- The advice of a stage that was made by a call is that of the call, and tracing. -/
theorem MadeBy.advice_cases (h : stage.MadeBy f) {advice : Advice}
    (hadvice : advice ∈ stage.endpoint.advice) :
    advice = Advice.tracing ∨ advice ∈ f.options.advice := by
  obtain ⟨r, flow, config, index, hrequest, he⟩ := h
  have hchain : stage.endpoint.advice = if config.logStages then Advice.tracing :: r.spec.advice
      else r.spec.advice := congrArg Endpoint.advice he
  rw [hchain, Factory.options_of_request hrequest] at hadvice
  split at hadvice
  · exact List.mem_cons.1 hadvice
  · exact .inr hadvice

end FlowStage

namespace FlowDefinition

variable {d d' : FlowDefinition} {r : StageRequest} {f : Factory} {sort : Factory → Prop}

/-- Connecting makes no stage. -/
theorem madeOf_connected (h : MadeOf sort d.stages) (place : Nat) (ref : ChannelRef) :
    MadeOf sort (d.connected place ref).stages := by
  unfold connected
  dsimp only
  split
  · next index _ =>
    intro stage hstage
    obtain ⟨other, hother⟩ := List.getElem?_of_mem hstage
    rw [List.getElem?_modify] at hother
    obtain ⟨old, hold, rfl⟩ := Option.map_eq_some_iff.1 hother
    obtain ⟨f, hmade, hf⟩ := h old (List.mem_of_getElem? hold)
    split
    · exact ⟨f, FlowStage.madeBy_withOutput hmade ref, hf⟩
    · exact ⟨f, hmade, hf⟩
  · exact h

/-- Wiring makes no stage. -/
theorem madeOf_wired (h : MadeOf sort d.stages) (ref : ChannelRef) :
    MadeOf sort (d.wired ref).stages := by
  unfold wired
  split
  · exact madeOf_connected h _ ref
  · exact h

theorem madeOf_extended (h : MadeOf sort d.stages) : MadeOf sort d.extended.stages :=
  madeOf_wired (d := d.withAnonymous) h d.anonymousRef

/-- A call makes the stage that it appends. -/
theorem madeOf_appended (h : MadeOf sort d.stages) (hrequest : f.request = .ok r) (hf : sort f) :
    MadeOf sort (d.appended r).stages := by
  have hnext : ∀ (d' : FlowDefinition) input, MadeOf sort d'.stages →
      MadeOf sort (d'.withStage (d.nextStage r input)).stages := by
    intro d' input hd' stage hstage
    rcases List.mem_append.1 hstage with hold | hnew
    · exact hd' stage hold
    · cases List.mem_singleton.1 hnew
      exact ⟨f, ⟨r, d.id, d.config, d.stages.length, hrequest, rfl⟩, hf⟩
  unfold appended
  split
  · exact hnext d _ h
  · exact hnext d.extended _ (madeOf_extended h)

/-- Joining makes a bridge at most. -/
theorem madeOf_joined {ref : ChannelRef} (hbridges : HasBridges sort) (h : MadeOf sort d.stages)
    (hjoin : d.Joins ref d') : MadeOf sort d'.stages := by
  cases hjoin with
  | nowhere => exact h
  | there => exact h
  | wire => exact madeOf_wired h ref
  | bridge origin => exact madeOf_appended (d := d.onChannel origin) h rfl (hbridges ref)

/-- Every step makes stages by the call that it is about, and bridges. -/
theorem madeOf_step {c : Call} {result : Except Failure (List Nat)} (h : Step d c result d')
    (hbridges : HasBridges sort) (hc : ∀ f, c = .stage f → sort f) (hd : MadeOf sort d.stages) :
    MadeOf sort d'.stages := by
  cases h with
  | refused => exact hd
  | appended f r hadmitted =>
    exact madeOf_appended (d := d.learning f.learns) hd (Factory.admitted_eq_ok.1 hadmitted).2.1
      (hc f rfl)
  | continued ref d' _ hjoin =>
    have hjoined : MadeOf sort d'.stages := madeOf_joined hbridges hd hjoin
    exact hjoined
  | added => exact hd
  | addedAll => exact hd
  | learned => exact hd
  | moved => exact hd
  | flagged => exact hd

/-- Only calls that are not refused make stages. -/
theorem madeOf_succeeded {cs : List Call} (hd : d.components.Consistent)
    (hbridges : HasBridges sort) (hcs : ∀ f, .stage f ∈ d.succeeded cs → sort f)
    (h : MadeOf sort d.stages) : MadeOf sort (d.afterAll cs).stages := by
  induction cs generalizing d with
  | nil => exact h
  | cons c cs ih =>
    have hstep := c.step_of_call hd
    rw [succeeded] at hcs
    cases hresult : c.result d with
    | ok places =>
      simp only [hresult, Except.isOk, Except.toBool, if_true] at hcs
      refine ih (consistent_step hstep hd) (fun f hf => hcs f (List.mem_cons_of_mem c hf)) ?_
      exact madeOf_step hstep hbridges (fun f hf => hcs f (hf ▸ List.mem_cons_self)) h
    | error failure =>
      simp only [hresult, Except.isOk, Except.toBool, Bool.false_eq_true, if_false] at hcs
      refine ih (consistent_step hstep hd) hcs ?_
      have hstages : (c.after d).stages = d.stages := by
        rw [hresult] at hstep
        generalize c.after d = d' at hstep
        cases hstep
        rfl
      rw [hstages]
      exact h

/-- The calls that were not refused are among all calls. -/
theorem succeeded_subset (d : FlowDefinition) (cs : List Call) : d.succeeded cs ⊆ cs := by
  induction cs generalizing d with
  | nil => exact List.nil_subset _
  | cons c cs ih =>
    rw [succeeded]
    split
    · exact List.cons_subset_cons c (ih _)
    · exact List.subset_cons_of_subset c (ih _)

/-- All stages were made by calls, or are bridges. -/
theorem madeOf_afterAll {cs : List Call} (hd : d.components.Consistent)
    (hbridges : HasBridges sort) (hcs : ∀ f, .stage f ∈ cs → sort f) (h : MadeOf sort d.stages) :
    MadeOf sort (d.afterAll cs).stages :=
  madeOf_succeeded hd hbridges (fun f hf => hcs f (succeeded_subset d cs hf)) h

/-- The stages of a finished flow are made by calls of whatever sort those of its definition are. -/
theorem madeOf_finished {flow : Flow} (hmade : MadeOf sort d.stages)
    (h : d.finished = .ok flow) : MadeOf sort flow.stages := by
  obtain ⟨input, -, hrest⟩ := look_bind_eq_ok.1 h
  obtain ⟨⟨output, d'⟩, hended, hrest⟩ := look_bind_eq_ok.1 hrest
  obtain ⟨⟨⟩, -, hflow⟩ := look_bind_eq_ok.1 hrest
  cases hflow
  rcases ended_eq_ok hended with rfl | ⟨-, -, rfl⟩
  · exact hmade
  · exact madeOf_extended hmade

end FlowDefinition

end MessageFlow
