import MessageFlow.Proofs.Composer.Sketch
import MessageFlow.Proofs.Dispatch.Acts
import MessageFlow.Proofs.Sample

/-!
# One subscriber

A fixed-subscriber channel is consumed by one stage. A new stage is refused on it only where it
finds its input; where its input is made for it, the new channel has a name of its own, because the
name of the source is taken from the start. `Guarded` has both facts, and every call preserves it
(`guarded_step`), by whatever way the cursor came to the channel.

A finished flow that was composed without setting the cursor by hand is a line, and its first stage
consumes the source. So there is exactly one, and a message that is put into the channel is an act
of this stage alone (`one_subscriber`).
-/

namespace MessageFlow

section

variable [PayloadTypes]

theorem count_inputNames (name : String) (stages : List FlowStage) :
    (inputNames stages).count name = (stages.filter (·.input.name == name)).length := by
  rw [inputNames, List.count_eq_countP, List.countP_map, List.countP_eq_length_filter]
  rfl

namespace FlowDefinition

variable {d d' : FlowDefinition} {name : String} {ref : ChannelRef} {r : StageRequest}

/-- A definition that starts from a fixed-subscriber channel of a name. -/
structure Guarded (d : FlowDefinition) (name : String) : Prop where
  source : d.source = .channel name true
  /-- The name of the source is given to nothing else. -/
  taken : d.components.contains name = true
  single : (inputNames d.stages).count name ≤ 1

/-- Neither the cursor nor what is known besides matters. -/
theorem guarded_frame (h : d.Guarded name) {components : ComponentRegistry}
    (htaken : components.contains name = true) {converters : ConverterRegistry} {cursor : Cursor}
    {implicit : Bool} : Guarded { d with components, converters, cursor, implicit } name :=
  ⟨h.source, htaken, h.single⟩

theorem guarded_wired (h : d.Guarded name) (ref : ChannelRef) : (d.wired ref).Guarded name := by
  have hsource : (d.wired ref).source = d.source := congrArg (·.2.1) (origin_wired d ref)
  refine ⟨hsource.trans h.source, ?_, ?_⟩
  · rw [wired_components]
    exact h.taken
  · rw [inputNames_wired]
    exact h.single

/-- The next anonymous channel does not bear the name of the source. -/
theorem guarded_extended (h : d.Guarded name) : d.extended.Guarded name :=
  guarded_wired (d := d.withAnonymous)
    ⟨h.source, ComponentRegistry.contains_push h.taken _ _, h.single⟩ d.anonymousRef

/-- A stage on a channel that no stage consumes, or that is not the source, is no second one on the
source. -/
theorem guarded_withStage (h : d.Guarded name) {stage : FlowStage}
    (hinput : stage.input.name = name → (inputNames d.stages).count name = 0) :
    (d.withStage stage).Guarded name := by
  refine ⟨h.source, contains_withStage h.taken, ?_⟩
  have hnames : inputNames (d.withStage stage).stages =
      inputNames d.stages ++ [stage.input.name] := by simp [withStage, inputNames]
  rw [hnames, List.count_append]
  by_cases hname : stage.input.name = name
  · simp [hname, hinput hname]
  · simpa [hname] using h.single

/-- A channel that a stage may consume is not the source, or no stage consumes it yet. -/
theorem count_of_checkSubscriber (h : d.Guarded name) (hcheck : d.checkSubscriber ref = .ok ())
    (hname : ref.name = name) : (inputNames d.stages).count name = 0 := by
  have hsource : (d.source.channelRef == some ref) = true := by
    rw [h.source]
    exact ChannelRef.beq_iff_name_eq.2 hname.symm
  have hfixed : d.source.isFixedSubscriber = true := by
    rw [h.source]
    rfl
  unfold checkSubscriber at hcheck
  rw [hsource, hfixed] at hcheck
  cases hany : d.stages.any (·.input == ref) with
  | true => simp [hany] at hcheck
  | false =>
    rw [List.any_eq_false] at hany
    rw [List.count_eq_zero]
    intro hmem
    obtain ⟨stage, hstage, hinput⟩ := List.mem_map.1 hmem
    exact hany stage hstage (ChannelRef.beq_iff_name_eq.2 (hinput.trans hname.symm))

theorem guarded_appended (h : d.Guarded name) (hcheck : d.checkRequest r = .ok ()) :
    (d.appended r).Guarded name := by
  rcases (admits_of_checkStage hcheck).input with ⟨input, hinput, hsubscriber⟩ | ⟨hinput, hfree, -⟩
  · rw [appended_of_some hinput]
    exact guarded_withStage h (count_of_checkSubscriber h hsubscriber)
  · rw [appended_of_none hinput]
    -- The anonymous channel is new, and the name of the source is not.
    refine guarded_withStage (guarded_extended h) fun hname => ?_
    have hnamed : d.anonymousName = name := hname
    rw [hnamed, h.taken] at hfree
    cases hfree

theorem guarded_joined (h : d.Guarded name) (hjoin : d.Joins ref d') : d'.Guarded name := by
  cases hjoin with
  | nowhere => exact h
  | there => exact h
  | wire => exact guarded_wired h ref
  | bridge origin _ _ hcheck =>
    exact guarded_appended (d := d.onChannel origin) (guarded_frame h h.taken) hcheck

theorem guarded_step {c : Call} {result : Except Failure (List Nat)} (hstep : Step d c result d')
    (h : d.Guarded name) : d'.Guarded name := by
  cases hstep with
  | refused => exact guarded_frame h h.taken
  | appended f r hadmitted =>
    obtain ⟨-, -, hcheck⟩ := Factory.admitted_eq_ok.1 hadmitted
    exact guarded_appended (d := d.learning f.learns) (guarded_frame h h.taken) hcheck
  | continued ref d' _ hjoin =>
    have hjoined := guarded_joined h hjoin
    exact guarded_frame hjoined (ComponentRegistry.contains_withChannel hjoined.taken ref)
  | added component name =>
    exact guarded_frame h (ComponentRegistry.contains_push h.taken component name)
  | addedAll batch => exact guarded_frame h (ComponentRegistry.contains_pushAll h.taken batch)
  | learned => exact guarded_frame h h.taken
  | moved => exact guarded_frame h h.taken
  | flagged => exact guarded_frame h h.taken

theorem guarded_start (id name : String) (config : FlowConfig) :
    (start id (.channel name true) config).Guarded name :=
  ⟨rfl, by simp [start, Source.channelRef, ChannelRef.name, ComponentRegistry.contains,
    ComponentRegistry.find_push_self], Nat.zero_le _⟩

theorem guarded_afterAll (h : d.Guarded name) (hd : d.components.Consistent) (cs : List Call) :
    (d.afterAll cs).Guarded name := by
  induction cs generalizing d with
  | nil => exact h
  | cons c cs ih =>
    have hstep := c.step_of_call hd
    exact ih (guarded_step hstep h) (consistent_step hstep hd)

/-! ## Finished flows -/

theorem inputNames_ended {output : Option ChannelRef} (hended : d.ended = .ok (output, d')) :
    inputNames d'.stages = inputNames d.stages := by
  rcases ended_eq_ok hended with rfl | ⟨-, -, rfl⟩
  · rfl
  · exact inputNames_extended d

/-- A line has a first stage, which consumes the entrance. -/
theorem mem_inputNames_of_line {stages : List FlowStage} {exit : Option ChannelRef}
    (hline : Line (some ref) stages exit) (hstages : stages ≠ []) :
    ref.name ∈ inputNames stages := by
  cases stages with
  | nil => exact absurd rfl hstages
  | cons stage stages =>
    have hname : ref.name = stage.input.name := Option.some.inj hline.1
    exact hname ▸ List.mem_cons_self

/-- A flow is finished from a fixed-subscriber channel only if it has stages. -/
theorem stages_of_finished (h : d.Guarded name) {flow : Flow} (hflow : d.finished = .ok flow) :
    d.stages ≠ [] ∧ inputNames flow.stages = inputNames d.stages := by
  obtain ⟨input, hentrance, hrest⟩ := look_bind_eq_ok.1 hflow
  obtain ⟨⟨output, d'⟩, hended, hrest⟩ := look_bind_eq_ok.1 hrest
  obtain ⟨_, -, hflow⟩ := look_bind_eq_ok.1 hrest
  cases hflow
  refine ⟨?_, inputNames_ended hended⟩
  intro hnil
  simp [entrance, h.source, Source.isFixedSubscriber, hnil] at hentrance

/-- The first stage is the one that consumes the source. -/
theorem count_of_finished (h : d.Guarded name) {id : String} {config : FlowConfig} {s : Sketch}
    (hdrawn : d.Drawn id config s) {flow : Flow} (hflow : d.finished = .ok flow) :
    (inputNames flow.stages).count name = 1 := by
  obtain ⟨hstages, hnames⟩ := stages_of_finished h hflow
  have hline := hdrawn.line
  have hentry : d.entry = some (.named name) := by simp [entry, h.source, Source.channelRef]
  rw [hentry] at hline
  have hfirst := mem_inputNames_of_line hline hstages
  rw [hnames]
  exact Nat.le_antisymm h.single (List.count_pos_iff.2 hfirst)

end FlowDefinition

/-- No two stages consume a fixed-subscriber channel that a flow starts from, whatever was called. A
flow that is finished without setting the cursor by hand has one that does, and every message that
is put into the channel is handed to this stage and to no other. -/
theorem one_subscriber (id name : String) (config : FlowConfig) (cs : List Call) :
    let d := (FlowDefinition.start id (.channel name true) config).afterAll cs
    (d.stages.filter (·.input == .named name)).length ≤ 1 ∧
      ((∀ c ∈ cs, c.isRaw = false) → ∀ flow, (Composer.finish.exec d).1 = .ok flow →
        ∃ stage, flow.stages.filter (·.input == .named name) = [stage] ∧
          ∀ (r : Runner) (ref : ChannelRef) (m : Message), r.flow = flow → ref.name = name →
            r.visit ⟨ref, m⟩ = (do r.forward stage (← stage.endpoint.invoke m)) ∧
            r.dispatch ref m = (do
              let further ← r.forward stage (← stage.endpoint.invoke m)
              Work.run r.visit further)) := by
  intro d
  have hstart := FlowDefinition.guarded_start id name config
  have hguarded : d.Guarded name :=
    FlowDefinition.guarded_afterAll hstart (consistent_start id (.channel name true) config) cs
  refine ⟨(count_inputNames name d.stages) ▸ hguarded.single, ?_⟩
  intro hraw flow hflow
  rw [Composer.result_finish] at hflow
  have hdrawn := FlowDefinition.drawn_afterAll
    (FlowDefinition.drawn_start id (.channel name true) config) hraw
  have hcount := FlowDefinition.count_of_finished hguarded hdrawn hflow
  rw [count_inputNames] at hcount
  obtain ⟨stage, hstage⟩ := List.length_eq_one_iff.1 hcount
  refine ⟨stage, hstage, ?_⟩
  intro r ref m hr href
  have hone : r.flow.consumers ref.name = [stage] := by
    rw [hr, href]
    exact hstage
  have hvisit := r.visit_of_one hone m
  refine ⟨hvisit, ?_⟩
  rw [Runner.dispatch, Work.run_cons, hvisit]
  simp

end

open Sample

/-- The first stage sends back to the channel, by a live reference to it. A second stage on the
channel is refused then, and so is a bridge from it. -/
theorem one_subscriber_looped :
    let d := (FlowDefinition.start "f" (.channel "in" true) .standard).afterAll
      [.stage (.bridge .standard), .channel (.live ⟨0, "in"⟩), .stage (.bridge .standard),
        .channel (.named "out")]
    d.stages.length = 1 ∧ ∃ flow stage, (Composer.finish.exec d).1 = .ok flow ∧
      flow.stages.filter (·.input == .named "in") = [stage] ∧
      stage.endpoint.info.id = "f.bridge#0" ∧
      ∀ m : Message, Runner.dispatch ⟨0, flow, .empty, none⟩ (.named "in") m = (do
        let further ← Runner.forward ⟨0, flow, .empty, none⟩ stage (← stage.endpoint.invoke m)
        Work.run (Runner.visit ⟨0, flow, .empty, none⟩) further) := by
  obtain ⟨-, hfinished⟩ := one_subscriber "f" "in" .standard
    [.stage (.bridge .standard), .channel (.live ⟨0, "in"⟩), .stage (.bridge .standard),
      .channel (.named "out")]
  obtain ⟨stage, hstage, hserved⟩ := hfinished (by simp [Call.isRaw]) _ rfl
  refine ⟨rfl, _, stage, rfl, hstage, ?_, fun m => ?_⟩
  · cases hstage
    rfl
  · exact (hserved ⟨0, _, .empty, none⟩ (.named "in") m rfl rfl).2

end MessageFlow
