import MessageFlow.Proofs.Composer.Made
import MessageFlow.Proofs.Dispatch.Ranks
import MessageFlow.Proofs.Dispatch.Strategies

/-!
# Plain stages

What can be said of an answer depends on the stages that a request goes through. `FlowStage.Plain`
is all that has to be known of them: what they make of a message is a function of its face, they
keep its reply channel, and they touch no runner. Of every call but a router, and a filter with a
channel for what it rejects, the stage is plain if the function behind it might as well not act on
the world (`computesFor_of_request`) and the advice is the library's own (`plain_of_made`). So are
all stages of a flow that is composed of such calls (`plain_of_calls`).
-/

namespace MessageFlow

variable [PayloadTypes]

/-- What stages and deliveries leave alone: what the runners do, and how long a wait may last. -/
def World.Steady (w v : World) : Prop :=
  v.runners = w.runners ∧ v.patience = w.patience

/-- A stage without a state of its own. What it makes of a message is a function of what a view
shows of it, all of it has the reply channel of the message, and no runner is touched. -/
structure FlowStage.Plain {V E : Type} (view : Message → V) (blame : Failure → E)
    (f : V → Except E (List V)) (stage : FlowStage) : Prop where
  computes : ∀ reply, ComputesFor view blame reply stage.endpoint.invoke f
  steady : ∀ m, (stage.endpoint.invoke m).Returns World.Steady fun _ => True

/-- What the stage of a call computes of a face, if the function that the call gives amounts to one
of its argument alone. A router sends messages elsewhere, and so does a filter with a channel for
what it rejects. -/
inductive Factory.Amounts (stage : StageInfo) : Factory → (Payload × Headers → Faces) → Prop where
  | transform {input output : DataType} {f : input.denote → Run (Except Cause output.denote)}
      {g : input.denote → Except Failure (Except Cause output.denote)} (spec : EndpointSpec) :
      AmountsTo f g →
      Amounts stage (.transform input output f spec) (transformed stage input output g)
  | transformPayload {input : DataType} {f : Payload → Run Payload}
      {g : Payload → Except Failure Payload} : AmountsTo f g →
      Amounts stage (.transformPayload (some input) f) (replaced stage input g)
  | filter {input : DataType} {f : input.denote → Run Bool}
      {g : input.denote → Except Failure Bool} (spec : FilterSpec) :
      AmountsTo f g → spec.rejection.channel = none →
      Amounts stage (.filter input f spec) (filtered stage input g spec.rejection)
  | filterPayload {input : DataType} {f : Payload → Run Bool} {g : Payload → Except Failure Bool} :
      AmountsTo f g →
      Amounts stage (.filterPayload (some input) f) (filteredPayload stage input g .drop)
  | split {input item : DataType} {f : input.denote → Run (List item.denote)}
      {g : input.denote → Except Failure (List item.denote)} (spec : SplitterSpec) :
      AmountsTo f g →
      Amounts stage (.split input item f spec) (parted stage input item g spec.sequenced)
  | convert (target : ConvertTarget) (spec : EndpointSpec) :
      Amounts stage (.convert target spec) (converted target)
  | convertTo {type : DataType} {target : ConvertTarget} :
      ConvertTarget.ofType? type = some target →
      Amounts stage (.convertTo (some type)) (converted target)
  | handle {input : DataType} {f : input.denote → Run Unit}
      {g : input.denote → Except Failure Unit} (spec : EndpointSpec) : AmountsTo f g →
      Amounts stage (.handle input f spec) (consumed stage input g)
  | bridge (spec : EndpointSpec) : Amounts stage (.bridge spec) fun face => .ok [face]
  | log (level : Level) (category : String) :
      Amounts stage (.log level category) fun face => .ok [face]

/-- The advice of the library that asks no function of a user. -/
inductive Advice.Standard : Advice → Prop where
  | tracing : Standard Advice.tracing
  | stop : Standard ErrorStrategy.stop.advice
  | skip : Standard ErrorStrategy.skip.advice
  | retry (limit : Nat) : Standard (ErrorStrategy.retry limit).advice

theorem frame_steady : Frame World.Steady where
  refl _ := ⟨rfl, rfl⟩
  trans _ _ _ h h' := ⟨h'.1.trans h.1, h'.2.trans h.2⟩
  issued _ _ := ⟨rfl, rfl⟩
  journal _ _ := ⟨rfl, rfl⟩

theorem computesFor_of_request {info : StageInfo} {f : Factory} {g : Payload × Headers → Faces}
    {request : StageRequest} (hrequest : f.request = .ok request) (h : f.Amounts info g)
    (reply : Option ChannelRef) :
    ComputesFor Message.face Failure.face reply (request.handler info) g := by
  cases h with
  | transform spec hf =>
    cases hrequest
    exact computesFor_transform _ _ hf
  | transformPayload hf =>
    cases hrequest
    exact computesFor_transformPayload _ hf
  | filter spec hf hrejection =>
    cases hrequest
    exact computesFor_filter _ hf hrejection
  | filterPayload hf =>
    cases hrequest
    exact computesFor_filterPayload _ hf rfl
  | split spec hf =>
    cases hrequest
    exact computesFor_split _ _ hf spec.sequenced
  | convert target spec =>
    cases hrequest
    exact computesFor_convert target
  | convertTo htarget =>
    rw [Factory.request, htarget] at hrequest
    cases hrequest
    exact computesFor_convert _
  | handle spec hf =>
    cases hrequest
    exact computesFor_handle _ hf
  | bridge spec =>
    cases hrequest
    exact @computesFor_bridge _ info reply
  | log level category =>
    cases hrequest
    exact computesFor_log level category

/-- Advice of the library drops the messages of some failures or of none, and touches no runner. -/
theorem spares_of_standard {advice : Advice} (h : advice.Standard) :
    ∃ skips, advice.Spares skips ∧ advice.Returns World.Steady := by
  cases h with
  | tracing => exact ⟨_, spares_tracing, returns_tracing frame_steady⟩
  | stop =>
    exact ⟨_, spares_strategy settles_stop, returns_strategy frame_steady (tires_stop frame_steady)⟩
  | skip =>
    exact ⟨_, spares_strategy settles_skip, returns_strategy frame_steady (tires_skip frame_steady)⟩
  | retry limit =>
    exact ⟨_, spares_strategy (settles_retry limit),
      returns_strategy frame_steady (tires_retry frame_steady limit)⟩

section Made

variable {stage : FlowStage}

/-- A stage is plain if what its handler computes is known, its advice only drops messages, and
neither of them touches the runners. -/
theorem plain_of_advised {V : Type} {view : Message → V} {stage : FlowStage}
    {f : V → Except Failure (List V)} {names : ChannelRef → Prop}
    {chain : List (Advice × (Failure → Bool))}
    (hchain : stage.endpoint.advice = chain.map Prod.fst)
    (hadvice : ∀ a ∈ chain, a.1.Spares a.2 ∧ a.1.Returns World.Steady)
    (hcomputes : ∀ reply, ComputesFor view Failure.face reply
      (stage.endpoint.handler stage.endpoint.info) f)
    (hreturns : stage.endpoint.handler.Returns World.Steady names) :
    stage.Plain view Failure.face (chain.foldr (fun a => spared a.2) f) where
  computes reply := by
    show ComputesFor view Failure.face reply
      (stage.endpoint.handler.advised stage.endpoint.advice stage.endpoint.info) _
    rw [hchain]
    exact computesOn_advised (fun a ha => (hadvice a ha).1) (hcomputes reply)
  steady m := by
    have hsteady : ∀ advice ∈ stage.endpoint.advice, advice.Returns World.Steady := by
      intro advice hmem
      rw [hchain] at hmem
      obtain ⟨a, ha, rfl⟩ := List.mem_map.1 hmem
      exact (hadvice a ha).2
    exact returns_mono (returns_advised hreturns hsteady stage.endpoint.info m) fun _ _ => trivial

/-- A chain of advice, each with the failures whose messages it drops. -/
theorem exists_spared {chain : List Advice}
    (h : ∀ advice ∈ chain, ∃ skips, advice.Spares skips ∧ advice.Returns World.Steady) :
    ∃ spares : List (Advice × (Failure → Bool)), chain = spares.map Prod.fst ∧
      ∀ a ∈ spares, a.1.Spares a.2 ∧ a.1.Returns World.Steady := by
  induction chain with
  | nil => exact ⟨[], rfl, by simp⟩
  | cons advice chain ih =>
    rw [List.forall_mem_cons] at h
    obtain ⟨skips, hadvice⟩ := h.1
    obtain ⟨spares, rfl, hspares⟩ := ih h.2
    exact ⟨(advice, skips) :: spares, rfl, List.forall_mem_cons.2 ⟨hadvice, hspares⟩⟩

/-- The stage of a call is plain if its function amounts to one of its argument alone and its advice
only drops messages. What it computes is what the call computes, but for the messages that the
advice drops. -/
theorem plain_of_made {f : Factory} {g : Payload × Headers → Faces} (hmade : stage.MadeBy f)
    (hamounts : f.Amounts stage.endpoint.info g) (hreturns : f.Returns World.Steady)
    (hadvice : ∀ advice ∈ f.options.advice,
      ∃ skips, advice.Spares skips ∧ advice.Returns World.Steady) :
    ∃ skips : List (Failure → Bool),
      stage.Plain Message.face Failure.face (skips.foldr spared g) := by
  obtain ⟨request, hrequest, hhandler, -⟩ := hmade.endpoint
  have hchain : ∀ advice ∈ stage.endpoint.advice,
      ∃ skips, advice.Spares skips ∧ advice.Returns World.Steady := by
    intro advice hmem
    rcases hmade.advice_cases hmem with rfl | hgiven
    · exact spares_of_standard .tracing
    · exact hadvice advice hgiven
  obtain ⟨spares, hspares, hkeeps⟩ := exists_spared hchain
  have hcomputes : ∀ reply, ComputesFor Message.face Failure.face reply
      (stage.endpoint.handler stage.endpoint.info) g := by
    rw [hhandler]
    exact computesFor_of_request hrequest hamounts
  have hsteady : stage.endpoint.handler.Returns World.Steady fun ref => f.Names ref := by
    rw [hhandler]
    exact returns_of_request frame_steady hrequest hreturns
  refine ⟨spares.map Prod.snd, ?_⟩
  rw [List.foldr_map]
  exact plain_of_advised hspares hkeeps hcomputes hsteady

end Made

/-- All stages of a flow are plain if every call is of one of the kinds above, with advice of the
library. -/
theorem plain_of_calls (id : String) (source : Source) (config : FlowConfig) (cs : List Call)
    (hcalls : ∀ f, .stage f ∈ (FlowDefinition.start id source config).succeeded cs →
      (∀ info, ∃ g, f.Amounts info g) ∧ f.Returns World.Steady ∧
        ∀ advice ∈ f.options.advice, advice.Standard) {flow : Flow}
    (hflow : (Composer.finish.exec
      ((FlowDefinition.start id source config).afterAll cs)).1 = .ok flow) :
    ∀ stage ∈ flow.stages, ∃ g, stage.Plain Message.face Failure.face g := by
  rw [Composer.result_finish] at hflow
  have hbridges : HasBridges fun f => (∀ info, ∃ g, f.Amounts info g) ∧ f.Returns World.Steady ∧
      ∀ advice ∈ f.options.advice, advice.Standard :=
    fun _ => ⟨fun _ => ⟨_, .bridge _⟩, trivial, nofun⟩
  have hmade : MadeOf (fun f => (∀ info, ∃ g, f.Amounts info g) ∧ f.Returns World.Steady ∧
      ∀ advice ∈ f.options.advice, advice.Standard) flow.stages := by
    refine FlowDefinition.madeOf_finished ?_ hflow
    exact FlowDefinition.madeOf_succeeded (consistent_start id source config) hbridges hcalls
      fun _ hstage => nomatch hstage
  intro stage hstage
  obtain ⟨f, hf, hamounts, hreturns, hadvice⟩ := hmade stage hstage
  obtain ⟨g, hg⟩ := hamounts stage.endpoint.info
  obtain ⟨skips, hplain⟩ := plain_of_made hf hg hreturns fun advice hmem =>
    spares_of_standard (hadvice advice hmem)
  exact ⟨_, hplain⟩

end MessageFlow
