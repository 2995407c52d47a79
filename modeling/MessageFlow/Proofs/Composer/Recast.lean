import MessageFlow.Proofs.Composer.Calls

/-!
# Definitions in another guise

What composers make of a definition with other settings, other conversions, and stages that differ
in what no composer looks at (`FlowDefinition.recast`). Nothing is refused for a reason that was not
there before, and what is made is the old result in the new guise: `perform_recast` says so of one
call, `finished_recast` of the flow in the end. Only a conversion into a declared type looks at the
conversions, and must find its target in either guise.
-/

namespace MessageFlow

variable [PayloadTypes]

/-- A change of stages that composers do not notice, and that makes what one would get under other
settings of a stage that is appended. -/
structure Recasts (f : FlowStage → FlowStage) (config config' : FlowConfig) : Prop where
  input : ∀ stage, (f stage).input = stage.input
  info : ∀ stage, (f stage).endpoint.info = stage.endpoint.info
  output : ∀ stage, (f stage).endpoint.output = stage.endpoint.output
  withOutput : ∀ stage ref, f (stage.withOutput ref) = (f stage).withOutput ref
  endpoint : ∀ (r : StageRequest) flow index input,
    f ⟨input, r.endpoint flow config index r.spec.output⟩ =
      ⟨input, r.endpoint flow config' index r.spec.output⟩

/-- A definition may be recast as itself. -/
theorem recasts_self (config : FlowConfig) : Recasts (fun stage => stage) config config :=
  ⟨fun _ => rfl, fun _ => rfl, fun _ => rfl, fun _ _ => rfl, fun _ _ _ _ => rfl⟩

namespace FlowDefinition

variable {d : FlowDefinition} {f : FlowStage → FlowStage} {config' : FlowConfig}
  {known : ConverterRegistry}

/-- The definition with its stages changed, under other settings, and with other targets known. -/
def recast (d : FlowDefinition) (f : FlowStage → FlowStage) (config' : FlowConfig)
    (known : ConverterRegistry) : FlowDefinition :=
  { d with config := config', stages := d.stages.map f, converters := known }

theorem recast_self (d : FlowDefinition) :
    d.recast (fun stage => stage) d.config d.converters = d := by
  unfold recast
  rw [List.map_id']

/-! ## Looks -/

theorem length_recast : (d.recast f config' known).stages.length = d.stages.length :=
  List.length_map f

/-- The output of a component is the same when a definition is recast. -/
theorem outputOf_recast (hf : Recasts f d.config config') (place : Nat) :
    (d.recast f config' known).outputOf place = d.outputOf place := by
  have houtput : ∀ index : Nat,
      (d.recast f config' known).stages[index]?.bind (·.endpoint.output) =
        d.stages[index]?.bind (·.endpoint.output) := by
    intro index
    rw [recast, List.getElem?_map, Option.bind_map]
    exact congrArg (d.stages[index]?.bind ·) (funext hf.output)
  have hcomponents : (d.recast f config' known).components = d.components := rfl
  unfold outputOf
  rw [hcomponents]
  cases d.components.get place with
  | none => rfl
  | some component =>
    cases component with
    | endpoint index => exact congrArg Except.ok (houtput index)
    | _ => rfl

/-- The next stage has the same input when a definition is recast. -/
theorem existingInput_recast (hf : Recasts f d.config config') :
    (d.recast f config' known).existingInput = d.existingInput := by
  have hcursor : (d.recast f config' known).cursor = d.cursor := rfl
  unfold existingInput
  rw [hcursor]
  cases d.cursor with
  | component place => exact outputOf_recast hf place
  | _ => rfl

/-- A fixed subscriber is noticed all the same. -/
theorem checkSubscriber_recast (hf : Recasts f d.config config') (input : ChannelRef) :
    (d.recast f config' known).checkSubscriber input = d.checkSubscriber input := by
  have hany : (d.recast f config' known).stages.any (·.input == input) =
      d.stages.any (·.input == input) := by
    rw [recast, List.any_map]
    exact congrArg d.stages.any (funext fun stage => congrArg (· == input) (hf.input stage))
  unfold checkSubscriber
  rw [hany]
  rfl

theorem checkComponent_recast :
    (d.recast f config' known).checkComponent = d.checkComponent := by
  funext component
  cases component with
  | endpoint index =>
    unfold checkComponent
    rw [length_recast]
  | _ => rfl

/-- A stage is admitted all the same. -/
theorem checkRequest_recast (hf : Recasts f d.config config') (r : StageRequest) :
    (d.recast f config' known).checkRequest r = d.checkRequest r := by
  have hinput : (d.recast f config' known).checkInput = d.checkInput := by
    funext needed
    unfold checkInput
    rw [existingInput_recast hf]
    refine congrArg (d.existingInput >>= ·) (funext fun found => ?_)
    cases found with
    | some input => exact checkSubscriber_recast hf input
    | none => rfl
  unfold checkRequest checkStage
  rw [length_recast, hinput]
  rfl

/-! ## Changes -/

/-- Connecting and recasting may change places. -/
theorem connected_recast (hf : Recasts f d.config config') (place : Nat) (ref : ChannelRef) :
    (d.recast f config' known).connected place ref =
      (d.connected place ref).recast f config' known := by
  have hmodify : ∀ index, (d.stages.map f).modify index (·.withOutput ref) =
      (d.stages.modify index (·.withOutput ref)).map f := by
    intro index
    refine List.ext_getElem? fun other => ?_
    rw [List.getElem?_modify, List.getElem?_map, List.getElem?_map, List.getElem?_modify]
    cases d.stages[other]? with
    | none => rfl
    | some stage => by_cases hindex : index = other <;> simp [hindex, hf.withOutput]
  have hcomponents : (d.recast f config' known).components = d.components := rfl
  unfold connected
  rw [hcomponents]
  cases d.components.get place with
  | none => rfl
  | some component =>
    cases component with
    | endpoint index => simp only [recast, hmodify]
    | _ => rfl

/-- Wiring and recasting may change places. -/
theorem wired_recast (hf : Recasts f d.config config') (ref : ChannelRef) :
    (d.recast f config' known).wired ref = (d.wired ref).recast f config' known := by
  have hcursor : (d.recast f config' known).cursor = d.cursor := rfl
  unfold wired
  rw [hcursor]
  cases d.cursor with
  | component place => exact connected_recast hf place ref
  | _ => rfl

/-- Extending and recasting may change places. -/
theorem extended_recast (hf : Recasts f d.config config') :
    (d.recast f config' known).extended = d.extended.recast f config' known :=
  wired_recast (d := d.withAnonymous) hf d.anonymousRef

/-- A stage may be added before it is recast, or after. -/
theorem withStage_recast (hf : Recasts f d.config config') (stage : FlowStage) :
    (d.recast f config' known).withStage (f stage) =
      (d.withStage stage).recast f config' known := by
  unfold withStage
  simp only [recast, List.length_map, List.map_append, List.map_cons, List.map_nil, hf.info,
    hf.output, hf.input]

/-- The next stage of what is recast is the next stage, recast. -/
theorem nextStage_recast (hf : Recasts f d.config config') (r : StageRequest)
    (input : ChannelRef) :
    (d.recast f config' known).nextStage r input = f (d.nextStage r input) := by
  unfold nextStage
  rw [hf.endpoint, length_recast]
  rfl

/-- Appending and recasting may change places. -/
theorem appended_recast (hf : Recasts f d.config config') (r : StageRequest) :
    (d.recast f config' known).appended r = (d.appended r).recast f config' known := by
  -- An anonymous channel that comes first does not change the settings of the stage.
  have horigin : d.extended.config = d.config :=
    congrArg (·.2.2) (origin_wired d.withAnonymous d.anonymousRef)
  unfold appended
  rw [existingInput_recast hf, extended_recast hf]
  split
  · rw [nextStage_recast hf, withStage_recast hf]
  · rw [nextStage_recast hf, withStage_recast (horigin ▸ hf)]
    rfl

/-- Bridging and recasting may change places. -/
theorem bridged_recast (hf : Recasts f d.config config') (origin goal : ChannelRef) :
    (d.recast f config' known).bridged origin goal =
      (d.bridged origin goal).map (·.recast f config' known) := by
  have hcheck : ((d.recast f config' known).onChannel origin).checkRequest (.bridgeTo goal) =
      (d.onChannel origin).checkRequest (.bridgeTo goal) :=
    checkRequest_recast (d := d.onChannel origin) hf _
  unfold bridged
  rw [hcheck]
  cases (d.onChannel origin).checkRequest (.bridgeTo goal) with
  | error failure => rfl
  | ok => exact congrArg Except.ok (appended_recast (d := d.onChannel origin) hf _)

/-- Joining and recasting may change places. -/
theorem joined_recast (hf : Recasts f d.config config') (ref : ChannelRef) :
    (d.recast f config' known).joined ref = (d.joined ref).map (·.recast f config' known) := by
  have hfrom : ∀ found, (d.recast f config' known).joinedFrom ref found =
      (d.joinedFrom ref found).map (·.recast f config' known) := by
    intro found
    cases found with
    | none => exact congrArg Except.ok (wired_recast hf ref)
    | some existing =>
      simp only [joinedFrom, bridged_recast hf]
      split <;> rfl
  have hjoin : (d.existingInput >>= (d.recast f config' known).joinedFrom ref) =
      (d.existingInput >>= d.joinedFrom ref).map (·.recast f config' known) := by
    cases d.existingInput with
    | error failure => rfl
    | ok found => exact hfrom found
  have hcursor : (d.recast f config' known).cursor = d.cursor := rfl
  unfold joined
  rw [hcursor, existingInput_recast hf]
  cases d.cursor with
  | empty => rfl
  | channel _ => exact hjoin
  | component _ => exact hjoin

/-! ## Finishing -/

theorem entrance_recast : (d.recast f config' known).entrance = d.entrance := by
  have hempty : (d.recast f config' known).stages.isEmpty = d.stages.isEmpty := List.isEmpty_map
  unfold entrance
  rw [hempty]
  rfl

/-- The inputs of the stages are found all the same. -/
theorem checkInputs_recast (hf : Recasts f d.config config') :
    (d.recast f config' known).checkInputs = d.checkInputs := by
  have hresolvable : (d.recast f config' known).isResolvable = d.isResolvable := by
    funext ref
    cases ref <;> rfl
  have hfind : (d.recast f config' known).stages.find?
      (fun stage => !(d.recast f config' known).isResolvable stage.input) =
        (d.stages.find? fun stage => !d.isResolvable stage.input).map f := by
    have hinput : (fun stage => !d.isResolvable stage.input) ∘ f =
        fun stage => !d.isResolvable stage.input :=
      funext fun stage => congrArg (!d.isResolvable ·) (hf.input stage)
    rw [hresolvable, recast, List.find?_map, hinput]
  unfold checkInputs
  rw [hfind]
  cases d.stages.find? fun stage => !d.isResolvable stage.input with
  | none => rfl
  | some stage => simp [hf.info]

/-- The end is the same when a definition is recast. -/
theorem ended_recast (hf : Recasts f d.config config') :
    (d.recast f config' known).ended =
      d.ended.map fun e => (e.1, e.2.recast f config' known) := by
  have hcursor : (d.recast f config' known).cursor = d.cursor := rfl
  have himplicit : (d.recast f config' known).implicit = d.implicit := rfl
  have htaken : (d.recast f config' known).components.contains
      (d.recast f config' known).anonymousName = d.components.contains d.anonymousName := rfl
  unfold ended
  rw [hcursor]
  cases d.cursor with
  | channel _ => rfl
  | empty => rfl
  | component place =>
    dsimp only
    rw [outputOf_recast hf, himplicit, htaken, extended_recast hf]
    rcases d.outputOf place with failure | _ | found
    · rfl
    · cases d.implicit <;> cases d.components.contains d.anonymousName <;> rfl
    · rfl

/-- The flow that is made in the end has the changed stages, and is otherwise the same if it polls
as before. -/
theorem finished_recast (hf : Recasts f d.config config')
    (hpoller : config'.defaultPoller = d.config.defaultPoller) :
    (d.recast f config' known).finished =
      d.finished.map fun flow => { flow with stages := flow.stages.map f } := by
  unfold finished
  rw [entrance_recast, ended_recast hf]
  cases d.entrance with
  | error failure => rfl
  | ok input =>
    cases hended : d.ended with
    | error failure => rfl
    | ok e =>
      obtain ⟨output, d'⟩ := e
      have hconfig : d'.config = d.config := by
        rcases ended_eq_ok hended with rfl | ⟨-, -, rfl⟩
        · rfl
        · exact congrArg (·.2.2) (origin_wired d.withAnonymous d.anonymousRef)
      have hinputs : (d'.recast f config' known).checkInputs = d'.checkInputs :=
        checkInputs_recast (hconfig ▸ hf)
      simp only [look_map_ok, look_ok_bind, hinputs]
      cases d'.checkInputs with
      | error failure => rfl
      | ok =>
        have hsame : (d'.recast f config' known).toFlow input output =
            { d'.toFlow input output with stages := d'.stages.map f } := by
          simp only [toFlow, recast, hpoller, hconfig]
        exact congrArg Except.ok hsame

end FlowDefinition

/-! ## Calls -/

namespace Factory

variable {f : Factory}

/-- What needs a conversion makes none known. -/
theorem learns_of_needs {type : DataType} (h : f.needs = some type) : f.learns = none := by
  cases f <;> first | rfl | cases h

/-- A call is admitted all the same, if what it needs is known or not in both. -/
theorem admitted_recast {d : FlowDefinition} {g : FlowStage → FlowStage} {config' : FlowConfig}
    {known : ConverterRegistry} (hg : Recasts g d.config config')
    (hneeds : ∀ type, f.needs = some type → known.contains type = d.converters.contains type) :
    f.admitted ((d.recast g config' known).learning f.learns) =
      f.admitted (d.learning f.learns) := by
  have hcheck : f.checkNeeds (known.learning f.learns) =
      f.checkNeeds (d.converters.learning f.learns) := by
    unfold checkNeeds
    cases htype : f.needs with
    | none => rfl
    | some type =>
      -- Who needs a conversion makes none known, so the need is looked up in what there was.
      rw [learns_of_needs htype]
      show (if known.contains type then _ else _) = if d.converters.contains type then _ else _
      rw [hneeds type htype]
  have hlearning : (d.recast g config' known).learning f.learns =
      (d.learning f.learns).recast g config' (known.learning f.learns) := rfl
  have hrequest : ((d.learning f.learns).recast g config' (known.learning f.learns)).checkRequest =
      (d.learning f.learns).checkRequest :=
    funext fun r => FlowDefinition.checkRequest_recast hg r
  unfold admitted
  rw [hlearning, hrequest]
  exact congrArg (· >>= fun _ => f.request >>= fun r =>
    (d.learning f.learns).checkRequest r >>= fun _ => pure r) hcheck

end Factory

/-- A call does the same in any guise, except that a conversion into a declared type must find its
target. -/
theorem perform_recast {d : FlowDefinition} {g : FlowStage → FlowStage} {config' : FlowConfig}
    (hd : d.components.Consistent) (hg : Recasts g d.config config') (c : Call)
    (known : ConverterRegistry)
    (hneeds : ∀ type, c.needs = some type → known.contains type = d.converters.contains type) :
    c.result (d.recast g config' known) = c.result d ∧
      c.after (d.recast g config' known) =
        (c.after d).recast g config' (known.learning c.learns) := by
  have hcomponents : (d.recast g config' known).components = d.components := rfl
  have hcursor : (d.recast g config' known).cursor = d.cursor := rfl
  unfold Call.result Call.after
  cases c with
  | stage f =>
    rw [Call.exec_stage hd, Call.exec_stage (d := d.recast g config' known) hd,
      Factory.admitted_recast hg hneeds]
    cases f.admitted (d.learning f.learns) with
    | error failure => exact ⟨rfl, rfl⟩
    | ok r => exact ⟨rfl, FlowDefinition.appended_recast (d := d.learning f.learns) hg r⟩
  | channel ref =>
    have hcheck : (d.recast g config' known).checkChannel ref = d.checkChannel ref := rfl
    rw [Call.exec_channel hd, Call.exec_channel (d := d.recast g config' known) hd, hcheck,
      FlowDefinition.joined_recast hg]
    cases d.checkChannel ref with
    | error failure => exact ⟨rfl, rfl⟩
    | ok => cases d.joined ref <;> exact ⟨rfl, rfl⟩
  | addComponent component name =>
    rw [Call.exec_addComponent, Call.exec_addComponent, FlowDefinition.checkComponent_recast,
      hcomponents]
    cases d.checkComponent component with
    | error failure => exact ⟨rfl, rfl⟩
    | ok => cases name.filter d.components.contains <;> exact ⟨rfl, rfl⟩
  | addComponents batch =>
    rw [Call.exec_addComponents, Call.exec_addComponents, FlowDefinition.checkComponent_recast,
      hcomponents]
    cases batch.forM fun entry => d.checkComponent entry.1 with
    | error failure => exact ⟨rfl, rfl⟩
    | ok => cases d.components.clash? [] batch <;> exact ⟨rfl, rfl⟩
  | registerConverter target => exact ⟨rfl, rfl⟩
  | setChannel ref =>
    rw [Call.exec_setChannel, Call.exec_setChannel, hcursor]
    rcases ref with _ | ref
    · cases d.cursor <;> exact ⟨rfl, rfl⟩
    · exact ⟨rfl, rfl⟩
  | setComponent place =>
    rw [Call.exec_setComponent, Call.exec_setComponent, hcursor, hcomponents]
    rcases place with _ | place
    · cases d.cursor <;> exact ⟨rfl, rfl⟩
    · dsimp only
      split <;> exact ⟨rfl, rfl⟩
  | setImplicit implicit => exact ⟨rfl, rfl⟩

/-- What is known after a call depends on nothing but what was known before. -/
theorem converters_after {d : FlowDefinition} (hd : d.components.Consistent) (c : Call) :
    (c.after d).converters = d.converters.learning c.learns := by
  have hself := (perform_recast hd (recasts_self d.config) c d.converters fun _ _ => rfl).2
  rw [FlowDefinition.recast_self] at hself
  exact congrArg FlowDefinition.converters hself

end MessageFlow
