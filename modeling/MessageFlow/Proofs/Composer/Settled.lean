import MessageFlow.Composition
import MessageFlow.Proofs.Composer.Components

/-!
# What composers do, settled

Composers work in place, one step that may be refused after the other. This file shows that nothing
is refused once something was done: `exec_append`, `exec_bridgeInto` and `exec_channel` say of each
that it is one look at the definition, which may refuse it and leaves it alone, and then one total
function of it.

The argument is about names. What a stage needs is looked up beforehand: its id, its output and the
anonymous channel in front of it are free or channels, and differ from each other where they are
registered anew. A name that is registered on the way does not disturb the others, because names
stand for places that are taken (`ComponentRegistry.Consistent`).
-/

namespace MessageFlow

variable [PayloadTypes]

/-- What a stage is made from. -/
structure StageRequest where
  kind : StageKind
  type : DataType
  handler : Handler
  spec : EndpointSpec

namespace StageRequest

/-- The bridge to a channel. -/
def bridgeTo (goal : ChannelRef) : StageRequest :=
  ⟨.bridge, .payload, Handler.bridge, { EndpointSpec.standard with output := some goal }⟩

/-- Who the stage is, as the stage at an index of a flow. -/
def info (r : StageRequest) (flow : String) (index : Nat) : StageInfo :=
  ⟨r.spec.id.getD (flow ++ "." ++ r.kind.name ++ "#" ++ toString index), r.kind⟩

/-- The endpoint of the stage, with an output. -/
def endpoint (r : StageRequest) (flow : String) (config : FlowConfig) (index : Nat)
    (output : Option ChannelRef) : Endpoint :=
  { info := r.info flow index
    type := r.type
    handler := r.handler
    advice := if config.logStages then Advice.tracing :: r.spec.advice else r.spec.advice
    poller := r.spec.poller
    output := output }

end StageRequest

/-- The names of the channels that stages consume, in the order of composition. -/
def inputNames (stages : List FlowStage) : List String :=
  stages.map (·.input.name)

namespace FlowDefinition

variable {d : FlowDefinition} {ref : ChannelRef} {place : Nat} {id : String}
  {output : Option ChannelRef} {r : StageRequest}

/-! ## Total steps -/

/-- With a channel registered, unless one of its name is there. -/
def withChannel (d : FlowDefinition) (ref : ChannelRef) : FlowDefinition :=
  { d with components := d.components.withChannel ref }

/-- With the output of a component connected. -/
def connected (d : FlowDefinition) (place : Nat) (ref : ChannelRef) : FlowDefinition :=
  { d with
    stages :=
      match d.components.get place with
      | some (.endpoint index) => d.stages.modify index fun stage => stage.withOutput ref
      | _ => d.stages
    sourceOutput :=
      match d.components.get place with
      | some (.source _) => some ref
      | _ => d.sourceOutput }

/-- With the next anonymous channel. -/
def withAnonymous (d : FlowDefinition) : FlowDefinition :=
  { d with
    components := d.components.push (.channel d.anonymousRef) (some d.anonymousName)
    anonymous := d.anonymous + 1
    events := d.events ++ [.createdChannel d.id d.anonymousName] }

/-- With the output of the current component connected. -/
def wired (d : FlowDefinition) (ref : ChannelRef) : FlowDefinition :=
  match d.cursor with
  | .component place => d.connected place ref
  | _ => d

/-- With the current component connected to the next anonymous channel. -/
def extended (d : FlowDefinition) : FlowDefinition :=
  d.withAnonymous.wired d.anonymousRef

/-- The stage that is made from a request and consumes a channel. -/
def nextStage (d : FlowDefinition) (r : StageRequest) (input : ChannelRef) : FlowStage :=
  ⟨input, r.endpoint d.id d.config d.stages.length r.spec.output⟩

/-- With a stage behind the others, and the cursor behind the stage. -/
def withStage (d : FlowDefinition) (stage : FlowStage) : FlowDefinition :=
  let components := d.components.push (.endpoint d.stages.length) (some stage.endpoint.info.id)
  { d with
    stages := d.stages ++ [stage]
    components := (stage.endpoint.output.map components.withChannel).getD components
    cursor := (stage.endpoint.output.map Cursor.channel).getD (.component d.components.size)
    implicit := stage.endpoint.output.isNone
    events := d.events ++ [.appended d.id stage.endpoint.info stage.input.name] }

/-- With a stage at the cursor. -/
def appended (d : FlowDefinition) (r : StageRequest) : FlowDefinition :=
  match d.existingInput with
  | .ok (some input) => d.withStage (d.nextStage r input)
  | _ => d.extended.withStage (d.nextStage r d.anonymousRef)

/-- All that could refuse a stage. -/
def checkRequest (d : FlowDefinition) (r : StageRequest) : Except Failure Unit :=
  d.checkStage (r.info d.id d.stages.length).id r.spec.output

/-- With a bridge from one channel to another. -/
def bridged (d : FlowDefinition) (origin goal : ChannelRef) : Except Failure FlowDefinition := do
  (d.onChannel origin).checkRequest (.bridgeTo goal)
  return (d.onChannel origin).appended (.bridgeTo goal)

/-- With a channel reached from the one the cursor is on, or from a component that has none yet. -/
def joinedFrom (d : FlowDefinition) (ref : ChannelRef) :
    Option ChannelRef → Except Failure FlowDefinition
  | none => .ok (d.wired ref)
  | some existing => if existing == ref then .ok d else d.bridged existing ref

/-- With what the cursor is on connected to a channel. -/
def joined (d : FlowDefinition) (ref : ChannelRef) : Except Failure FlowDefinition :=
  match d.cursor with
  | .empty => .ok d
  | _ => d.existingInput >>= d.joinedFrom ref

/-- With a channel as what the cursor is on. -/
def continued (d : FlowDefinition) (ref : ChannelRef) : FlowDefinition :=
  { d.withChannel ref with cursor := .channel ref, implicit := false }

/-- The channel at the end, and the definition that has it. -/
def ended (d : FlowDefinition) : Except Failure (Option ChannelRef × FlowDefinition) :=
  match d.cursor with
  | .channel ref => .ok (some ref, d)
  | .empty => .ok (none, d)
  | .component place => do
    match ← d.outputOf place with
    | some ref => return (some ref, d)
    | none =>
      if d.implicit then
        if d.components.contains d.anonymousName then throw (.duplicateName d.anonymousName)
        return (some d.anonymousRef, d.extended)
      else return (none, d)

/-- The finished flow. -/
def finished (d : FlowDefinition) : Except Failure Flow := do
  let input ← d.entrance
  let (output, d') ← d.ended
  d'.checkInputs
  return d'.toFlow input output

/-! ## Looks -/

/-- A channel may be named if its name is free or already names a channel. -/
theorem checkChannel_eq_ok : d.checkChannel ref = .ok () ↔
    d.components.contains ref.name = false ∨
      ∃ known, d.components.channelNamed ref.name = some known := by
  unfold checkChannel
  cases d.components.contains ref.name <;> cases d.components.channelNamed ref.name <;> simp

/-- There is room for a stage: its id is free, and its output free or a channel. -/
structure Fits (d : FlowDefinition) (id : String) (output : Option ChannelRef) : Prop where
  id_free : d.components.contains id = false
  output_ne : ∀ ref, output = some ref → ref.name ≠ id
  output_ok : ∀ ref, output = some ref → d.checkChannel ref = .ok ()

/-- What was found out about a stage that is not refused. -/
structure Admits (d : FlowDefinition) (id : String) (output : Option ChannelRef) : Prop
    extends d.Fits id output where
  input : (∃ input, d.existingInput = .ok (some input) ∧ d.checkSubscriber input = .ok ()) ∨
    d.existingInput = .ok none ∧ d.components.contains d.anonymousName = false ∧
      d.anonymousName ≠ id ∧ ∀ ref, output = some ref → ref.name ≠ d.anonymousName

/-- The next anonymous channel may be created if its name is neither needed nor taken. -/
theorem checkAnonymous_eq_ok {needed : List String} :
    d.checkAnonymous needed = .ok () ↔
      d.anonymousName ∉ needed ∧ d.components.contains d.anonymousName = false := by
  unfold checkAnonymous
  by_cases hmem : d.anonymousName ∈ needed <;>
    cases d.components.contains d.anonymousName <;> simp [hmem]

/-- What is checked before a stage is added is what lets a definition admit it. -/
theorem admits_of_checkStage (h : d.checkStage id output = .ok ()) : d.Admits id output := by
  unfold checkStage at h
  by_cases hid : d.components.contains id = true
  · simp [hid] at h
  simp only [hid, if_false, Bool.false_eq_true] at h
  -- Whatever is said of the output, the input is looked at last.
  have hsplit : d.checkInput (id :: (output.map ChannelRef.name).toList) = .ok () ∧
      ∀ ref, output = some ref → ref.name ≠ id ∧ d.checkChannel ref = .ok () := by
    cases output with
    | none => exact ⟨by simpa using h, by simp⟩
    | some ref =>
      by_cases hname : ref.name = id
      · simp [hname] at h
      · simp only [hname, if_false] at h
        obtain ⟨⟨⟩, hcheck, hrest⟩ := look_bind_eq_ok.1 h
        refine ⟨hrest, ?_⟩
        intro ref' href
        cases href
        exact ⟨hname, hcheck⟩
  obtain ⟨hinput, houtput⟩ := hsplit
  refine ⟨⟨by simpa using hid, fun ref href => (houtput ref href).1,
    fun ref href => (houtput ref href).2⟩, ?_⟩
  obtain ⟨found, hfound, hrest⟩ := look_bind_eq_ok.1 hinput
  cases found with
  | some input => exact Or.inl ⟨input, hfound, hrest⟩
  | none =>
    obtain ⟨hneeded, hfree⟩ := checkAnonymous_eq_ok.1 hrest
    simp only [List.mem_cons, not_or] at hneeded
    refine Or.inr ⟨hfound, hfree, hneeded.1, ?_⟩
    intro ref href he
    cases href
    exact hneeded.2 (by simp [he])

/-- Nothing else refuses a stage. -/
theorem checkStage_of_admits (h : d.Admits id output) : d.checkStage id output = .ok () := by
  have hinput : d.checkInput (id :: (output.map ChannelRef.name).toList) = .ok () := by
    unfold checkInput
    rcases h.input with ⟨input, hinput, hsubscriber⟩ | ⟨hinput, hfree, hid, houtput⟩
    · simp [hinput, hsubscriber]
    · rw [hinput, look_ok_bind]
      refine checkAnonymous_eq_ok.2 ⟨?_, hfree⟩
      cases output with
      | none => simp [hid]
      | some ref => simp [hid, Ne.symm (houtput ref rfl)]
  unfold checkStage
  cases output with
  | none => simpa [h.id_free] using hinput
  | some ref => simpa [h.id_free, h.output_ne ref rfl, h.output_ok ref rfl] using hinput

/-- A component that awaits its output is a stage, or the source. -/
theorem outputOf_eq_none : d.outputOf place = .ok none ↔
    (∃ index, d.components.get place = some (.endpoint index) ∧
      d.stages[index]?.bind (·.endpoint.output) = none) ∨
    ∃ text, d.components.get place = some (.source text) ∧ place = d.sourcePlace ∧
      d.sourceOutput = none := by
  unfold outputOf
  cases d.components.get place with
  | none => simp
  | some component =>
    cases component with
    | channel ref => simp
    | endpoint index => simp
    | source text => by_cases hplace : place = d.sourcePlace <;> simp [hplace]
    | bean => simp

/-- What awaits an anonymous channel is the component the cursor is on. -/
theorem existingInput_eq_none : d.existingInput = .ok none ↔
    ∃ place, d.cursor = .component place ∧ d.outputOf place = .ok none := by
  unfold existingInput
  cases d.cursor <;> simp

/-- A stage that follows a channel has it for its input. -/
theorem existingInput_of_channel (h : d.cursor = .channel ref) :
    d.existingInput = .ok (some ref) := by
  rw [existingInput, h]

/-- A definition that stands at a channel is left as it is. -/
theorem onChannel_of_cursor (h : d.cursor = .channel ref) : d.onChannel ref = d := by
  rw [onChannel, ← h]

/-- An output that was open is open after an anonymous channel was created. -/
theorem outputOf_withAnonymous (h : d.outputOf place = .ok none) :
    d.withAnonymous.outputOf place = .ok none := by
  rw [outputOf_eq_none] at h ⊢
  refine h.imp ?_ ?_
  · rintro ⟨index, hget, hout⟩
    exact ⟨index, ComponentRegistry.get_push_of_get hget _ _, hout⟩
  · rintro ⟨text, hget, hplace, hout⟩
    exact ⟨text, ComponentRegistry.get_push_of_get hget _ _, hplace, hout⟩

/-- Finishing an end changes it only if it is open. -/
theorem ended_eq_ok {d' : FlowDefinition} (h : d.ended = .ok (output, d')) :
    d' = d ∨ d.existingInput = .ok none ∧ d.components.contains d.anonymousName = false ∧
      d' = d.extended := by
  unfold ended at h
  unfold existingInput
  cases hcursor : d.cursor with
  | channel ref =>
    rw [hcursor] at h
    cases h
    exact .inl rfl
  | empty =>
    rw [hcursor] at h
    cases h
    exact .inl rfl
  | component place =>
    rw [hcursor] at h
    obtain ⟨found, hfound, hrest⟩ := look_bind_eq_ok.1 h
    cases found with
    | some ref =>
      cases hrest
      exact .inl rfl
    | none =>
      by_cases himplicit : d.implicit = true
      · simp only [himplicit, if_true] at hrest
        by_cases htaken : d.components.contains d.anonymousName = true
        · simp [htaken] at hrest
        simp only [htaken, if_false, Bool.false_eq_true] at hrest
        cases hrest
        exact .inr ⟨hfound, by simpa using htaken, rfl⟩
      · simp only [himplicit, if_false, Bool.false_eq_true] at hrest
        cases hrest
        exact .inl rfl

/-- Where there is an input, appending adds the stage and no more. -/
theorem appended_of_some {input : ChannelRef} (h : d.existingInput = .ok (some input)) :
    d.appended r = d.withStage (d.nextStage r input) := by
  simp [appended, h]

/-- Where there is none, an anonymous channel is created for it first. -/
theorem appended_of_none (h : d.existingInput = .ok none) :
    d.appended r = d.extended.withStage (d.nextStage r d.anonymousRef) := by
  simp [appended, h]

/-- What stands at a component is wired by giving this component its output. -/
theorem wired_of_component (h : d.cursor = .component place) (ref : ChannelRef) :
    d.wired ref = d.connected place ref := by
  unfold wired
  rw [h]

/-- What stands at a component is extended by an anonymous channel for its output. -/
theorem extended_of_component (h : d.cursor = .component place) :
    d.extended = d.withAnonymous.connected place d.anonymousRef := by
  have hcursor : d.withAnonymous.cursor = .component place := h
  exact wired_of_component hcursor d.anonymousRef

/-- Wiring adds no stage. -/
theorem wired_length (d : FlowDefinition) (ref : ChannelRef) :
    (d.wired ref).stages.length = d.stages.length := by
  unfold wired
  split
  · unfold connected
    dsimp only
    split
    · exact List.length_modify _ _ _
    · rfl
  · rfl

/-- Wiring sets outputs, and no inputs. -/
theorem inputNames_wired (d : FlowDefinition) (ref : ChannelRef) :
    inputNames (d.wired ref).stages = inputNames d.stages := by
  unfold wired
  split
  · unfold connected inputNames
    dsimp only
    split
    · apply List.ext_getElem?
      intro index
      rw [List.getElem?_map, List.getElem?_map, List.getElem?_modify]
      cases d.stages[index]? with
      | none => rfl
      | some stage =>
        simp only [Option.map_eq_map, Option.map_some]
        split <;> rfl
    · rfl
  · rfl

/-- Wiring what the cursor is on touches no name. -/
theorem wired_components (d : FlowDefinition) (ref : ChannelRef) :
    (d.wired ref).components = d.components := by
  unfold wired
  split <;> rfl

/-- Wiring creates no anonymous channel. -/
theorem wired_anonymous (d : FlowDefinition) (ref : ChannelRef) :
    (d.wired ref).anonymous = d.anonymous := by
  unfold wired
  split <;> rfl

/-- An extension registers the anonymous channel that it creates. -/
theorem extended_components (h : d.existingInput = .ok none) :
    d.extended.components =
      d.components.push (.channel d.anonymousRef) (some d.anonymousName) := by
  obtain ⟨place, hcursor, -⟩ := existingInput_eq_none.1 h
  rw [extended, wired_components]
  rfl

/-- What a definition starts from, and nothing changes. -/
def origin (d : FlowDefinition) : String × Source × FlowConfig :=
  (d.id, d.source, d.config)

/-- Wiring leaves alone how the definition began. -/
theorem origin_wired (d : FlowDefinition) (ref : ChannelRef) : (d.wired ref).origin = d.origin := by
  unfold wired
  split <;> rfl

/-- Appending leaves alone how the definition began. -/
theorem origin_appended (d : FlowDefinition) (r : StageRequest) :
    (d.appended r).origin = d.origin := by
  unfold appended
  split
  · rfl
  · exact origin_wired d.withAnonymous d.anonymousRef

theorem extended_length (d : FlowDefinition) : d.extended.stages.length = d.stages.length :=
  wired_length d.withAnonymous d.anonymousRef

theorem inputNames_extended (d : FlowDefinition) :
    inputNames d.extended.stages = inputNames d.stages :=
  inputNames_wired d.withAnonymous d.anonymousRef

/-- A component of another name makes no difference to a channel. -/
theorem checkChannel_of_push (hd : d.components.Consistent) {d' : FlowDefinition}
    {component : FlowComponent} {name : String}
    (hpush : d'.components = d.components.push component (some name)) (hne : ref.name ≠ name) :
    d'.checkChannel ref = d.checkChannel ref := by
  unfold checkChannel
  rw [hpush, ComponentRegistry.contains_push_of_ne hne, hd.channelNamed_push_of_ne hne]

/-- An extension keeps the components consistent, if the name of its channel is free. -/
theorem consistent_extended (hd : d.components.Consistent) (h : d.existingInput = .ok none)
    (hfree : d.components.contains d.anonymousName = false) :
    d.extended.components.Consistent := by
  rw [extended_components h]
  apply ComponentRegistry.consistent_push hd
  intro n hn
  cases hn
  exact hfree

/-- The anonymous channel was registered under a name that nothing else of the stage needs. -/
theorem Admits.fits_extended (h : d.Admits id output) (hd : d.components.Consistent)
    (hinput : d.existingInput = .ok none) :
    d.components.contains d.anonymousName = false ∧ d.extended.Fits id output := by
  rcases h.input with ⟨input, hsome, -⟩ | ⟨-, hfree, hid, houtput⟩
  · rw [hinput] at hsome
    cases hsome
  have hpush := extended_components hinput
  refine ⟨hfree, ?_, h.output_ne, ?_⟩
  · rw [hpush, ComponentRegistry.contains_push_of_ne (Ne.symm hid)]
    exact h.id_free
  · intro ref href
    rw [checkChannel_of_push hd hpush (houtput ref href)]
    exact h.output_ok ref href

/-- A stage that fits keeps the components consistent. -/
theorem consistent_withStage (hd : d.components.Consistent) {stage : FlowStage}
    (h : d.Fits stage.endpoint.info.id stage.endpoint.output) :
    (d.withStage stage).components.Consistent := by
  have hpush : (d.components.push (.endpoint d.stages.length)
      (some stage.endpoint.info.id)).Consistent := by
    apply ComponentRegistry.consistent_push hd
    intro n hn
    cases hn
    exact h.id_free
  unfold withStage
  cases houtput : stage.endpoint.output with
  | none => exact hpush
  | some ref =>
    refine ComponentRegistry.consistent_withChannel hpush ?_
    rw [ComponentRegistry.contains_push_of_ne (h.output_ne ref houtput),
      hd.channelNamed_push_of_ne (h.output_ne ref houtput)]
    exact checkChannel_eq_ok.1 (h.output_ok ref houtput)

/-- A stage that is admitted keeps the components consistent. -/
theorem consistent_appended (hd : d.components.Consistent)
    (h : d.checkRequest r = .ok ()) : (d.appended r).components.Consistent := by
  have hadmits := admits_of_checkStage h
  rcases hadmits.input with ⟨input, hinput, -⟩ | ⟨hinput, -⟩
  · rw [appended_of_some hinput]
    exact consistent_withStage hd hadmits.toFits
  · obtain ⟨hfree, hfits⟩ := hadmits.fits_extended hd hinput
    rw [appended_of_none hinput]
    exact consistent_withStage (consistent_extended hd hinput hfree) hfits

/-- What is registered stays so when a stage is. -/
theorem contains_withStage {stage : FlowStage} {name : String}
    (h : d.components.contains name = true) :
    (d.withStage stage).components.contains name = true := by
  unfold withStage
  have hpush := ComponentRegistry.contains_push h (.endpoint d.stages.length)
    (some stage.endpoint.info.id)
  cases stage.endpoint.output with
  | none => exact hpush
  | some ref => exact ComponentRegistry.contains_withChannel hpush ref

/-- The ways to get to a channel. -/
inductive Joins (d : FlowDefinition) (ref : ChannelRef) : FlowDefinition → Prop where
  | nowhere : d.cursor = .empty → Joins d ref d
  | there (current : ChannelRef) : d.existingInput = .ok (some current) →
      current.name = ref.name → Joins d ref d
  | wire : d.existingInput = .ok none → Joins d ref (d.wired ref)
  | bridge (origin : ChannelRef) : d.existingInput = .ok (some origin) →
      origin.name ≠ ref.name → (d.onChannel origin).checkRequest (.bridgeTo ref) = .ok () →
      Joins d ref ((d.onChannel origin).appended (.bridgeTo ref))

/-- Every way in which the last component and a channel are joined. -/
theorem joins_of_joined {d' : FlowDefinition} (h : d.joined ref = .ok d') : d.Joins ref d' := by
  by_cases hempty : d.cursor = .empty
  · simp only [joined, hempty, Except.ok.injEq] at h
    subst h
    exact .nowhere hempty
  have hlook : (d.existingInput >>= d.joinedFrom ref) = .ok d' := by
    unfold joined at h
    cases hcursor : d.cursor with
    | empty => exact absurd hcursor hempty
    | channel _ => rw [hcursor] at h; exact h
    | component _ => rw [hcursor] at h; exact h
  obtain ⟨found, hfound, hrest⟩ := look_bind_eq_ok.1 hlook
  cases found with
  | none =>
    cases hrest
    exact .wire hfound
  | some existing =>
    rw [joinedFrom] at hrest
    split at hrest
    · next hsame =>
      cases hrest
      exact .there existing hfound (ChannelRef.beq_iff_name_eq.1 hsame)
    · next hother =>
      obtain ⟨⟨⟩, hcheck, hd'⟩ := look_bind_eq_ok.1 hrest
      cases hd'
      exact .bridge existing hfound (fun he => hother (ChannelRef.beq_iff_name_eq.2 he)) hcheck

/-- Every way to a channel is taken where it is open. -/
theorem joined_of_joins {d' : FlowDefinition} (h : d.Joins ref d') : d.joined ref = .ok d' := by
  have hfound : ∀ found, d.existingInput = .ok found → d.joined ref = d.joinedFrom ref found := by
    intro found hinput
    unfold joined
    cases hcursor : d.cursor with
    | empty => simp [existingInput, hcursor] at hinput
    | channel _ => rw [hinput, look_ok_bind]
    | component _ => rw [hinput, look_ok_bind]
  cases h with
  | nowhere hempty => rw [joined, hempty]
  | there current hinput hname =>
    rw [hfound _ hinput, joinedFrom, if_pos (ChannelRef.beq_iff_name_eq.2 hname)]
  | wire hinput => rw [hfound _ hinput, joinedFrom]
  | bridge origin hinput hother hcheck =>
    have hne : ¬ (origin == ref) = true := fun hbeq => hother (ChannelRef.beq_iff_name_eq.1 hbeq)
    rw [hfound _ hinput, joinedFrom, if_neg hne, bridged, hcheck]
    rfl

/-- The output of a stage that was appended is a channel that is known. -/
theorem exists_channelNamed_appended (ho : r.spec.output = some ref) :
    ∃ known, (d.appended r).components.channelNamed ref.name = some known := by
  have hstage : ∀ (d' : FlowDefinition) (input : ChannelRef), ∃ known,
      (d'.withStage (d.nextStage r input)).components.channelNamed ref.name = some known := by
    intro d' input
    have hout : (d.nextStage r input).endpoint.output = some ref := ho
    simp only [withStage, hout, Option.map_some, Option.getD_some]
    exact ComponentRegistry.exists_channelNamed_withChannel _ _
  unfold appended
  split <;> exact hstage _ _

/-- A channel that might be named before its joining may be named after it. -/
theorem checkChannel_joined {d' : FlowDefinition} (h : d.checkChannel ref = .ok ())
    (hjoin : d.Joins ref d') : d'.checkChannel ref = .ok () := by
  cases hjoin with
  | nowhere => exact h
  | there => exact h
  | wire =>
    rw [checkChannel_eq_ok, wired_components]
    exact checkChannel_eq_ok.1 h
  -- The bridge registered it as its output.
  | bridge => exact checkChannel_eq_ok.2 (Or.inr (exists_channelNamed_appended rfl))

/-- Joining keeps the components consistent. -/
theorem consistent_joined {d' : FlowDefinition} (hd : d.components.Consistent)
    (hjoin : d.Joins ref d') : d'.components.Consistent := by
  cases hjoin with
  | nowhere => exact hd
  | there => exact hd
  | wire =>
    rw [wired_components]
    exact hd
  | bridge origin _ _ hcheck => exact consistent_appended (d := d.onChannel origin) hd hcheck

theorem origin_joined {d' : FlowDefinition} (hjoin : d.Joins ref d') : d'.origin = d.origin := by
  cases hjoin with
  | nowhere => rfl
  | there => rfl
  | wire => exact origin_wired d ref
  | bridge origin => exact origin_appended (d.onChannel origin) (.bridgeTo ref)

/-- A flow is finished with the source and the settings that its definition started from. -/
theorem origin_of_finished {flow : Flow} (hflow : d.finished = .ok flow) :
    flow.source = d.source ∧ flow.poller = d.source.poller d.config.defaultPoller := by
  obtain ⟨input, -, hrest⟩ := look_bind_eq_ok.1 hflow
  obtain ⟨⟨output, d'⟩, hended, hrest⟩ := look_bind_eq_ok.1 hrest
  obtain ⟨_, -, hflow⟩ := look_bind_eq_ok.1 hrest
  cases hflow
  have horigin : d'.origin = d.origin := by
    rcases ended_eq_ok hended with rfl | ⟨-, -, rfl⟩
    · rfl
    · exact origin_wired d.withAnonymous d.anonymousRef
  have hsource : d'.source = d.source := congrArg (·.2.1) horigin
  have hconfig : d'.config = d.config := congrArg (·.2.2) horigin
  exact ⟨hsource, by simp [toFlow, hsource, hconfig]⟩

/-- Going on from a channel keeps the components consistent. -/
theorem consistent_continued (hd : d.components.Consistent) (h : d.checkChannel ref = .ok ()) :
    (d.continued ref).components.Consistent :=
  ComponentRegistry.consistent_withChannel hd (checkChannel_eq_ok.1 h)

end FlowDefinition

/-! ## One step after the other -/

namespace Composer

variable {d : FlowDefinition} {ref : ChannelRef} {place : Nat} {r : StageRequest}

/-- A channel that may be named is registered. -/
theorem exec_registerChannel (h : d.checkChannel ref = .ok ()) :
    (registerChannel ref).exec d = (.ok (), d.withChannel ref) := by
  unfold registerChannel FlowDefinition.withChannel ComponentRegistry.withChannel
  cases hnamed : d.components.channelNamed ref.name with
  | some known => simp [h, hnamed]
  | none =>
    have hfree : d.components.contains ref.name = false := by
      rcases FlowDefinition.checkChannel_eq_ok.1 h with hfree | ⟨known, hknown⟩
      · exact hfree
      · rw [hnamed] at hknown
        cases hknown
    simp [h, hnamed, Registering.exec_add_named hfree]

/-- An anonymous channel is created if its name is free. -/
theorem exec_anonymousChannel (h : d.components.contains d.anonymousName = false) :
    anonymousChannel.exec d = (.ok d.anonymousRef, d.withAnonymous) := by
  unfold anonymousChannel
  simp [Registering.exec_add_named h]
  rfl

/-- An anonymous channel is refused if its name is taken, and nothing changes. -/
theorem exec_anonymousChannel_taken (h : d.components.contains d.anonymousName = true) :
    anonymousChannel.exec d = (.error (.duplicateName d.anonymousName), d) := by
  unfold anonymousChannel
  simp [Registering.exec_add_taken h]

/-- An output that is open is given its channel. -/
theorem exec_connect (h : d.outputOf place = .ok none) (ref : ChannelRef) :
    (connect place ref).exec d = (.ok (), d.connected place ref) := by
  unfold connect FlowDefinition.connected
  rcases FlowDefinition.outputOf_eq_none.1 h with ⟨index, hget, -⟩ | ⟨text, hget, hplace, -⟩
  · simp [hget]
  · subst hplace
    simp [hget]

/-- Where there is an input it is the one. -/
theorem exec_resolveInput_some {input : ChannelRef} (h : d.existingInput = .ok (some input)) :
    resolveInput.exec d = (.ok input, d) := by
  simp [resolveInput, h]

/-- Where there is none it is a new anonymous channel. -/
theorem exec_resolveInput_none (h : d.existingInput = .ok none)
    (hfree : d.components.contains d.anonymousName = false) :
    resolveInput.exec d = (.ok d.anonymousRef, d.extended) := by
  obtain ⟨place, hcursor, hout⟩ := FlowDefinition.existingInput_eq_none.1 h
  have hcursor' : d.withAnonymous.cursor = .component place := hcursor
  simp [resolveInput, h, exec_anonymousChannel hfree, hcursor',
    FlowDefinition.extended_of_component hcursor,
    exec_connect (FlowDefinition.outputOf_withAnonymous hout)]

/-- A stage whose id is free, and its output unless a channel bears its name, are registered
without a refusal: the two names differ, so neither comes in the way of the other. -/
theorem exec_addStage (hd : d.components.Consistent) (stage : FlowStage)
    (h : d.Fits stage.endpoint.info.id stage.endpoint.output) :
    Change.exec (do
        let place ← registering (.add (.endpoint d.stages.length) (some stage.endpoint.info.id))
        addStage place stage) d = (.ok (), d.withStage stage) := by
  simp only [Change.exec_bind, exec_registering, Registering.exec_add_named h.id_free]
  unfold addStage FlowDefinition.withStage
  cases houtput : stage.endpoint.output with
  | none => simp [FlowDefinition.logged]
  | some ref =>
    -- The id is registered by now, so what was found out about the output is carried over to that.
    have hne := h.output_ne ref houtput
    have hcheck := h.output_ok ref houtput
    have hregister : ∀ d' : FlowDefinition, d'.components = d.components.push
        (.endpoint d.stages.length) (some stage.endpoint.info.id) →
        (registerChannel ref).exec d' = (.ok (), d'.withChannel ref) := fun d' hpush =>
      exec_registerChannel (by rw [FlowDefinition.checkChannel_of_push hd hpush hne, hcheck])
    simp [FlowDefinition.logged, hregister, FlowDefinition.withChannel]

/-- A stage is appended if all that is asked of it is in order, and otherwise nothing changes. -/
theorem exec_append (hd : d.components.Consistent) (r : StageRequest) :
    (append r.kind r.type r.handler r.spec).exec d =
      match d.checkRequest r with
      | .error failure => (.error failure, d)
      | .ok () => (.ok (), d.appended r) := by
  have hlook : (d.checkStage (r.spec.id.getD (d.generatedId r.kind)) r.spec.output) =
      d.checkRequest r := rfl
  unfold append
  simp only [Change.exec_bind, Change.exec_get, Change.exec_ask, hlook]
  cases hcheck : d.checkRequest r with
  | error failure => rfl
  | ok =>
    have hadmits := FlowDefinition.admits_of_checkStage hcheck
    dsimp only
    -- Either the stage finds its input, or an anonymous channel is made for it ahead of the stage.
    rcases hadmits.input with ⟨input, hinput, -⟩ | ⟨hinput, -⟩
    · have hstage := exec_addStage hd (d.nextStage r input) hadmits.toFits
      rw [Change.exec_bind] at hstage
      rw [exec_resolveInput_some hinput, FlowDefinition.appended_of_some hinput]
      exact hstage
    · obtain ⟨hfree, hfits⟩ := hadmits.fits_extended hd hinput
      have hd' := FlowDefinition.consistent_extended hd hinput hfree
      have hstage := exec_addStage hd' (d.nextStage r d.anonymousRef) hfits
      rw [Change.exec_bind, FlowDefinition.extended_length d] at hstage
      rw [exec_resolveInput_none hinput hfree, FlowDefinition.appended_of_none hinput]
      exact hstage

/-- A bridge from one channel into another, or a refusal that changes nothing. -/
theorem exec_bridgeInto (hd : d.components.Consistent) (origin goal : ChannelRef) :
    (bridgeInto origin goal).exec d =
      match d.bridged origin goal with
      | .error failure => (.error failure, d)
      | .ok d' => (.ok (), d') := by
  have hd' : (d.onChannel origin).components.Consistent := hd
  have happend : Change.exec (append .bridge .payload Handler.bridge
        { EndpointSpec.standard with output := some goal }) (d.onChannel origin) =
      match (d.onChannel origin).checkRequest (.bridgeTo goal) with
      | .error failure => (.error failure, d.onChannel origin)
      | .ok () => (.ok (), (d.onChannel origin).appended (.bridgeTo goal)) :=
    exec_append hd' (.bridgeTo goal)
  unfold bridgeInto FlowDefinition.bridged
  simp only [Change.exec_bind, Change.exec_get, Change.exec_set, Change.exec_attempt, happend]
  cases (d.onChannel origin).checkRequest (.bridgeTo goal) with
  | error failure => rfl
  | ok _ => rfl

/-- The last component is joined to a channel, or there is a refusal that changes nothing. -/
theorem exec_join (hd : d.components.Consistent) (ref : ChannelRef) :
    (join ref).exec d =
      match d.joined ref with
      | .error failure => (.error failure, d)
      | .ok d' => (.ok (), d') := by
  unfold join FlowDefinition.joined FlowDefinition.existingInput FlowDefinition.joinedFrom
  cases hcursor : d.cursor with
  | empty => simp [hcursor]
  | channel current =>
    by_cases hsame : (current == ref) = true
    · simp [hcursor, hsame]
    · simp [hcursor, hsame, exec_bridgeInto hd]
  | component place =>
    cases hout : d.outputOf place with
    | error failure => simp [hcursor, hout]
    | ok found =>
      cases found with
      | none =>
        simp [hcursor, hout, exec_connect hout, FlowDefinition.wired_of_component hcursor]
      | some existing =>
        by_cases hsame : (existing == ref) = true
        · simp [hcursor, hout, hsame]
        · simp [hcursor, hout, hsame, exec_bridgeInto hd]

/-- The channel that was gone to is registered at the end without a refusal: it is there after a
bridge to it, and otherwise nothing was registered since the look at its name. -/
theorem exec_channel (hd : d.components.Consistent) (ref : ChannelRef) :
    (channel ref).exec d =
      match d.checkChannel ref >>= fun _ => d.joined ref with
      | .error failure => (.error failure, d)
      | .ok d' => (.ok (), d'.continued ref) := by
  unfold channel
  cases hcheck : d.checkChannel ref with
  | error failure => simp [hcheck]
  | ok _ =>
    cases hjoined : d.joined ref with
    | error failure => simp [hcheck, exec_join hd, hjoined]
    | ok d' =>
      have hcheck' : d'.checkChannel ref = .ok () :=
        FlowDefinition.checkChannel_joined hcheck (FlowDefinition.joins_of_joined hjoined)
      simp [hcheck, exec_join hd, hjoined, exec_registerChannel hcheck', FlowDefinition.continued]

/-- The end of a flow is as it looks, or refused, and then nothing changes. -/
theorem exec_ending (d : FlowDefinition) :
    ending.exec d =
      match d.ended with
      | .error failure => (.error failure, d)
      | .ok (output, d') => (.ok output, d') := by
  unfold ending FlowDefinition.ended
  simp only [Change.exec_bind, Change.exec_get]
  cases hcursor : d.cursor with
  | channel ref => rfl
  | empty => rfl
  | component place =>
    simp only [Change.exec_bind, Change.exec_ask]
    cases hout : d.outputOf place with
    | error failure => rfl
    | ok found =>
      cases found with
      | some ref => rfl
      | none =>
        by_cases himplicit : d.implicit = true
        · by_cases htaken : d.components.contains d.anonymousName = true
          · simp [himplicit, htaken, exec_anonymousChannel_taken htaken]
          · rw [Bool.not_eq_true] at htaken
            simp [himplicit, htaken, exec_anonymousChannel htaken,
              FlowDefinition.extended_of_component hcursor,
              exec_connect (FlowDefinition.outputOf_withAnonymous hout)]
        · simp [himplicit]

/-- What finishing comes to is read off the definition. -/
theorem result_finish (d : FlowDefinition) : (finish.exec d).1 = d.finished := by
  unfold finish FlowDefinition.finished
  simp only [Change.exec_bind, Change.exec_ask]
  cases d.entrance with
  | error failure => rfl
  | ok input =>
    have hending := exec_ending d
    cases hended : d.ended with
    | error failure =>
      rw [hended] at hending
      simp [hending]
    | ok ended =>
      obtain ⟨output, d'⟩ := ended
      rw [hended] at hending
      simp only [hending, look_ok_bind, Change.exec_get]
      cases d'.checkInputs <;> rfl

end Composer

end MessageFlow
