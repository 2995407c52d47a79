import MessageFlow.Proofs.Composer.Outputs
import MessageFlow.Proofs.Composer.Soundness
import MessageFlow.Proofs.Sample

/-!
# Anonymous channels join nothing

An anonymous channel connects one component to one stage, so no other part of the flow may go by its
name. Before it is created its name is looked up among those that are registered. So the question is
which channels of a definition are registered under their name.

`Accounted` answers it: all of them, except those whose name a call let slip. `Call.Slips` names the
calls that can, a cursor that is set to a channel by hand and a channel that is registered by hand
under another name. The proof is about what makes a definition, one step at a time; every step takes
its channel from the cursor or a component, where it is accounted for, or registers it.
-/

namespace MessageFlow

/-- Whether an entry of a registry is a channel that goes by a name and does not bear it. -/
def Misnamed (name : String) (entry : FlowComponent × Option String) : Prop :=
  ∃ ref, entry.1 = .channel ref ∧ ref.name = name ∧ entry.2 ≠ some name

namespace ComponentRegistry

variable {r : ComponentRegistry} {ref : ChannelRef} {component : FlowComponent} {place : Nat}

/-- A component that is added takes its name. -/
theorem contains_push_self (r : ComponentRegistry) (component : FlowComponent) (name : String) :
    (r.push component (some name)).contains name = true := by
  rw [contains, find_push_self]
  rfl

/-- A channel that is named takes its name. -/
theorem contains_withChannel_self (r : ComponentRegistry) (ref : ChannelRef) :
    (r.withChannel ref).contains ref.name = true := by
  obtain ⟨known, hknown⟩ := exists_channelNamed_withChannel r ref
  exact contains_of_channelNamed hknown

/-- A batch takes all of its names. -/
theorem contains_pushAll_of_mem {batch : List (FlowComponent × Option String)} {name : String}
    (h : (component, some name) ∈ batch) : (r.pushAll batch).contains name = true := by
  induction batch generalizing r with
  | nil => cases h
  | cons entry batch ih =>
    show ((r.push entry.1 entry.2).pushAll batch).contains name = true
    rcases List.mem_cons.1 h with rfl | hrest
    · exact contains_pushAll (contains_push_self r component name) batch
    · exact ih hrest

/-- Naming a channel enters nothing but this channel. -/
theorem mem_entries_withChannel {entry : FlowComponent × Option String}
    (h : entry ∈ (r.withChannel ref).entries) :
    entry ∈ r.entries ∨ entry = (.channel ref, some ref.name) := by
  unfold withChannel at h
  split at h
  · simpa [push] using h
  · exact .inl h

/-- A component that is there is entered, under some name or none. -/
theorem mem_entries_of_get (h : r.get place = some component) :
    ∃ name, (component, name) ∈ r.entries := by
  obtain ⟨⟨c, name⟩, hentry, rfl⟩ := Option.map_eq_some_iff.1 h
  exact ⟨name, List.mem_of_getElem? hentry⟩

end ComponentRegistry

section

variable [PayloadTypes]

/-- Whether a call can bring a channel of a name into a flow without registering the name. -/
def Call.Slips (name : String) : Call → Prop
  | setChannel (some ref) => ref.name = name
  | addComponent component given => Misnamed name (component, given)
  | addComponents batch => ∃ entry ∈ batch, Misnamed name entry
  | _ => False

namespace FlowDefinition

variable {d d' : FlowDefinition} {ref : ChannelRef} {r : StageRequest} {slipped : String → Prop}

/-- The channels of a definition, each registered under its name unless that has slipped. -/
structure Accounted (d : FlowDefinition) (slipped : String → Prop) : Prop where
  source : ∀ ref, d.source.channelRef = some ref → d.components.contains ref.name = true
  outputs : ∀ site ref, d.outputAt site = some ref → d.components.contains ref.name = true
  components : ∀ entry ∈ d.components.entries, ∀ ref, entry.1 = .channel ref →
    d.components.contains ref.name = true ∨ slipped ref.name
  cursor : ∀ ref, d.cursor = .channel ref →
    d.components.contains ref.name = true ∨ slipped ref.name
  inputs : ∀ name ∈ inputNames d.stages, d.components.contains name = true ∨ slipped name

/-- What accounts for few names that slipped accounts for more. -/
theorem Accounted.mono (h : d.Accounted slipped) {slipped' : String → Prop}
    (hslipped : ∀ name, slipped name → slipped' name) : d.Accounted slipped' :=
  ⟨h.source, h.outputs,
    fun entry hentry ref href => (h.components entry hentry ref href).imp_right (hslipped _),
    fun ref href => (h.cursor ref href).imp_right (hslipped _),
    fun name hname => (h.inputs name hname).imp_right (hslipped _)⟩

/-- The cursor can be set to whatever is accounted for. -/
theorem Accounted.moved (h : d.Accounted slipped) {cursor : Cursor} (implicit : Bool)
    (hcursor : ∀ ref, cursor = .channel ref →
      d.components.contains ref.name = true ∨ slipped ref.name) :
    Accounted { d with cursor, implicit } slipped :=
  ⟨h.source, h.outputs, h.components, hcursor, h.inputs⟩

/-- A component sends to itself if it is a channel, and otherwise to where its output is set. -/
theorem outputOf_eq_some {place : Nat} (h : d.outputOf place = .ok (some ref)) :
    d.components.get place = some (.channel ref) ∨ ∃ site, d.outputAt site = some ref := by
  unfold outputOf at h
  cases hget : d.components.get place with
  | none => simp [hget] at h
  | some component =>
    rw [hget] at h
    cases component with
    | channel current =>
      cases h
      exact .inl rfl
    | endpoint index => exact .inr ⟨.stage index, Except.ok.inj h⟩
    | source text =>
      dsimp only at h
      split at h
      · exact .inr ⟨.source, Except.ok.inj h⟩
      · cases h
    | bean => cases h

/-- What the next stage would consume is accounted for. -/
theorem Accounted.existingInput (h : d.Accounted slipped)
    (hinput : d.existingInput = .ok (some ref)) :
    d.components.contains ref.name = true ∨ slipped ref.name := by
  unfold FlowDefinition.existingInput at hinput
  cases hcursor : d.cursor with
  | empty => simp [hcursor] at hinput
  | channel current =>
    obtain rfl : current = ref := by simpa [hcursor] using hinput
    exact h.cursor current hcursor
  | component place =>
    have hout : d.outputOf place = .ok (some ref) := by simpa [hcursor] using hinput
    rcases outputOf_eq_some hout with hget | ⟨site, hset⟩
    · obtain ⟨name, hentry⟩ := ComponentRegistry.mem_entries_of_get hget
      exact h.components _ hentry ref rfl
    · exact .inl (h.outputs site ref hset)

/-! ## Steps -/

/-- Components can be registered if the channels among them are accounted for. -/
theorem Accounted.registered (h : d.Accounted slipped) {components : ComponentRegistry}
    (hkept : ∀ name, d.components.contains name = true → components.contains name = true)
    (hentries : ∀ entry ∈ components.entries, entry ∈ d.components.entries ∨
      ∀ ref, entry.1 = .channel ref → components.contains ref.name = true ∨ slipped ref.name) :
    Accounted { d with components } slipped := by
  refine ⟨fun ref href => hkept _ (h.source ref href),
    fun site ref href => hkept _ (h.outputs site ref href), ?_,
    fun ref href => (h.cursor ref href).imp_left (hkept _),
    fun name hname => (h.inputs name hname).imp_left (hkept _)⟩
  intro entry hentry ref href
  rcases hentries entry hentry with hold | hnew
  · exact (h.components entry hold ref href).imp_left (hkept _)
  · exact hnew ref href

/-- A component that is added is accounted for, if a channel comes with its name. -/
theorem Accounted.pushed (h : d.Accounted slipped) (component : FlowComponent)
    (name : Option String)
    (hchannel : ∀ ref, component = .channel ref → name = some ref.name ∨ slipped ref.name) :
    Accounted { d with components := d.components.push component name } slipped := by
  refine h.registered (fun _ hname => ComponentRegistry.contains_push hname _ _) ?_
  intro entry hentry
  rcases List.mem_append.1 hentry with hold | hnew
  · exact .inl hold
  · obtain rfl := List.mem_singleton.1 hnew
    refine .inr fun ref href => (hchannel ref href).imp_left fun hname => ?_
    rw [hname]
    exact ComponentRegistry.contains_push_self _ _ _

/-- Naming a channel accounts for it. -/
theorem Accounted.withChannel (h : d.Accounted slipped) (ref : ChannelRef) :
    (d.withChannel ref).Accounted slipped := by
  refine h.registered (fun _ hname => ComponentRegistry.contains_withChannel hname ref) ?_
  intro entry hentry
  rcases ComponentRegistry.mem_entries_withChannel hentry with hold | rfl
  · exact .inl hold
  · refine .inr fun ref' href => .inl ?_
    cases href
    exact ComponentRegistry.contains_withChannel_self d.components ref

/-- Wiring sets an output to a channel, and no other. -/
theorem outputAt_wired {site : Site} {output : ChannelRef}
    (h : (d.wired ref).outputAt site = some output) :
    d.outputAt site = some output ∨ output = ref := by
  cases site with
  | stage index =>
    obtain ⟨stage, hstage, hout⟩ := Option.bind_eq_some_iff.1 h
    obtain ⟨old, hold, -, hsame | hset⟩ := stage_wired hstage
    · exact .inl (Option.bind_eq_some_iff.2 ⟨old, hold, hsame ▸ hout⟩)
    · rw [hset] at hout
      exact .inr (Option.some.inj hout).symm
  | source =>
    have hsource : (d.wired ref).sourceOutput = d.sourceOutput ∨
        (d.wired ref).sourceOutput = some ref := by
      unfold wired
      split
      · unfold connected
        dsimp only
        split
        · exact .inr rfl
        · exact .inl rfl
      · exact .inl rfl
    rcases hsource with hsame | hset
    · exact .inl (hsame.symm.trans h)
    · exact .inr (Option.some.inj (hset.symm.trans h)).symm

/-- An output can be wired to a channel that is registered, or is so at once. -/
theorem Accounted.wired {components : ComponentRegistry}
    (h : Accounted { d with components } slipped) (hknown : components.contains ref.name = true) :
    Accounted { d.wired ref with components } slipped := by
  have hcursor : (d.wired ref).cursor = d.cursor := by
    unfold FlowDefinition.wired
    split <;> rfl
  have hsource : (d.wired ref).source = d.source := congrArg (·.2.1) (origin_wired d ref)
  refine ⟨?_, ?_, h.components, ?_, ?_⟩
  · intro ref' href
    exact h.source ref' (hsource ▸ href)
  · intro site output houtput
    rcases outputAt_wired houtput with hold | rfl
    · exact h.outputs site output hold
    · exact hknown
  · intro ref' href
    exact h.cursor ref' (hcursor.symm.trans href)
  · intro name hname
    exact h.inputs name (inputNames_wired d ref ▸ hname)

/-- An extension accounts for its anonymous channel. -/
theorem Accounted.extended (h : d.Accounted slipped) (hinput : d.existingInput = .ok none) :
    d.extended.Accounted slipped := by
  have hpushed := h.pushed (.channel d.anonymousRef) (some d.anonymousName) fun ref href => by
    cases href
    exact .inl rfl
  have hwired : Accounted { d.extended with
      components := d.components.push (.channel d.anonymousRef) (some d.anonymousName) } slipped :=
    Accounted.wired (d := d.withAnonymous)
      ⟨hpushed.source, hpushed.outputs, hpushed.components, hpushed.cursor, hpushed.inputs⟩
      (ComponentRegistry.contains_push_self _ _ _)
  rw [← extended_components hinput] at hwired
  exact hwired

/-- What is put out where a stage was added was put out before, or is put out by the stage. -/
theorem outputAt_withStage {stage : FlowStage} {site : Site} {ref : ChannelRef}
    (h : (d.withStage stage).outputAt site = some ref) :
    (∃ site', d.outputAt site' = some ref) ∨ stage.endpoint.output = some ref := by
  cases site with
  | source => exact .inl ⟨.source, h⟩
  | stage index =>
    obtain ⟨stage', hstage, hout⟩ := Option.bind_eq_some_iff.1 h
    have hstages : (d.withStage stage).stages = d.stages ++ [stage] := rfl
    rcases List.mem_append.1 (hstages ▸ List.mem_of_getElem? hstage) with hold | hnew
    · obtain ⟨index', hindex⟩ := List.mem_iff_getElem?.1 hold
      exact .inl ⟨.stage index', Option.bind_eq_some_iff.2 ⟨stage', hindex, hout⟩⟩
    · obtain rfl := List.mem_singleton.1 hnew
      exact .inr hout

/-- A stage can be added on a channel that is accounted for. -/
theorem Accounted.withStage (h : d.Accounted slipped) {stage : FlowStage}
    (hinput : d.components.contains stage.input.name = true ∨ slipped stage.input.name) :
    (d.withStage stage).Accounted slipped := by
  have hkept : ∀ name, d.components.contains name = true →
      (d.withStage stage).components.contains name = true := fun name => contains_withStage
  have hpushed := h.pushed (.endpoint d.stages.length) (some stage.endpoint.info.id) nofun
  -- The output is registered behind the stage, if it has one.
  have hregistered : Accounted { d with components := (d.withStage stage).components } slipped ∧
      ∀ ref, stage.endpoint.output = some ref →
        (d.withStage stage).components.contains ref.name = true := by
    unfold FlowDefinition.withStage
    cases hout : stage.endpoint.output with
    | none => exact ⟨hpushed, nofun⟩
    | some ref =>
      refine ⟨hpushed.withChannel ref, ?_⟩
      intro ref' href
      cases href
      exact ComponentRegistry.contains_withChannel_self _ ref
  obtain ⟨hcomponents, houtput⟩ := hregistered
  refine ⟨hcomponents.source, ?_, hcomponents.components, ?_, ?_⟩
  · intro site ref href
    rcases outputAt_withStage href with ⟨site', hold⟩ | hnew
    · exact hcomponents.outputs site' ref hold
    · exact houtput ref hnew
  · intro ref hcursor
    -- Behind a stage the cursor is on its output.
    refine .inl (houtput ref ?_)
    have hbehind : (d.withStage stage).cursor =
        (stage.endpoint.output.map Cursor.channel).getD (.component d.components.size) := rfl
    rw [hbehind] at hcursor
    cases hout : stage.endpoint.output with
    | none => simp [hout] at hcursor
    | some current => simpa [hout] using hcursor
  · have hnames : inputNames (d.withStage stage).stages =
        inputNames d.stages ++ [stage.input.name] := by simp [FlowDefinition.withStage, inputNames]
    rw [hnames]
    intro name hname
    rcases List.mem_append.1 hname with hold | hnew
    · exact (h.inputs name hold).imp_left (hkept name)
    · obtain rfl := List.mem_singleton.1 hnew
      exact hinput.imp_left (hkept _)

/-- A stage that is appended accounts for its output. -/
theorem Accounted.appended (h : d.Accounted slipped) (hcheck : d.checkRequest r = .ok ()) :
    (d.appended r).Accounted slipped := by
  rcases (admits_of_checkStage hcheck).input with ⟨input, hinput, -⟩ | ⟨hinput, -⟩
  · rw [appended_of_some hinput]
    exact h.withStage (h.existingInput hinput)
  · rw [appended_of_none hinput]
    refine (h.extended hinput).withStage (.inl ?_)
    rw [extended_components hinput]
    exact ComponentRegistry.contains_push_self _ _ _

/-- Going on from a channel accounts for it. -/
theorem Accounted.continued (h : d.Accounted slipped) (hjoin : d.Joins ref d') :
    (d'.continued ref).Accounted slipped := by
  -- Once the channel is registered the cursor goes there.
  suffices hregistered : (d'.withChannel ref).Accounted slipped by
    refine hregistered.moved false fun ref' href => .inl ?_
    cases href
    exact ComponentRegistry.contains_withChannel_self d'.components ref
  cases hjoin with
  | nowhere => exact h.withChannel ref
  | there => exact h.withChannel ref
  | wire =>
    -- The output is set first and registered then.
    have hwired :
        Accounted { d.wired ref with components := d.components.withChannel ref } slipped :=
      (h.withChannel ref).wired (ComponentRegistry.contains_withChannel_self d.components ref)
    rw [← wired_components d ref] at hwired
    exact hwired
  | bridge origin hinput _ hcheck =>
    have hmoved : (d.onChannel origin).Accounted slipped := by
      refine h.moved d.implicit fun ref' href => ?_
      cases href
      exact h.existingInput hinput
    exact (hmoved.appended hcheck).withChannel ref

/-- A cursor that is set by hand to a channel goes by its name. -/
theorem cursor_of_raw {c : Call} (hraw : c.isRaw = true) (h : (c.after d).cursor = .channel ref) :
    d.cursor = .channel ref ∨ c.Slips ref.name := by
  unfold Call.after at h
  cases c with
  | setChannel target =>
    rw [Call.exec_setChannel] at h
    cases target with
    | some current =>
      cases h
      exact .inr rfl
    | none =>
      refine .inl ?_
      cases hcursor : d.cursor <;> simp [hcursor] at h
  | setComponent place =>
    refine .inl ?_
    rw [Call.exec_setComponent] at h
    cases place with
    | some place =>
      dsimp only at h
      split at h
      · exact h
      · cases h
    | none =>
      cases hcursor : d.cursor <;> simp [hcursor] at h ⊢
      exact h
  | setImplicit implicit => exact .inl h
  | _ => cases hraw

/-- What a call does not account for is a name that it lets slip. -/
theorem accounted_step {c : Call} {result : Except Failure (List Nat)} (h : d.Accounted slipped)
    (hstep : Step d c result d') (hafter : d' = c.after d)
    (hslips : ∀ name, c.Slips name → slipped name) : d'.Accounted slipped := by
  cases hstep with
  | refused => exact ⟨h.source, h.outputs, h.components, h.cursor, h.inputs⟩
  | appended f r hadmitted =>
    obtain ⟨-, -, hcheck⟩ := Factory.admitted_eq_ok.1 hadmitted
    have hlearned : (d.learning f.learns).Accounted slipped :=
      ⟨h.source, h.outputs, h.components, h.cursor, h.inputs⟩
    exact hlearned.appended hcheck
  | continued ref d' _ hjoin => exact h.continued hjoin
  | added component name =>
    refine h.pushed component name fun ref href => ?_
    by_cases hname : name = some ref.name
    · exact .inl hname
    · exact .inr (hslips _ ⟨ref, href, rfl, hname⟩)
  | addedAll batch =>
    refine h.registered (fun _ hname => ComponentRegistry.contains_pushAll hname batch) ?_
    intro entry hentry
    rw [ComponentRegistry.entries_pushAll] at hentry
    rcases List.mem_append.1 hentry with hold | hnew
    · exact .inl hold
    refine .inr fun ref href => ?_
    by_cases hname : entry.2 = some ref.name
    · have hmem : (FlowComponent.channel ref, some ref.name) ∈ batch := by
        rw [← href, ← hname]
        exact hnew
      exact .inl (ComponentRegistry.contains_pushAll_of_mem hmem)
    · exact .inr (hslips _ ⟨entry, hnew, ref, href, rfl, hname⟩)
  | learned => exact ⟨h.source, h.outputs, h.components, h.cursor, h.inputs⟩
  | moved c cursor hraw =>
    refine h.moved d.implicit fun ref href => ?_
    rcases cursor_of_raw hraw ((congrArg FlowDefinition.cursor hafter).symm.trans href) with
      hold | hset
    · exact h.cursor ref hold
    · exact .inr (hslips _ hset)
  | flagged implicit => exact h.moved implicit h.cursor

/-- At first nothing has slipped. -/
theorem accounted_start (id : String) (source : Source) (config : FlowConfig) :
    (start id source config).Accounted slipped := by
  have houtput : ∀ site, (start id source config).outputAt site = none := by
    intro site
    cases site <;> rfl
  -- A channel as the source is registered at once, and is the cursor.
  have hnamed : ∀ ref, source.channelRef = some ref →
      (start id source config).components.contains ref.name = true := by
    intro ref href
    unfold start
    rw [href]
    exact ComponentRegistry.contains_push_self _ _ _
  refine ⟨hnamed, by simp [houtput], ?_, ?_, by simp [start, inputNames]⟩
  · intro entry hentry ref href
    refine .inl (hnamed ref ?_)
    cases hsource : source.channelRef <;>
      simp [start, hsource, ComponentRegistry.push, ComponentRegistry.empty] at hentry <;>
      subst hentry <;> cases href
    rfl
  · intro ref href
    refine .inl (hnamed ref ?_)
    cases hsource : source.channelRef with
    | none => simp [start, hsource] at href
    | some current => simpa [start, hsource] using href

/-- Whatever is not registered under its name was let slip by one of the calls. -/
theorem accounted_afterAll (hd : d.components.Consistent) (h : d.Accounted slipped)
    (cs : List Call) :
    (d.afterAll cs).Accounted fun name => slipped name ∨ ∃ c ∈ cs, c.Slips name := by
  induction cs generalizing d slipped with
  | nil => exact h.mono fun _ => .inl
  | cons c cs ih =>
    have hstep := c.step_of_call hd
    have hafter : (c.after d).Accounted fun name => slipped name ∨ c.Slips name :=
      accounted_step (h.mono fun _ => .inl) hstep rfl fun _ => .inr
    refine (ih (consistent_step hstep hd) hafter).mono ?_
    rintro name ((hslipped | hslips) | ⟨c', hc', hslips⟩)
    · exact .inl hslipped
    · exact .inr ⟨c, List.mem_cons_self, hslips⟩
    · exact .inr ⟨c', List.mem_cons_of_mem c hc', hslips⟩

/-! ## Creation -/

/-- What is left by something that created an anonymous channel: the one of the next number, under a
name that nothing bore. -/
structure Created (d d' : FlowDefinition) : Prop where
  counted : d'.anonymous = d.anonymous + 1
  free : d.components.contains d.anonymousName = false
  known : d'.components.channelNamed d.anonymousName = some d.anonymousRef

/-- What a sound definition counted as anonymous was created, under a free name. -/
theorem created_of_sound (h : d'.Sound) (hid : d'.id = d.id)
    (hcounted : d'.anonymous = d.anonymous + 1)
    (hfree : d.components.contains d.anonymousName = false) : d.Created d' := by
  have hname : d'.anonymousAt d.anonymous = d.anonymousName := by
    rw [anonymousAt, hid]
    rfl
  have hknown := h.anonymous d.anonymous (by omega)
  rw [hname] at hknown
  exact ⟨hcounted, hfree, ComponentRegistry.channelNamed_eq_some.2 hknown⟩

theorem extended_counts (d : FlowDefinition) : d.extended.anonymous = d.anonymous + 1 :=
  wired_anonymous d.withAnonymous d.anonymousRef

/-- A call creates one anonymous channel at most. -/
theorem created_by_step {c : Call} {result : Except Failure (List Nat)} (h : Step d c result d')
    (hd : d.Sound) (hchanged : d'.anonymous ≠ d.anonymous) : d.Created d' := by
  have hid : d'.id = d.id := congrArg (·.1) (origin_step h)
  have hsound := sound_step h hd
  cases h with
  | appended f r hadmitted =>
    obtain ⟨-, -, hcheck⟩ := Factory.admitted_eq_ok.1 hadmitted
    rcases (admits_of_checkStage hcheck).input with ⟨input, hinput, -⟩ | ⟨hinput, hfree, -⟩
    · rw [appended_of_some hinput] at hchanged
      exact absurd rfl hchanged
    · refine created_of_sound hsound hid ?_ hfree
      rw [appended_of_none hinput]
      exact extended_counts (d.learning f.learns)
  | continued ref d' _ hjoin =>
    -- A channel is reached by wiring, or by a bridge that finds its input.
    refine absurd ?_ hchanged
    show d'.anonymous = d.anonymous
    cases hjoin with
    | nowhere => rfl
    | there => rfl
    | wire => exact wired_anonymous d ref
    | bridge origin =>
      have hinput : (d.onChannel origin).existingInput = .ok (some origin) := rfl
      rw [appended_of_some hinput]
      rfl
  | _ => exact absurd rfl hchanged

/-- Finishing leaves the definition, or the one with its end, up to what was logged. -/
theorem left_by_finish (d : FlowDefinition) : ∃ d' events,
    (d' = d ∨ ∃ output, d.ended = .ok (output, d')) ∧
      (Composer.finish.exec d).2 = { d' with events } := by
  unfold Composer.finish
  simp only [Change.exec_bind, Change.exec_ask]
  cases d.entrance with
  | error failure => exact ⟨d, _, .inl rfl, rfl⟩
  | ok input =>
    simp only [Composer.exec_ending]
    cases hended : d.ended with
    | error failure => exact ⟨d, _, .inl rfl, rfl⟩
    | ok ended =>
      simp only [Change.exec_get, Change.exec_set]
      cases ended.2.checkInputs <;> exact ⟨ended.2, _, .inr ⟨ended.1, rfl⟩, rfl⟩

/-- So it is with the channel that finishing creates. -/
theorem created_by_finish (hd : d.Sound)
    (hchanged : (Composer.finish.exec d).2.anonymous ≠ d.anonymous) :
    d.Created (Composer.finish.exec d).2 := by
  obtain ⟨d', events, hcases, hleft⟩ := left_by_finish d
  rw [hleft] at hchanged ⊢
  rcases hcases with rfl | ⟨output, hended⟩
  · exact absurd rfl hchanged
  rcases ended_eq_ok hended with rfl | ⟨-, hfree, rfl⟩
  · exact absurd rfl hchanged
  · have hsound := sound_extended hd hfree
    have hid : d.extended.id = d.id := congrArg (·.1) (origin_wired d.withAnonymous d.anonymousRef)
    have hcreated := created_of_sound hsound hid (extended_counts d) hfree
    exact ⟨hcreated.counted, hcreated.free, hcreated.known⟩

end FlowDefinition

/-- Whatever is called on a definition, and also when it is finished, an anonymous channel is
created one at a time, and under a name that nothing bears. Neither the source nor the output of a
stage goes by that name, so nothing sends to the channel but the component at the cursor. A stage
may consume it, but only if one of the calls before let the name slip: it set the cursor to a
channel of that name, or registered one under another name. -/
theorem anonymous_apart (id : String) (source : Source) (config : FlowConfig) (cs : List Call)
    (d' : FlowDefinition) :
    let d := (FlowDefinition.start id source config).afterAll cs
    ((∃ c : Call, d' = c.after d) ∨ d' = (Composer.finish.exec d).2) →
      d'.anonymous ≠ d.anonymous →
        d.Created d' ∧
          (∀ ref, source.channelRef = some ref → ref.name ≠ d.anonymousName) ∧
          (∀ site ref, d.outputAt site = some ref → ref.name ≠ d.anonymousName) ∧
          ∀ stage ∈ d.stages, stage.input.name = d.anonymousName →
            ∃ c ∈ cs, c.Slips d.anonymousName := by
  intro d hafter hchanged
  have hstart := FlowDefinition.sound_start id source config
  have hd : d.Sound :=
    FlowDefinition.sound_of_reachable (reachable_afterAll (.start id source config) cs)
  have hcreated : d.Created d' := by
    rcases hafter with ⟨c, rfl⟩ | rfl
    · exact FlowDefinition.created_by_step (c.step_of_call hd.names) hd hchanged
    · exact FlowDefinition.created_by_finish hd hchanged
  have hnone : (FlowDefinition.start id source config).Accounted fun _ => False :=
    FlowDefinition.accounted_start id source config
  have haccounted := FlowDefinition.accounted_afterAll hstart.names hnone cs
  have hsource : d.source = source := congrArg (·.2.1) (origin_afterAll hstart.names cs)
  -- A name that is registered is not the one that was free.
  have hne : ∀ name, d.components.contains name = true → name ≠ d.anonymousName := by
    intro name hname he
    rw [he, hcreated.free] at hname
    cases hname
  refine ⟨hcreated, ?_, ?_, ?_⟩
  · intro ref href
    exact hne _ (haccounted.source ref (hsource.symm ▸ href))
  · intro site ref href
    exact hne _ (haccounted.outputs site ref href)
  · intro stage hstage hname
    rcases haccounted.inputs stage.input.name (List.mem_map_of_mem hstage) with hknown | hslipped
    · exact absurd hname (hne _ hknown)
    · rw [hname] at hslipped
      exact hslipped.resolve_left not_false

end

open Sample

/-- A component that awaits its output, in front of a stage that was put on another channel: the
channel between the two is apart from both. -/
theorem anonymous_apart_transfer :
    let cs : List Call := [.setChannel (some (.named "other")), .stage (.bridge .standard)]
    let d := (FlowDefinition.start "f" (.channel "in" false) .standard).afterAll cs
    let d' := (Call.stage (.bridge .standard)).after d
    d.Created d' ∧ d'.anonymous = 1 ∧
      ∀ stage ∈ d.stages, stage.input.name = d.anonymousName →
        ∃ c ∈ cs, c.Slips d.anonymousName := by
  intro cs d d'
  obtain ⟨hcreated, -, -, hinputs⟩ := anonymous_apart "f" (.channel "in" false) .standard cs d'
    (.inl ⟨_, rfl⟩) (by decide)
  exact ⟨hcreated, by decide, hinputs⟩

/-- The first stage was put on a channel that has the name of the next anonymous one. A second stage
has that one created, as the output of the first, which goes round in a loop from then on. -/
theorem anonymous_joined :
    let d := (FlowDefinition.start "f" (.channel "in" false) .standard).afterAll
      [.setChannel (some (.named "f.channel#0")), .stage (.bridge .standard)]
    let d' := (Call.stage (.bridge .standard)).after d
    d.Created d' ∧ (∃ stage ∈ d.stages, stage.input.name = d.anonymousName) ∧
      (d'.outputAt (.stage 0)).map ChannelRef.name = (inputNames d'.stages)[0]? := by
  intro d d'
  have hd : d.Sound := FlowDefinition.sound_of_reachable
    (reachable_afterAll (.start "f" (.channel "in" false) .standard) _)
  refine ⟨FlowDefinition.created_by_step (Call.step_of_call hd.names _) hd (by decide), ?_,
    by decide⟩
  exact ⟨_, List.mem_of_getElem? (i := 0) rfl, by decide⟩

end MessageFlow
