import MessageFlow.Composition
import MessageFlow.Proofs.Composer.Settled

/-!
# Calls

The calls that a composer is made of, as data: `Factory` has those that append a stage, `Call` has
all of them. A call is performed on a definition, has a result and leaves a definition. What a call
can do is listed once, in `Step`; `step_of_call` says that there is nothing else, as long as names
and components agree, and they always do (`consistent_of_reachable`).
-/

namespace MessageFlow

variable [PayloadTypes]

/-- A call that appends a stage. -/
inductive Factory where
  | transform (input output : DataType) (f : input.denote → Run (Except Cause output.denote))
    (spec : EndpointSpec)
  | transformPayload (input : Option DataType) (f : Payload → Run Payload)
  | filter (input : DataType) (accepts : input.denote → Run Bool) (spec : FilterSpec)
  | filterPayload (input : Option DataType) (accepts : Payload → Run Bool)
  | split (input item : DataType) (f : input.denote → Run (List item.denote))
    (spec : SplitterSpec)
  | route (input : DataType) (key : KeyType) (f : input.denote → Run key.denote)
    (spec : RouterSpec key)
  | convert (target : ConvertTarget) (spec : EndpointSpec)
  | convertTo (type : Option DataType)
  | handle (input : DataType) (f : input.denote → Run Unit) (spec : EndpointSpec)
  | bridge (spec : EndpointSpec)
  | log (level : Level) (category : String)

namespace Factory

/-- The composer of a call. -/
def perform : Factory → Composer Unit
  | transform input output f spec => Composer.transform input output f spec
  | transformPayload input f => Composer.transformPayload input f
  | filter input accepts spec => Composer.filter input accepts spec
  | filterPayload input accepts => Composer.filterPayload input accepts
  | split input item f spec => Composer.split input item f spec
  | route input _ f spec => Composer.route input f spec
  | convert target spec => Composer.convert target spec
  | convertTo type => Composer.convertTo type
  | handle input f spec => Composer.handle input f spec
  | bridge spec => Composer.bridge spec
  | log level category => Composer.log level category

/-- The target that a call makes known, be it refused or not. -/
def learns : Factory → Option ConvertTarget
  | convert target _ => some target
  | _ => none

/-- The type whose target must be known. -/
def needs : Factory → Option DataType
  | convertTo type => type
  | _ => none

/-- The stage that a call asks for. -/
def request : Factory → Except Failure StageRequest
  | transform input output f spec => .ok ⟨.transform, input, .transform input output f, spec⟩
  | transformPayload (some type) f =>
    .ok ⟨.transform, type, .transformPayload type f, .standard⟩
  | transformPayload none _ => .error (.typeResolution .transform .undeclared)
  | filter input accepts spec =>
    .ok ⟨.filter, input, .filter input accepts spec.rejection, spec.endpoint⟩
  | filterPayload (some type) accepts =>
    .ok ⟨.filter, type, .filterPayload type accepts .drop, .standard⟩
  | filterPayload none _ => .error (.typeResolution .filter .undeclared)
  | split input item f spec =>
    .ok ⟨.split, input, .split input item f spec.sequenced, spec.endpoint⟩
  | route input _ f spec => .ok ⟨.route, input, .route input f spec.routing, spec.endpoint⟩
  | convert target spec => .ok ⟨.convert, target.type, target.handler, spec⟩
  | convertTo (some type) =>
    match ConvertTarget.ofType? type with
    | some target => .ok ⟨.convert, type, target.handler, .standard⟩
    | none => .error (.typeResolution .convert (.noConverter type.name))
  | convertTo none => .error (.typeResolution .convert .undeclared)
  | handle input f spec => .ok ⟨.handle, input, .handle input f, spec⟩
  | bridge spec => .ok ⟨.bridge, .payload, .bridge, spec⟩
  | log level category => .ok ⟨.log, .payload, .log level category, .standard⟩

/-- The options that a call gives to its stage. -/
def options : Factory → EndpointSpec
  | transform _ _ _ spec | convert _ spec | handle _ _ spec | bridge spec => spec
  | filter _ _ spec => spec.endpoint
  | split _ _ _ spec => spec.endpoint
  | route _ _ _ spec => spec.endpoint
  | transformPayload .. | filterPayload .. | convertTo _ | log .. => .standard

/-- Refuses a conversion whose target is not known. -/
def checkNeeds (f : Factory) (known : ConverterRegistry) : Except Failure Unit :=
  match f.needs with
  | some type =>
    if known.contains type then .ok ()
    else .error (.typeResolution .convert (.noConverter type.name))
  | none => .ok ()

/-- The stage that a call appends to a definition, unless it is refused. -/
def admitted (f : Factory) (d : FlowDefinition) : Except Failure StageRequest := do
  f.checkNeeds d.converters
  let r ← f.request
  d.checkRequest r
  return r

end Factory

/-- The registry after a call that may make a target known. -/
def ConverterRegistry.learning (known : ConverterRegistry) (target : Option ConvertTarget) :
    ConverterRegistry :=
  (target.map known.register).getD known

/-- The definition after a call that may make a target known. -/
def FlowDefinition.learning (d : FlowDefinition) (target : Option ConvertTarget) :
    FlowDefinition :=
  { d with converters := d.converters.learning target }

/-- A call on a flow definition. -/
inductive Call where
  | stage (factory : Factory)
  | channel (ref : ChannelRef)
  | addComponent (component : FlowComponent) (name : Option String)
  | addComponents (batch : List (FlowComponent × Option String))
  | registerConverter (target : ConvertTarget)
  | setChannel (ref : Option ChannelRef)
  | setComponent (place : Option Nat)
  | setImplicit (implicit : Bool)

namespace Call

/-- The composer of a call. It returns the places of the components that it registered by hand. -/
def perform : Call → Composer (List Nat)
  | stage factory => do
    factory.perform
    return []
  | channel ref => do
    Composer.channel ref
    return []
  | addComponent component name => do return [← Composer.addComponent component name]
  | addComponents batch => Composer.addComponents batch
  | registerConverter target => do
    Composer.registerConverter target
    return []
  | setChannel ref => do
    Composer.setChannel ref
    return []
  | setComponent place => do
    Composer.setComponent place
    return []
  | setImplicit implicit => do
    Composer.setImplicit implicit
    return []

/-- What a call returns. -/
def result (c : Call) (d : FlowDefinition) : Except Failure (List Nat) :=
  (c.perform.exec d).1

/-- The definition that a call leaves, be it refused or not. -/
def after (c : Call) (d : FlowDefinition) : FlowDefinition :=
  (c.perform.exec d).2

/-- The target that a call makes known, be it refused or not. -/
def learns : Call → Option ConvertTarget
  | stage factory => factory.learns
  | registerConverter target => some target
  | _ => none

/-- The type whose target must be known. -/
def needs : Call → Option DataType
  | stage factory => factory.needs
  | _ => none

/-- Whether a call sets the cursor, or the flag beside it, by hand. -/
def isRaw : Call → Bool
  | setChannel _ | setComponent _ | setImplicit _ => true
  | _ => false

end Call

/-- The definitions that a composer may see. -/
inductive Reachable : FlowDefinition → Prop where
  | start (id : String) (source : Source) (config : FlowConfig) :
      Reachable (.start id source config)
  | call {d : FlowDefinition} (c : Call) : Reachable d → Reachable (c.after d)

namespace FlowDefinition

/-- The definition after one call after the other, refused or not. -/
def afterAll (d : FlowDefinition) : List Call → FlowDefinition
  | [] => d
  | c :: cs => (c.after d).afterAll cs

/-- The calls of a list that are not refused. -/
def succeeded (d : FlowDefinition) : List Call → List Call
  | [] => []
  | c :: cs =>
    if (c.result d).isOk then c :: (c.after d).succeeded cs else (c.after d).succeeded cs

/-- What the calls of a list return. -/
def results (d : FlowDefinition) : List Call → List (Except Failure (List Nat))
  | [] => []
  | c :: cs => c.result d :: (c.after d).results cs

end FlowDefinition

/-- What calls make of a definition that can be reached can be reached. -/
theorem reachable_afterAll {d : FlowDefinition} (hd : Reachable d) (cs : List Call) :
    Reachable (d.afterAll cs) := by
  induction cs generalizing d with
  | nil => exact hd
  | cons c cs ih => exact ih (hd.call c)

/-! ## What a call can do -/

/-- Whether the cursor can be there: a component that it is on is registered. -/
def FlowDefinition.Holds (d : FlowDefinition) (cursor : Cursor) : Prop :=
  ∀ place, cursor = .component place → ∃ component, d.components.get place = some component

/-- What a call can return, and leave. -/
inductive Step (d : FlowDefinition) : Call → Except Failure (List Nat) → FlowDefinition → Prop where
  | refused (c : Call) (failure : Failure) : Step d c (.error failure) (d.learning c.learns)
  | appended (f : Factory) (r : StageRequest) : f.admitted (d.learning f.learns) = .ok r →
      Step d (.stage f) (.ok []) ((d.learning f.learns).appended r)
  | continued (ref : ChannelRef) (d' : FlowDefinition) : d.checkChannel ref = .ok () →
      d.Joins ref d' → Step d (.channel ref) (.ok []) (d'.continued ref)
  | added (component : FlowComponent) (name : Option String) :
      (∀ n, name = some n → d.components.contains n = false) →
      d.checkComponent component = .ok () →
      Step d (.addComponent component name) (.ok [d.components.size])
        { d with components := d.components.push component name }
  | addedAll (batch : List (FlowComponent × Option String)) :
      d.components.clash? [] batch = none →
      (∀ entry ∈ batch, d.checkComponent entry.1 = .ok ()) →
      Step d (.addComponents batch) (.ok (List.range' d.components.size batch.length))
        { d with components := d.components.pushAll batch }
  | learned (target : ConvertTarget) :
      Step d (.registerConverter target) (.ok []) (d.learning (some target))
  | moved (c : Call) (cursor : Cursor) : c.isRaw = true → cursor = d.cursor ∨ d.Holds cursor →
      Step d c (.ok []) { d with cursor }
  | flagged (implicit : Bool) : Step d (.setImplicit implicit) (.ok []) { d with implicit }

/-- A target that is known is the one of its type. -/
theorem ConverterRegistry.ofType?_of_get {known : ConverterRegistry} {type : DataType}
    {target : ConvertTarget} (h : known.get type = some target) :
    ConvertTarget.ofType? type = some target := by
  have htype : target.type = type := by simpa using List.find?_some h
  subst htype
  unfold ConvertTarget.ofType?
  split
  · next decoder hdecoder =>
    rw [ConvertTarget.eq_of_type_eq (t := ⟨target.type, decoder, hdecoder⟩) (u := target) rfl]
  · next hnone =>
    rw [target.decoder_eq] at hnone
    cases hnone

@[simp] theorem FlowDefinition.learning_none (d : FlowDefinition) : d.learning none = d := rfl

namespace Factory

variable {d : FlowDefinition} {f : Factory}

/-- A call whose conversion is known has what it needs. -/
theorem checkNeeds_of_contains {known : ConverterRegistry} {type : DataType}
    (hneeds : f.needs = some type) (h : known.contains type = true) :
    f.checkNeeds known = .ok () := by
  simp [checkNeeds, hneeds, h]

/-- The options of a call go into the stage that it asks for. -/
theorem options_of_request {r : StageRequest} (h : f.request = .ok r) : r.spec = f.options := by
  cases f with
  | transformPayload input =>
    cases input with
    | none => cases h
    | some type =>
      cases h
      rfl
  | filterPayload input =>
    cases input with
    | none => cases h
    | some type =>
      cases h
      rfl
  | convertTo type =>
    cases type with
    | none => cases h
    | some type =>
      rw [Factory.request] at h
      split at h <;> cases h
      rfl
  | _ => cases h; rfl

/-- A call is admitted if it has what it needs, asks for a stage, and this stage is in order. -/
theorem admitted_eq_ok {r : StageRequest} : f.admitted d = .ok r ↔
    f.checkNeeds d.converters = .ok () ∧ f.request = .ok r ∧ d.checkRequest r = .ok () := by
  unfold admitted
  rw [look_bind_eq_ok]
  constructor
  · rintro ⟨_, hneeds, hrest⟩
    obtain ⟨r', hrequest, hrest⟩ := look_bind_eq_ok.1 hrest
    obtain ⟨_, hcheck, hr⟩ := look_bind_eq_ok.1 hrest
    cases hr
    exact ⟨hneeds, hrequest, hcheck⟩
  · rintro ⟨hneeds, hrequest, hcheck⟩
    refine ⟨(), hneeds, ?_⟩
    simp [hrequest, hcheck]

/-- A stage that is asked for is appended if nothing refuses it. -/
theorem exec_append_of_request (hd : d.components.Consistent) (r : StageRequest)
    (hrequest : f.request = .ok r) (hneeds : f.checkNeeds d.converters = .ok ()) :
    (Composer.append r.kind r.type r.handler r.spec).exec d =
      match f.admitted d with
      | .error failure => (.error failure, d)
      | .ok r => (.ok (), d.appended r) := by
  rw [Composer.exec_append hd, admitted, hneeds, hrequest]
  simp only [look_ok_bind]
  cases d.checkRequest r <;> rfl

/-- A conversion by type is that of the target that is known for the type. -/
theorem exec_convertTo (type : DataType) (d : FlowDefinition) :
    Change.exec (Composer.convertTo (some type)) d =
      match d.converters.get type with
      | some target => (Composer.append .convert type target.handler .standard).exec d
      | none => (.error (.typeResolution .convert (.noConverter type.name)), d) := by
  simp only [Composer.convertTo, Composer.declared, Change.exec_bind, Change.exec_pure,
    Change.exec_get]
  cases d.converters.get type <;> rfl

/-- A call makes its target known, then looks, then appends. -/
theorem exec_perform (hd : d.components.Consistent) (f : Factory) :
    f.perform.exec d =
      match f.admitted (d.learning f.learns) with
      | .error failure => (.error failure, d.learning f.learns)
      | .ok r => (.ok (), (d.learning f.learns).appended r) := by
  cases f with
  | transform input output f spec =>
    exact exec_append_of_request hd
      ⟨.transform, input, .transform input output f, spec⟩ rfl rfl
  | transformPayload input f =>
    cases input with
    | none => rfl
    | some type =>
      simp only [perform, Composer.transformPayload, Composer.declared, Change.exec_bind,
        Change.exec_pure]
      exact exec_append_of_request hd
        ⟨.transform, type, .transformPayload type f, .standard⟩ rfl rfl
  | filter input accepts spec =>
    exact exec_append_of_request hd
      ⟨.filter, input, .filter input accepts spec.rejection, spec.endpoint⟩ rfl rfl
  | filterPayload input accepts =>
    cases input with
    | none => rfl
    | some type =>
      simp only [perform, Composer.filterPayload, Composer.declared, Change.exec_bind,
        Change.exec_pure]
      exact exec_append_of_request hd
        ⟨.filter, type, .filterPayload type accepts .drop, .standard⟩ rfl rfl
  | split input item f spec =>
    exact exec_append_of_request hd
      ⟨.split, input, .split input item f spec.sequenced, spec.endpoint⟩ rfl rfl
  | route input key f spec =>
    exact exec_append_of_request hd
      ⟨.route, input, .route input f spec.routing, spec.endpoint⟩ rfl rfl
  | convert target spec =>
    -- The only call that does something ahead of its look.
    have hlearn : (Composer.registerConverter target).exec d =
        (.ok (), d.learning (some target)) := rfl
    simp only [perform, Composer.convert, Change.exec_bind, hlearn]
    exact exec_append_of_request (d := d.learning (some target)) (f := .convert target spec) hd
      ⟨.convert, target.type, target.handler, spec⟩ rfl rfl
  | convertTo type =>
    cases type with
    | none => rfl
    | some type =>
      show Change.exec (Composer.convertTo (some type)) d =
        match (convertTo (some type)).admitted d with
        | .error failure => (.error failure, d)
        | .ok r => (.ok (), d.appended r)
      rw [exec_convertTo]
      cases hknown : d.converters.get type with
      | none => simp [admitted, checkNeeds, needs, ConverterRegistry.contains, hknown]
      | some target =>
        have hrequest : (convertTo (some type)).request =
            .ok ⟨.convert, type, target.handler, .standard⟩ := by
          rw [request, ConverterRegistry.ofType?_of_get hknown]
        exact exec_append_of_request hd ⟨.convert, type, target.handler, .standard⟩ hrequest
          (checkNeeds_of_contains rfl (by simp [ConverterRegistry.contains, hknown]))
  | handle input f spec =>
    exact exec_append_of_request hd ⟨.handle, input, .handle input f, spec⟩ rfl rfl
  | bridge spec =>
    exact exec_append_of_request hd ⟨.bridge, .payload, .bridge, spec⟩ rfl rfl
  | log level category =>
    exact exec_append_of_request hd ⟨.log, .payload, .log level category, .standard⟩ rfl rfl

end Factory

namespace Call

variable {d : FlowDefinition}

/-- A call for a stage appends the stage, or it is refused and nothing changes but what is known. -/
theorem exec_stage (hd : d.components.Consistent) (f : Factory) :
    (stage f).perform.exec d =
      match f.admitted (d.learning f.learns) with
      | .error failure => (.error failure, d.learning f.learns)
      | .ok r => (.ok [], (d.learning f.learns).appended r) := by
  simp only [perform, Change.exec_bind, f.exec_perform hd]
  cases f.admitted (d.learning f.learns) <;> rfl

/-- A call for a channel goes on from it, or it is refused and nothing changes. -/
theorem exec_channel (hd : d.components.Consistent) (ref : ChannelRef) :
    (channel ref).perform.exec d =
      match d.checkChannel ref >>= fun _ => d.joined ref with
      | .error failure => (.error failure, d)
      | .ok d' => (.ok [], d'.continued ref) := by
  simp only [perform, Change.exec_bind, Composer.exec_channel hd]
  cases d.checkChannel ref >>= fun _ => d.joined ref <;> rfl

/-- A component is added, or it is refused and nothing changes. -/
theorem exec_addComponent (component : FlowComponent) (name : Option String)
    (d : FlowDefinition) :
    (addComponent component name).perform.exec d =
      match d.checkComponent component, name.filter d.components.contains with
      | .error failure, _ => (.error failure, d)
      | .ok (), some taken => (.error (.duplicateName taken), d)
      | .ok (), none =>
        (.ok [d.components.size], { d with components := d.components.push component name }) := by
  simp only [perform, Composer.addComponent, Change.exec_bind, Change.exec_ask]
  cases d.checkComponent component with
  | error failure => rfl
  | ok =>
    simp only [Composer.exec_registering, Registering.add, Change.exec_bind, Change.exec_get]
    cases name.filter d.components.contains <;> rfl

/-- A batch is added as a whole, or it is refused as a whole. -/
theorem exec_addComponents (batch : List (FlowComponent × Option String)) (d : FlowDefinition) :
    (addComponents batch).perform.exec d =
      match batch.forM fun entry => d.checkComponent entry.1, d.components.clash? [] batch with
      | .error failure, _ => (.error failure, d)
      | .ok _, some taken => (.error (.duplicateName taken), d)
      | .ok _, none =>
        (.ok (List.range' d.components.size batch.length),
          { d with components := d.components.pushAll batch }) := by
  simp only [perform, Composer.addComponents, Change.exec_bind, Change.exec_ask]
  cases batch.forM fun entry => d.checkComponent entry.1 with
  | error failure => rfl
  | ok =>
    simp only [Composer.exec_registering, Registering.exec_addAll]
    cases d.components.clash? [] batch <;> rfl

/-- The cursor is set to a channel, or taken away from one. -/
theorem exec_setChannel (ref : Option ChannelRef) (d : FlowDefinition) :
    (setChannel ref).perform.exec d =
      (.ok [],
        match ref, d.cursor with
        | some ref, _ => d.onChannel ref
        | none, .channel _ => { d with cursor := .empty }
        | none, _ => d) := rfl

/-- The cursor is set to a component that is there, or taken away from one. -/
theorem exec_setComponent (place : Option Nat) (d : FlowDefinition) :
    (setComponent place).perform.exec d =
      match place, d.cursor with
      | some place, _ =>
        if (d.components.get place).isNone then
          (.error (.invalidCursor (.unregistered (placeText place))), d)
        else (.ok [], { d with cursor := .component place })
      | none, .component _ => (.ok [], { d with cursor := .empty })
      | none, _ => (.ok [], d) := by
  simp only [perform, Composer.setComponent, Change.exec_bind, Change.exec_get]
  cases place with
  | some place =>
    by_cases hplace : (d.components.get place).isNone = true <;> simp [hplace]
  | none => cases d.cursor <;> rfl

/-- There is nothing else that a call can do. -/
theorem step_of_call (hd : d.components.Consistent) (c : Call) :
    Step d c (c.result d) (c.after d) := by
  unfold result after
  cases c with
  | stage f =>
    rw [exec_stage hd]
    cases hadmitted : f.admitted (d.learning f.learns) with
    | error failure => exact .refused (.stage f) failure
    | ok r => exact .appended f r hadmitted
  | channel ref =>
    rw [exec_channel hd]
    cases hlook : d.checkChannel ref >>= fun _ => d.joined ref with
    | error failure => exact .refused (.channel ref) failure
    | ok d' =>
      obtain ⟨⟨⟩, hcheck, hjoined⟩ := look_bind_eq_ok.1 hlook
      exact .continued ref d' hcheck (FlowDefinition.joins_of_joined hjoined)
  | addComponent component name =>
    rw [exec_addComponent]
    cases hcheck : d.checkComponent component with
    | error failure => exact .refused (.addComponent component name) failure
    | ok =>
      cases htaken : name.filter d.components.contains with
      | some taken => exact .refused (.addComponent component name) (.duplicateName taken)
      | none =>
        refine .added component name ?_ hcheck
        intro n hn
        subst hn
        simpa using htaken
  | addComponents batch =>
    rw [exec_addComponents]
    cases hcheck : batch.forM fun entry => d.checkComponent entry.1 with
    | error failure => exact .refused (.addComponents batch) failure
    | ok =>
      cases hclash : d.components.clash? [] batch with
      | some taken => exact .refused (.addComponents batch) (.duplicateName taken)
      | none => exact .addedAll batch hclash (look_of_forM hcheck)
  | registerConverter target => exact .learned target
  | setChannel ref =>
    rw [exec_setChannel]
    cases ref with
    | some ref => exact .moved (.setChannel (some ref)) (.channel ref) rfl (.inr nofun)
    | none =>
      cases d.cursor with
      | channel _ => exact .moved (.setChannel none) .empty rfl (.inr nofun)
      | component _ => exact .moved (.setChannel none) d.cursor rfl (.inl rfl)
      | empty => exact .moved (.setChannel none) d.cursor rfl (.inl rfl)
  | setComponent place =>
    rw [exec_setComponent]
    cases place with
    | some place =>
      dsimp only
      split
      · exact .refused (.setComponent (some place)) _
      · next hplace =>
        refine .moved (.setComponent (some place)) (.component place) rfl (.inr ?_)
        intro place' hplace'
        cases hplace'
        exact Option.ne_none_iff_exists'.1 (by simpa using hplace)
    | none =>
      cases d.cursor with
      | channel _ => exact .moved (.setComponent none) d.cursor rfl (.inl rfl)
      | component _ => exact .moved (.setComponent none) .empty rfl (.inr nofun)
      | empty => exact .moved (.setComponent none) d.cursor rfl (.inl rfl)
  | setImplicit implicit => exact .flagged implicit

end Call

/-- No call sets names and components at odds. -/
theorem consistent_step {d d' : FlowDefinition} {c : Call} {result : Except Failure (List Nat)}
    (h : Step d c result d') (hd : d.components.Consistent) : d'.components.Consistent := by
  cases h with
  | refused => exact hd
  | appended f r hadmitted =>
    obtain ⟨-, -, hcheck⟩ := Factory.admitted_eq_ok.1 hadmitted
    exact FlowDefinition.consistent_appended (d := d.learning f.learns) hd hcheck
  | continued ref d' hcheck hjoin =>
    exact FlowDefinition.consistent_continued (FlowDefinition.consistent_joined hd hjoin)
      (FlowDefinition.checkChannel_joined hcheck hjoin)
  | added component name hfree => exact ComponentRegistry.consistent_push hd hfree
  | addedAll batch hclash => exact ComponentRegistry.consistent_pushAll hclash hd
  | learned => exact hd
  | moved => exact hd
  | flagged => exact hd

/-- No call changes what a definition starts from. -/
theorem origin_step {d d' : FlowDefinition} {c : Call} {result : Except Failure (List Nat)}
    (h : Step d c result d') : d'.origin = d.origin := by
  cases h with
  | appended f r => exact FlowDefinition.origin_appended (d.learning f.learns) r
  | continued ref d' _ hjoin =>
    have hframe : (d'.continued ref).origin = d'.origin := rfl
    rw [hframe, FlowDefinition.origin_joined hjoin]
  | _ => rfl

/-- Calls leave alone how a definition began. -/
theorem origin_afterAll {d : FlowDefinition} (hd : d.components.Consistent) (cs : List Call) :
    (d.afterAll cs).origin = d.origin := by
  induction cs generalizing d with
  | nil => rfl
  | cons c cs ih =>
    have hstep := c.step_of_call hd
    exact (ih (consistent_step hstep hd)).trans (origin_step hstep)

/-- At first the components are consistent. -/
theorem consistent_start (id : String) (source : Source) (config : FlowConfig) :
    (FlowDefinition.start id source config).components.Consistent := by
  unfold FlowDefinition.start
  exact ComponentRegistry.consistent_push ComponentRegistry.consistent_empty fun _ _ => rfl

/-- The components are consistent whatever was called. -/
theorem consistent_of_reachable {d : FlowDefinition} (h : Reachable d) :
    d.components.Consistent := by
  induction h with
  | start id source config => exact consistent_start id source config
  | call c _ ih => exact consistent_step (c.step_of_call ih) ih

end MessageFlow
