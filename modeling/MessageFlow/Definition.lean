import MessageFlow.Config
import MessageFlow.Conversion
import MessageFlow.Flow

/-!
# Flow definitions

A flow while it is composed: the stages so far, the components, and the cursor, which says what the
next stage attaches to. This module has what can be read off a definition: where its components
lead, and what would be refused.

A stage without an output of its own becomes the current component. Its output is wired later, to
an anonymous channel named after the flow, when the next stage is appended or the flow is finished.
-/

namespace MessageFlow

variable [PayloadTypes]

/-- What the next stage attaches to. -/
inductive Cursor where
  /-- It consumes this channel. -/
  | channel (ref : ChannelRef)
  /-- It consumes the output of the component at this place. -/
  | component (place : Nat)
  /-- There is nothing to attach to. -/
  | empty
  deriving Repr

def Cursor.inspect : Cursor → String
  | channel ref => Text.Inspect.variant "Channel" ref.inspect
  | component place =>
    Text.Inspect.variant "Component" (Text.Inspect.variant "ComponentId" (toString place))
  | empty => "Empty"

/-- A flow under composition. -/
structure FlowDefinition where
  id : String
  config : FlowConfig
  source : Source
  /-- Where the source is registered. -/
  sourcePlace : Nat
  /-- The channel that a source which is no channel sends to. -/
  sourceOutput : Option ChannelRef
  stages : List FlowStage
  components : ComponentRegistry
  cursor : Cursor
  /-- Whether the output of the current component awaits an anonymous channel. -/
  implicit : Bool
  /-- How many anonymous channels were created. -/
  anonymous : Nat
  converters : ConverterRegistry
  /-- What was logged so far. -/
  events : List LogEvent

namespace FlowDefinition

/-- A definition that starts from a source. The source is the first component. A channel is the
cursor itself; any other source is the current component. -/
def start (id : String) (source : Source) (config : FlowConfig) : FlowDefinition :=
  let component : FlowComponent × Option String × Cursor :=
    match source.channelRef with
    | some ref => (.channel ref, some ref.name, .channel ref)
    | none => (.source source.describe, source.componentName, .component 0)
  { id := id
    config := config
    source := source
    sourcePlace := 0
    sourceOutput := none
    stages := []
    components := ComponentRegistry.empty.push component.1 component.2.1
    cursor := component.2.2
    implicit := false
    anonymous := 0
    converters := .empty
    events := [.composing id source.describe] }

/-- The definition with an event logged. -/
def logged (d : FlowDefinition) (event : LogEvent) : FlowDefinition :=
  { d with events := d.events ++ [event] }

/-- The definition with the cursor on a channel. -/
def onChannel (d : FlowDefinition) (ref : ChannelRef) : FlowDefinition :=
  { d with cursor := .channel ref }

/-- The endpoint that is registered at a place. -/
def endpoint (d : FlowDefinition) (place : Nat) : Option Endpoint :=
  match d.components.get place with
  | some (.endpoint index) => d.stages[index]?.map (·.endpoint)
  | _ => none

/-- How the component at a place is referred to. -/
def describe (d : FlowDefinition) (place : Nat) : String :=
  match d.components.name place with
  | some name => "component '" ++ name ++ "'"
  | none => placeText place

/-! ## Checks -/

/-- Refuses a channel whose name is taken by something that is no channel. -/
def checkChannel (d : FlowDefinition) (ref : ChannelRef) : Except Failure Unit :=
  if d.components.contains ref.name && (d.components.channelNamed ref.name).isNone then
    .error (.duplicateName ref.name)
  else .ok ()

/-- Refuses stages that do not exist, and a second source. -/
def checkComponent (d : FlowDefinition) : FlowComponent → Except Failure Unit
  | .endpoint index =>
    if d.stages.length ≤ index then .error (.invalidCursor (.noSuchStage index)) else .ok ()
  | .source _ => .error (.invalidCursor .secondSource)
  | _ => .ok ()

/-- The channel that the component at a place sends to; none while it is not wired. -/
def outputOf (d : FlowDefinition) (place : Nat) : Except Failure (Option ChannelRef) :=
  match d.components.get place with
  | some (.channel ref) => .ok (some ref)
  | some (.endpoint index) => .ok (d.stages[index]?.bind (·.endpoint.output))
  | some (.source _) =>
    if place = d.sourcePlace then .ok d.sourceOutput
    else .error (.invalidCursor (.producesNothing (d.describe place)))
  | some .bean => .error (.invalidCursor (.producesNothing (d.describe place)))
  | none => .error (.invalidCursor (.unregistered (placeText place)))

/-- The channel that the next stage would consume; none if an anonymous one is still needed. -/
def existingInput (d : FlowDefinition) : Except Failure (Option ChannelRef) :=
  match d.cursor with
  | .channel ref => .ok (some ref)
  | .component place => d.outputOf place
  | .empty => .error (.invalidCursor (.nowhere d.id))

/-- Refuses a second stage on a fixed-subscriber source. -/
def checkSubscriber (d : FlowDefinition) (input : ChannelRef) : Except Failure Unit :=
  if d.source.isFixedSubscriber && d.source.channelRef == some input
      && d.stages.any (·.input == input) then
    .error (.invalidCursor (.alreadySubscribed input.name))
  else .ok ()

/-- The name of the next anonymous channel. -/
def anonymousName (d : FlowDefinition) : String :=
  d.id ++ ".channel#" ++ toString d.anonymous

/-- The id of the next stage, if it is given none. -/
def generatedId (d : FlowDefinition) (kind : StageKind) : String :=
  d.id ++ "." ++ kind.name ++ "#" ++ toString d.stages.length

/-- Refuses the next anonymous channel if its name is taken, or is one of the `pending` names. -/
def checkAnonymous (d : FlowDefinition) (pending : List String) : Except Failure Unit :=
  if pending.contains d.anonymousName || d.components.contains d.anonymousName then
    .error (.duplicateName d.anonymousName)
  else .ok ()

/-- Refuses what a new stage would consume. The anonymous channel is registered first, so it must
not take one of the names that the stage needs. -/
def checkInput (d : FlowDefinition) (needed : List String) : Except Failure Unit := do
  match ← d.existingInput with
  | some input => d.checkSubscriber input
  | none => d.checkAnonymous needed

/-- All that could refuse a new stage. -/
def checkStage (d : FlowDefinition) (id : String) (output : Option ChannelRef) :
    Except Failure Unit := do
  if d.components.contains id then throw (.duplicateName id)
  if let some ref := output then
    -- The output is registered next to the stage, so the two must not bear one name.
    if ref.name = id then throw (.duplicateName id)
    d.checkChannel ref
  d.checkInput (id :: (output.map ChannelRef.name).toList)

def anonymousRef (d : FlowDefinition) : ChannelRef :=
  .anonymous d.anonymousName

/-! ## Ends -/

/-- Whether a stage's input can be resolved by a runtime. -/
def isResolvable (d : FlowDefinition) : ChannelRef → Bool
  | .anonymous name => (d.components.channelNamed name).isSome
  | .named name => name != ""
  | .live _ => true

/-- The channel that messages enter a finished flow by. -/
def entrance (d : FlowDefinition) : Except Failure ChannelRef := do
  if d.source.isFixedSubscriber && d.stages.isEmpty then
    throw (.invalidCursor (.noSubscriber d.id))
  match d.source.channelRef, d.sourceOutput with
  | some ref, _ =>
    if d.stages.isEmpty then throw (.invalidCursor (.noStages d.id))
    return ref
  | none, some ref => return ref
  | none, none => throw (.invalidCursor (.sourceUnconnected d.id))

/-- Refuses a definition with a stage whose input cannot be resolved. -/
def checkInputs (d : FlowDefinition) : Except Failure Unit :=
  match d.stages.find? fun stage => !d.isResolvable stage.input with
  | some stage => .error (.invalidCursor (.unresolvableInput stage.endpoint.info.id))
  | none => .ok ()

/-- The flow of a definition whose ends are known. -/
def toFlow (d : FlowDefinition) (input : ChannelRef) (output : Option ChannelRef) : Flow :=
  { id := d.id
    source := d.source
    input := input
    output := output
    stages := d.stages
    components := d.components
    poller := d.source.poller d.config.defaultPoller }

def inspect (d : FlowDefinition) : String :=
  Text.Inspect.record "FlowDefinition"
    [ ("id", Text.Inspect.quoted d.id), ("source", d.source.inspect),
      ("stages", toString d.stages.length), ("cursor", d.cursor.inspect),
      ("implicit_channel", Text.Inspect.bool d.implicit) ]

end FlowDefinition

end MessageFlow
