import MessageFlow.Definition

/-!
# Wiring

The changes that composers are made of. They are made in place and step by step: a channel is
created, an output is connected, a stage is registered and added. Each step may be refused on its
own, and what was done before it stays.
-/

namespace MessageFlow

variable [PayloadTypes]

/-- A change of a flow definition. -/
abbrev Composer (α : Type) := Change FlowDefinition α

namespace Composer

open Change (ask attempt)

/-- Acts on the components. -/
def registering {α : Type} (action : Registering α) : Composer α :=
  ExceptT.mk fun d =>
    let (result, components) := action.exec d.components
    (result, { d with components := components })

/-- What is done to the components leaves all else in a definition alone. -/
@[simp] theorem exec_registering {α : Type} (action : Registering α) (d : FlowDefinition) :
    (registering action).exec d =
      ((action.exec d.components).1, { d with components := (action.exec d.components).2 }) := rfl

/-! ## Channels -/

/-- Registers a channel, unless one of its name is there. -/
def registerChannel (ref : ChannelRef) : Composer Unit := do
  ask fun d => d.checkChannel ref
  if ((← get).components.channelNamed ref.name).isNone then
    let _ ← registering (.add (.channel ref) (some ref.name))

/-- Creates the next anonymous channel. -/
def anonymousChannel : Composer ChannelRef := do
  let d ← get
  let _ ← registering (.add (.channel d.anonymousRef) (some d.anonymousName))
  modify fun d' =>
    { d' with anonymous := d'.anonymous + 1 }.logged (.createdChannel d.id d.anonymousName)
  return d.anonymousRef

/-- Sets the channel that the component at a place sends to. -/
def connect (place : Nat) (ref : ChannelRef) : Composer Unit := do
  let d ← get
  let refused : Failure := .invalidCursor (.unconnectable (d.describe place) ref.name)
  match d.components.get place with
  | some (.endpoint index) =>
    set { d with stages := d.stages.modify index fun stage => stage.withOutput ref }
  | some (.source _) =>
    if place = d.sourcePlace then set { d with sourceOutput := some ref } else throw refused
  | _ => throw refused

/-- The channel that the next stage consumes. The current component is wired to an anonymous one if
it is not wired. -/
def resolveInput : Composer ChannelRef := do
  match ← ask FlowDefinition.existingInput with
  | some ref => return ref
  | none =>
    let ref ← anonymousChannel
    if let .component place := (← get).cursor then connect place ref
    return ref

/-! ## Stages -/

/-- Adds a stage that is registered at a place, behind the others. -/
def addStage (place : Nat) (stage : FlowStage) : Composer Unit := do
  modify fun d =>
    { d with stages := d.stages ++ [stage] }.logged
      (.appended d.id stage.endpoint.info stage.input.name)
  match stage.endpoint.output with
  | some ref =>
    registerChannel ref
    modify fun d => { d with cursor := .channel ref, implicit := false }
  | none => modify fun d => { d with cursor := .component place, implicit := true }

/-- Appends a stage, after a look at all that could refuse it. -/
def append (kind : StageKind) (type : DataType) (handler : Handler) (spec : EndpointSpec) :
    Composer Unit := do
  let d ← get
  let info : StageInfo := ⟨spec.id.getD (d.generatedId kind), kind⟩
  ask fun d => d.checkStage info.id spec.output
  let input ← resolveInput
  let advice := if d.config.logStages then Advice.tracing :: spec.advice else spec.advice
  let place ← registering (.add (.endpoint d.stages.length) (some info.id))
  addStage place
    { input := input
      endpoint :=
        { info := info, type := type, handler := handler, advice := advice, poller := spec.poller,
          output := spec.output } }

/-- Connects one channel to another through a bridge. The cursor goes back if that is refused. -/
def bridgeInto (origin goal : ChannelRef) : Composer Unit := do
  let d ← get
  set (d.onChannel origin)
  let result ← attempt <|
    append .bridge .payload Handler.bridge { EndpointSpec.standard with output := some goal }
  match result with
  | .ok () => return ()
  | .error failure =>
    modify fun d' => { d' with cursor := d.cursor }
    throw failure

/-- Connects what the cursor is on to a channel: the current component is wired to it, a current
channel is connected to it by a bridge. -/
def join (ref : ChannelRef) : Composer Unit := do
  match (← get).cursor with
  | .empty => return ()
  | .channel current => if current == ref then return () else bridgeInto current ref
  | .component place =>
    match ← ask fun d => d.outputOf place with
    | none => connect place ref
    | some existing => if existing == ref then return () else bridgeInto existing ref

/-- Continues on a channel. -/
def channel (ref : ChannelRef) : Composer Unit := do
  ask fun d => d.checkChannel ref
  join ref
  registerChannel ref
  modify fun d => { d with cursor := .channel ref, implicit := false }

end Composer

end MessageFlow
