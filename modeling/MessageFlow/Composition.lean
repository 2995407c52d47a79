import MessageFlow.Composer

/-!
# Composition

From a source and a composer to a finished flow. The composer runs once, on a fresh definition. Its
failure is the failure of the composition; otherwise the definition is finished, or refused if it
makes no flow.
-/

namespace MessageFlow

variable [PayloadTypes]

open Change (ask)

/-- The channel at the end. An output that is still awaited becomes an anonymous channel. -/
def Composer.ending : Composer (Option ChannelRef) := do
  let d ← get
  match d.cursor with
  | .channel ref => return some ref
  | .empty => return none
  | .component place =>
    match ← ask fun d => d.outputOf place with
    | some ref => return some ref
    | none =>
      if d.implicit then
        let ref ← anonymousChannel
        connect place ref
        return some ref
      else return none

/-- Finishes a definition. The channel at the end was created even if an input is refused then. -/
def Composer.finish : Composer Flow := do
  let input ← ask FlowDefinition.entrance
  let output ← ending
  ask FlowDefinition.checkInputs
  let d ← get
  set (d.logged (.assembled d.id d.stages.length))
  return d.toFlow input output

/-- Finishes a definition after the composer has ended with a result. -/
def Composer.conclude : Except Failure Unit → Composer Flow
  | .ok () => Composer.finish
  | .error failure => do
    modify fun d => d.logged (.compositionFailed d.id failure)
    throw failure

/-- A source together with the settings of the flow that starts from it. -/
structure FlowBuilder where
  source : Source
  /-- The id of the flow; generated if there is none. -/
  id : Option String
  config : FlowConfig

namespace FlowBuilder

/-- A flow with a generated id and the standard settings. -/
def ofSource (source : Source) : FlowBuilder := ⟨source, none, .standard⟩

def inspect (b : FlowBuilder) : String :=
  Text.Inspect.record "IntegrationFlows"
    [ ("source", b.source.inspect),
      ("id", Text.Inspect.optional (b.id.map Text.Inspect.quoted)),
      ("config", b.config.inspect) ]

/-- The id of the flow: the given one, or the next that is generated. -/
def flowId (b : FlowBuilder) : Run String :=
  match b.id with
  | some id => return id
  | none => do
    let w ← get
    set { w with generated := w.generated + 1 }
    return b.config.idPrefix ++ "#" ++ toString w.generated

/-- A fresh definition. -/
def start (b : FlowBuilder) : Run FlowDefinition := do
  let id ← b.flowId
  return FlowDefinition.start id b.source b.config

def compose (b : FlowBuilder) (composer : Composer Unit) : Run Flow := do
  let d ← b.start
  let (result, ended) := (do Composer.conclude (← composer.attempt) : Composer Flow).exec d
  ended.events.forM Run.log
  match result with
  | .ok flow => return flow
  | .error failure => throw failure

end FlowBuilder

end MessageFlow
