import MessageFlow.Poller
import MessageFlow.Strategy

/-!
# Endpoints

One stage of a flow: who it is, what type it declares, its handler and the options that its
composer gave it. Filters, splitters and routers have options of their own.
-/

namespace MessageFlow

variable [PayloadTypes]

/-- The options that every stage has. -/
structure EndpointSpec where
  /-- The id of the stage; generated if there is none. -/
  id : Option String
  /-- What is wrapped around the handler, the outermost first. -/
  advice : List Advice
  poller : Option Poller
  /-- Where results go; wired by the flow if there is none. -/
  output : Option ChannelRef

namespace EndpointSpec

def standard : EndpointSpec := ⟨none, [], none, none⟩

def inspect (spec : EndpointSpec) : String :=
  Text.Inspect.record "EndpointSpec"
    [ ("id", Text.Inspect.optional (spec.id.map Text.Inspect.quoted)),
      ("advice_chain", toString spec.advice.length),
      ("poller", Text.Inspect.optional (spec.poller.map Poller.inspect)),
      ("output_channel", Text.Inspect.optional (spec.output.map ChannelRef.inspect)) ]

end EndpointSpec

structure FilterSpec where
  endpoint : EndpointSpec
  rejection : Rejection

/-- Rejected messages vanish. -/
def FilterSpec.standard : FilterSpec := ⟨.standard, .drop⟩

/-- The options of a filter as a value. -/
def FilterSpec.inspect (spec : FilterSpec) : String :=
  Text.Inspect.record "FilterEndpointSpec"
    [ ("endpoint", spec.endpoint.inspect),
      ("discard_channel",
        Text.Inspect.optional (spec.rejection.channel.map ChannelRef.inspect)),
      ("throw_exception_on_rejection", Text.Inspect.bool spec.rejection.raises) ]

structure SplitterSpec where
  endpoint : EndpointSpec
  /-- Whether the parts say which message they are from, and which of how many they are. -/
  sequenced : Bool

/-- Parts are numbered. -/
def SplitterSpec.standard : SplitterSpec := ⟨.standard, true⟩

/-- The options of a splitter as a value. -/
def SplitterSpec.inspect (spec : SplitterSpec) : String :=
  Text.Inspect.record "SplitterEndpointSpec"
    [ ("endpoint", spec.endpoint.inspect),
      ("apply_sequence", Text.Inspect.bool spec.sequenced) ]

structure RouterSpec (key : KeyType) where
  endpoint : EndpointSpec
  routing : Routing key

/-- Every key names its own channel, which must exist. -/
def RouterSpec.standard {key : KeyType} : RouterSpec key := ⟨.standard, .standard⟩

/-- The options of a router for text keys as a value. -/
def RouterSpec.inspect (spec : RouterSpec .string) : String :=
  let mappings := spec.routing.mappings.map fun mapping =>
    Text.Inspect.quoted mapping.1 ++ ": " ++ mapping.2.inspect
  Text.Inspect.record "RouterSpec"
    [ ("endpoint", spec.endpoint.inspect),
      ("mappings", "\x7b" ++ ", ".intercalate mappings ++ "\x7d"),
      ("default_output_channel",
        Text.Inspect.optional (spec.routing.fallback.map ChannelRef.inspect)),
      ("resolution_required", Text.Inspect.bool spec.routing.required),
      ("prefix", Text.Inspect.quoted spec.routing.before),
      ("suffix", Text.Inspect.quoted spec.routing.after) ]

structure Endpoint where
  info : StageInfo
  /-- The type of its input, or the target type of a conversion. -/
  type : DataType
  handler : Handler
  advice : List Advice
  poller : Option Poller
  /-- Where results go. It is the one thing that may still be set after a stage was appended. -/
  output : Option ChannelRef

namespace Endpoint

/-- Runs the handler, inside its advice, for one message. -/
def invoke (e : Endpoint) (m : Message) : Run Outcome :=
  e.handler.advised e.advice e.info m

def inspect (e : Endpoint) : String :=
  Text.Inspect.record "Endpoint"
    [ ("id", Text.Inspect.quoted e.info.id), ("kind", e.info.kind.inspect),
      ("declared_type", e.type.inspect), ("advice_chain", toString e.advice.length),
      ("poller", Text.Inspect.optional (e.poller.map Poller.inspect)),
      ("output_channel", Text.Inspect.optional (e.output.map ChannelRef.inspect)) ]

end Endpoint

/-- A stage of a flow: the channel it consumes, and the endpoint. -/
structure FlowStage where
  input : ChannelRef
  endpoint : Endpoint

def FlowStage.withOutput (stage : FlowStage) (ref : ChannelRef) : FlowStage :=
  { stage with endpoint := { stage.endpoint with output := some ref } }

def FlowStage.inspect (stage : FlowStage) : String :=
  Text.Inspect.record "FlowStage"
    [("input", stage.input.inspect), ("endpoint", stage.endpoint.inspect)]

end MessageFlow
