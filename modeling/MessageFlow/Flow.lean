import MessageFlow.Component
import MessageFlow.Endpoint
import MessageFlow.Source

/-!
# Flows

The finished result of a composition: where messages come from, the stages with the channels they
consume, and the channels at both ends.
-/

namespace MessageFlow

variable [PayloadTypes]

structure Flow where
  id : String
  source : Source
  /-- The channel that messages enter by. -/
  input : ChannelRef
  /-- The channel that the last stage sends to. -/
  output : Option ChannelRef
  /-- In the order of composition. -/
  stages : List FlowStage
  components : ComponentRegistry
  /-- What drives a source that is polled. -/
  poller : Poller

namespace Flow

def stage (flow : Flow) (id : String) : Option FlowStage :=
  flow.stages.find? (·.endpoint.info.id == id)

/-- The stages that consume a channel of a name, in the order of composition. -/
def consumers (flow : Flow) (name : String) : List FlowStage :=
  flow.stages.filter (·.input.name == name)

def inspect (flow : Flow) : String :=
  Text.Inspect.record "Flow"
    [ ("id", Text.Inspect.quoted flow.id), ("source", flow.source.inspect),
      ("input_channel", flow.input.inspect),
      ("output_channel", Text.Inspect.optional (flow.output.map ChannelRef.inspect)),
      ("stages", Text.Inspect.list (flow.stages.map FlowStage.inspect)),
      ("components", toString flow.components.size) ]

end Flow

end MessageFlow
