import MessageFlow.Scenario.Catalogue.Sources
import MessageFlow.Scenario.Options

/-!
# Sources in scenarios

A source is an object whose first member says what it is: a channel by name, a fixed-subscriber
channel, a live channel, values or a script to be polled, numbers from one on, a published stream, a
gateway, or a producer.
-/

namespace MessageFlow.Scenario

/-- Reads the options of a polling adapter. -/
def readAdapter (j : Json) : AdapterSpec :=
  ⟨j.textAt? "id", readPollerAt? j "poller"⟩

/-- The service of a name: one of the two sample services, or a payload type. -/
def service : (name : String) → DataType
  | "Greeter" => .service "oracle_driver::Greeter"
  | "Pricing" => .service "oracle_driver::Pricing"
  | tag => (type? tag).getD .unit

/-- Reads the options of a gateway. -/
def readGateway (live : Instances) (j : Json) : Run GatewaySpec := do
  let errorChannel ← readRef? live (j.field "error_channel")
  return {
    beanName := j.textAt? "bean_name"
    replyTimeout :=
      ((j.natAt? "reply_timeout_ms").map Span.ofMillis).getD GatewaySpec.standard.replyTimeout
    errorChannel := errorChannel }

/-- Reads an entry of a script: a message, or that nothing is there. -/
def readScriptEntry (live : Instances) (j : Json) : Run (Option Message) :=
  match j.present? with
  | some entry => some <$> readMessage live entry
  | none => return none

def readSource (live : Instances) (j : Json) : Run Source := do
  let adapter := readAdapter (j.field "adapter")
  if let some name := j.textAt? "channel" then return .channel name false
  if let some name := j.textAt? "fixed" then return .channel name true
  if let some i := (j.field "instance").present? then return .live (← instanceOf live i)
  if let some type := typeAt? j "iter" then
    let values := (j.itemsAt "items").filterMap fun v => (readValue v type).map (Payload.of type)
    return ← Catalogue.payloads values adapter
  if let some entries := (j.field "script").present? then
    return ← Catalogue.script (← entries.items.mapM (readScriptEntry live)) adapter
  if let some first := (j.field "supplier").int? then return ← Catalogue.counting first adapter
  if let some messages := (j.field "publisher").present? then
    let messages ← messages.items.mapM (readMessage live)
    return ← Catalogue.stream (.spaced ((j.natAt? "gap_ms").getD 0) messages)
  if let some name := j.textAt? "gateway" then
    return .gateway (service name) (← readGateway live (j.field "spec"))
  return Catalogue.producer (j.textAt "producer") (← (j.itemsAt "items").mapM (readMessage live))

end MessageFlow.Scenario
