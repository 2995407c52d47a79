import MessageFlow.Scenario.Catalogue.Advice
import MessageFlow.Scenario.Message

/-!
# Options in scenarios

Pollers, error strategies, advice, the options of stages, routing, components and configurations.
-/

namespace MessageFlow.Scenario

def readPoller (j : Json) : Poller :=
  let poller :=
    match j.natAt? "delay_ms" with
    | some ms => Poller.withDelay (.ofMillis ms)
    | none => Poller.standard
  match j.natAt? "max" with
  | some max => poller.withMaxMessages max
  | none => poller

/-- Reads a poller, if a member holds one. -/
def readPollerAt? (j : Json) (name : String) : Option Poller :=
  (j.field name).present?.map readPoller

def pollerJson (p : Poller) : Json :=
  .ofMembers
    [ ("delay_ms", .string (toString p.fixedDelay.millis)),
      ("max", .string (toString p.maxMessages))]

/-- Reads the name of an action. -/
def readAction (j : Json) : ErrorAction :=
  (j.text?.bind Catalogue.action?).getD .stop

def readStrategy (j : Json) : ErrorStrategy :=
  if j.text? == some "skip" then .skip
  else
    match j.natAt? "retry", (j.field "custom").present?, (j.field "by_kind").present? with
    | some limit, _, _ => .retry limit
    | none, some actions, _ => Catalogue.bySequence (actions.items.map readAction)
    | none, none, some (.object actions) =>
      Catalogue.byKind (actions.map fun entry => (entry.1, readAction entry.2))
    | none, none, _ => .stop

def readAdvice (j : Json) : Advice :=
  match j.text? with
  | some name => (Catalogue.advice? name).getD Catalogue.swallowing
  | none =>
    match j.field "strategy", j.textAt? "record", j.field "header", j.field "replace" with
    | .null, some label, _, _ => Advice.recording label
    | .null, none, .null, payload => Catalogue.replacing (readPayload payload)
    | .null, none, pair, _ => Catalogue.setting (readPair pair).1 (readPair pair).2
    | strategy, _, _, _ => (readStrategy strategy).advice

/-- Reads the options of a stage. -/
def readSpec (live : Instances) (j : Json) : Run EndpointSpec := do
  let output ← readRef? live (j.field "output")
  return {
    id := j.textAt? "id"
    advice := (j.itemsAt "advice").map readAdvice
    poller := readPollerAt? j "poller"
    output := output }

/-- Reads the options of a filter. -/
def readFilterSpec (live : Instances) (j : Json) : Run FilterSpec := do
  let endpoint ← readSpec live j
  let channel ← readRef? live (j.field "discard")
  return ⟨endpoint, ⟨channel, j.flagAt "throw" false⟩⟩

/-- Reads the choices of a router. -/
def readRouting (live : Instances) (key : KeyType) (j : Json) : Run (Routing key) := do
  let fallback ← readRef? live (j.field "default")
  let unmapped : Routing key :=
    { mappings := []
      fallback := fallback
      required := j.flagAt "required" true
      before := j.textAt "prefix"
      after := j.textAt "suffix" }
  (j.itemsAt "mappings").foldlM (fun routing entry => do
    match entry with
    | .array [k, ref] =>
      match readValue k key.type with
      | some k => return routing.map k (← readRef live ref)
      | none => return routing
    | _ => return routing) unmapped

def readComponent (live : Instances) (j : Json) : Run FlowComponent := do
  if let some ref ← readRef? live (j.field "channel") then return .channel ref
  if let some index := j.natAt? "endpoint" then return .endpoint index
  if let some description := j.textAt? "source" then return .source description
  return .bean

def readBatch (live : Instances) (j : Json) : Run (List (FlowComponent × Option String)) :=
  (j.itemsAt "batch").mapM fun entry => do
    let component ← readComponent live (entry.field "component")
    return (component, entry.textAt? "name")

/-- Writes the components from a place on. -/
def componentsJson (r : ComponentRegistry) (first : Nat) : Json :=
  .list (fun entry =>
      .array
        [.ofNat entry.2, .string entry.1.1.inspect, .optional .string entry.1.2])
    (r.entries.zipIdx.drop first)

/-- Reads settings: the text of a configuration, or an object of what differs from the standard. -/
def readConfig (j : Json) : Except Failure FlowConfig :=
  match j with
  | .string s => FlowConfig.ofText s
  | j =>
    let base := FlowConfig.standard
    let logging := j.field "logging"
    .ok
      { idPrefix := (j.textAt? "id_prefix").getD base.idPrefix
        defaultPoller := (readPollerAt? j "default_poller").getD base.defaultPoller
        logStages := j.flagAt "log_stages" base.logStages
        logging :=
          { level := (logging.textAt? "level").getD base.logging.level
            json := logging.flagAt "json" base.logging.json } }

end MessageFlow.Scenario
