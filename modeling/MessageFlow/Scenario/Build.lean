import MessageFlow.Scenario.Catalogue.Functions
import MessageFlow.Composition
import MessageFlow.Scenario.Options

/-!
# Building in scenarios

The steps by which a scenario composes a flow, the report of what each of them changed, and the
description of a finished flow.
-/

namespace MessageFlow.Scenario

/-- A step of a build. -/
structure BuildStep where
  /-- What it does, and what it returns. -/
  act : Composer Json
  /-- Whether its failure ends the build. -/
  isFinal : Bool

namespace BuildStep

/-- A step whose failure does not end the build. -/
def ofComposer (act : Composer Json) : BuildStep := ⟨act, false⟩

/-- A step that returns nothing. -/
def quiet (act : Composer Unit) : BuildStep :=
  ofComposer do
    act
    return .string "ok"

/-- A step that nobody knows. -/
def unknown : BuildStep :=
  quiet (throw (.composition (.text "unknown step")))

/-- The step that a value gives, if it is there. -/
def given {α : Type} (a : Option α) (step : α → BuildStep) : BuildStep :=
  (a.map step).getD unknown

end BuildStep

open BuildStep in
/-- Reads a step that appends a stage for payloads of a type. -/
def readTypedStep (live : Instances) (args : Catalogue.Arguments) (j : Json) (type : DataType) :
    Run BuildStep := do
  let function := j.textAt "fn"
  let options := j.field "spec"
  match j.textAt "op" with
  | "transform" => do
    let spec ← readSpec live options
    return given (Catalogue.notedTransformation? args type function) fun t =>
      quiet (Composer.transform type t.output t.apply spec)
  | "filter" => do
    let spec ← readFilterSpec live options
    return given (Catalogue.notedPredicate? args type function) fun accepts =>
      quiet (Composer.filter type accepts spec)
  | "split" => do
    let spec ← readSpec live options
    return given (Catalogue.notedSplitting? type function) fun s =>
      quiet (Composer.split type s.1 s.2 ⟨spec, options.flagAt "apply_sequence" true⟩)
  | "route" =>
    match Catalogue.routeKey? args type function with
    | none => return unknown
    | some route => do
      let spec ← readSpec live options
      let routing ← readRouting live route.key options
      return quiet (Composer.route type (Catalogue.notedRouteKey function route) ⟨spec, routing⟩)
  | "convert" => do
    let spec ← readSpec live options
    return given (ConvertTarget.ofType? type) fun target => quiet (Composer.convert target spec)
  | "register_converter" =>
    return given (ConvertTarget.ofType? type) fun target =>
      quiet (Composer.registerConverter target)
  | "handle" => do
    let spec ← readSpec live options
    return quiet (Composer.handle type (Catalogue.consumer type) spec)
  | _ => return unknown

/-- Moves the cursor to a component: to one of a name, to a place, or off all of them. -/
def moveTo (component : Json) : Composer Json := do
  match component.text? with
  | some name =>
    match (← get).components.find name with
    | none => return .string "no such name"
    | some place => Composer.setComponent (some place)
  | none => Composer.setComponent component.nat?
  return .string "ok"

open BuildStep in
def readBuildStep (live : Instances) (j : Json) : Run BuildStep := do
  let counter ← Run.newCounter
  let args : Catalogue.Arguments :=
    { number := (j.field "n").int?.getD 0, text := j.textAt "s", counter := counter }
  match j.textAt "op" with
  | "convert_to" => return quiet (Composer.convertTo (typeAt? j "p"))
  | "transform_payload" =>
    return given (Catalogue.notedPayloadFunction? args (j.textAt "fn")) fun f =>
      quiet (Composer.transformPayload (typeAt? j "p") f)
  | "filter_payload" =>
    return given (Catalogue.notedPayloadPredicate? (j.textAt "fn")) fun accepts =>
      quiet (Composer.filterPayload (typeAt? j "p") accepts)
  | "bridge" => return quiet (Composer.bridge (← readSpec live (j.field "spec")))
  | "log" => return quiet (Composer.log (readLevel (j.textAt "level")) args.text)
  | "channel" => return quiet (Composer.channel (← readRef live (j.field "channel")))
  | "set_channel" => return quiet (Composer.setChannel (← readRef? live (j.field "channel")))
  | "set_implicit" => return quiet (Composer.setImplicit (j.flagAt "v" false))
  | "set_component" => return ofComposer (moveTo (j.field "component"))
  | "add_component" => do
    let component ← readComponent live (j.field "component")
    return ofComposer do
      return .string (placeText (← Composer.addComponent component (j.textAt? "name")))
  | "add_components" => do
    let batch ← readBatch live j
    return ofComposer do
      return .list .ofNat (← Composer.addComponents batch)
  | "endpoint" =>
    return ofComposer do
      let d ← get
      return .optional (fun e => .string e.inspect) ((j.natAt? "component").bind d.endpoint)
  | "debug" =>
    return ofComposer do
      let d ← get
      return .string d.inspect
  | "fail" => return ⟨throw (.composition (.text args.text)), true⟩
  | _ =>
    match typeAt? j "p" with
    | some type => readTypedStep live args j type
    | none => return unknown

/-! ## Reports -/

/-- How much of a build is reported. -/
structure Detail where
  /-- Whether components, outputs and stages are left out. -/
  isTerse : Bool
  /-- The level of the log events that are shown. -/
  asked : Option Level

def cursorJson : Cursor → Json
  | .channel ref => .ofMembers [("channel", refJson ref)]
  | .component place => .ofMembers [("component", .ofNat place)]
  | .empty => .string "empty"

/-- Writes the outputs of all registered stages. -/
def outputsJson (d : FlowDefinition) : Json :=
  .list (fun (e : Endpoint) => .array [.string e.info.id, .optional refJson e.output])
    ((List.range d.components.size).filterMap d.endpoint)

/-- Reports what a step returned and where it left the definition; components are shown from the
place `before` on. -/
def report (detail : Detail) (before : Nat) (d : FlowDefinition) (result : Json) : Json :=
  let added :=
    if before < d.components.size then [("added", componentsJson d.components before)] else []
  .ofMembers <|
    [ ("result", result), ("len", .ofNat d.stages.length), ("implicit", .bool d.implicit),
      ("cursor", cursorJson d.cursor) ]
    ++ (if detail.isTerse then [] else [("outputs", outputsJson d)] ++ added)
    ++ traceMember detail.asked (d.events.map Entry.logged)

def reportStart (detail : Detail) (d : FlowDefinition) : Json :=
  report detail 0 d
    (.ofMembers [("id", .string d.id), ("empty", .bool d.stages.isEmpty)])

/-- Runs the steps of a build: the reports, how the build ended, and the definition. With `strict`
the first failure ends it. -/
def build (detail : Detail) (strict : Bool) :
    List BuildStep → FlowDefinition → List Json × Except Failure Unit × FlowDefinition
  | [], d => ([], .ok (), d)
  | step :: rest, d =>
    let (result, changed) := step.act.exec { d with events := [] }
    let shown := report detail d.components.size changed
    match result with
    | .ok returned =>
      let (reports, ended) := build detail strict rest changed
      (shown returned :: reports, ended)
    | .error failure =>
      if strict || step.isFinal then ([shown (failureJson failure)], .error failure, changed)
      else
        let (reports, ended) := build detail strict rest changed
        (shown (failureJson failure) :: reports, ended)

def stageJson (stage : FlowStage) : Json :=
  let e := stage.endpoint
  .ofMembers
    [ ("input", refJson stage.input), ("id", .string e.info.id),
      ("kind", .string e.info.kind.name), ("type", .string e.type.name),
      ("output", .optional refJson e.output), ("advice", .ofNat e.advice.length),
      ("poller", .optional pollerJson e.poller) ]

def flowJson (detail : Detail) (flow : Flow) : Json :=
  .ofMembers <|
    [ ("id", .string flow.id), ("source", .string flow.source.inspect),
      ("input", refJson flow.input), ("output", .optional refJson flow.output),
      ("len", .ofNat flow.stages.length), ("empty", .bool flow.stages.isEmpty),
      ("poller", pollerJson flow.poller) ]
    ++ if detail.isTerse then []
      else
        [ ("components", componentsJson flow.components 0),
          ("stages", .list stageJson flow.stages) ]

end MessageFlow.Scenario
