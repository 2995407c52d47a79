import MessageFlow.Composer.Wiring

/-!
# Composers

A composer changes a flow definition step by step and may fail at any of them. A failure keeps the
changes made before it, so a composer that catches one goes on from there. A single step that fails
makes no change, except that `convert` has made its target known by then.
-/

namespace MessageFlow.Composer

variable [PayloadTypes]

open Change (ask)

/-- The type that was declared for a stage, which must be there. -/
def declared (kind : StageKind) : Option DataType → Composer DataType
  | some type => return type
  | none => throw (.typeResolution kind .undeclared)

/-! ## Stages -/

/-- Appends a transformation of payloads. -/
def transform (input output : DataType) (f : input.denote → Run (Except Cause output.denote))
    (spec : EndpointSpec) : Composer Unit :=
  append .transform input (.transform input output f) spec

/-- Appends a transformation of whole payloads of a declared type. -/
def transformPayload (input : Option DataType) (f : Payload → Run Payload) : Composer Unit := do
  let type ← declared .transform input
  append .transform type (.transformPayload type f) .standard

def filter (input : DataType) (accepts : input.denote → Run Bool) (spec : FilterSpec) :
    Composer Unit :=
  append .filter input (.filter input accepts spec.rejection) spec.endpoint

/-- Appends a filter of whole payloads of a declared type. -/
def filterPayload (input : Option DataType) (accepts : Payload → Run Bool) : Composer Unit := do
  let type ← declared .filter input
  append .filter type (.filterPayload type accepts .drop) .standard

def split (input item : DataType) (f : input.denote → Run (List item.denote))
    (spec : SplitterSpec) : Composer Unit :=
  append .split input (.split input item f spec.sequenced) spec.endpoint

def route (input : DataType) {key : KeyType} (f : input.denote → Run key.denote)
    (spec : RouterSpec key) : Composer Unit :=
  append .route input (.route input f spec.routing) spec.endpoint

/-- Makes a target of conversions known. -/
def registerConverter (target : ConvertTarget) : Composer Unit :=
  modify fun d => { d with converters := d.converters.register target }

/-- Appends a conversion. Its target becomes known first. -/
def convert (target : ConvertTarget) (spec : EndpointSpec) : Composer Unit := do
  registerConverter target
  append .convert target.type target.handler spec

/-- Appends a conversion into a declared type whose target is known. -/
def convertTo (type : Option DataType) : Composer Unit := do
  let type ← declared .convert type
  match (← get).converters.get type with
  | some target => append .convert type target.handler .standard
  | none => throw (.typeResolution .convert (.noConverter type.name))

def handle (input : DataType) (f : input.denote → Run Unit) (spec : EndpointSpec) :
    Composer Unit :=
  append .handle input (.handle input f) spec

/-- Appends a stage that lets every message pass. -/
def bridge (spec : EndpointSpec) : Composer Unit :=
  append .bridge .payload .bridge spec

/-- Appends a stage that logs every message. -/
def log (level : Level) (category : String) : Composer Unit :=
  append .log .payload (.log level category) .standard

/-! ## Components and the cursor -/

def addComponent (component : FlowComponent) (name : Option String) : Composer Nat := do
  ask fun d => d.checkComponent component
  registering (.add component name)

/-- Registers a batch of components, all or none. -/
def addComponents (batch : List (FlowComponent × Option String)) : Composer (List Nat) := do
  ask fun d => batch.forM fun entry => d.checkComponent entry.1
  registering (.addAll batch)

/-- Moves the cursor to a channel, or off a channel. -/
def setChannel (ref : Option ChannelRef) : Composer Unit :=
  modify fun d =>
    match ref, d.cursor with
    | some ref, _ => d.onChannel ref
    | none, .channel _ => { d with cursor := .empty }
    | none, _ => d

/-- Moves the cursor to a component, or off a component. -/
def setComponent (place : Option Nat) : Composer Unit := do
  let d ← get
  match place, d.cursor with
  | some place, _ =>
    if (d.components.get place).isNone then
      throw (.invalidCursor (.unregistered (placeText place)))
    else set { d with cursor := .component place }
  | none, .component _ => set { d with cursor := .empty }
  | none, _ => return ()

/-- Says whether the output of the current component awaits an anonymous channel. -/
def setImplicit (implicit : Bool) : Composer Unit :=
  modify fun d => { d with implicit := implicit }

end MessageFlow.Composer
