import MessageFlow.Json.Fault
import MessageFlow.Message.Id
import MessageFlow.Stage

/-!
# Failures

Everything that can go wrong while a flow is composed and while messages run through it, as causes
with the data that explain them, and one function that words them.
-/

namespace MessageFlow

/-- Why the declared type of a stage cannot be resolved. -/
inductive TypeFault where
  | undeclared
  | noConverter (type : String)
  | other (reason : String)
  deriving DecidableEq, Repr

def TypeFault.text : TypeFault → String
  | undeclared => "no input type was declared"
  | noConverter type => "no converter registered for " ++ type
  | other reason => reason

/-- Why a stage or channel cannot be attached, or a flow cannot be finished. -/
inductive CursorFault where
  /-- The flow has nothing to attach to. -/
  | nowhere (flow : String)
  | unregistered (component : String)
  | producesNothing (component : String)
  | unconnectable (component channel : String)
  | alreadySubscribed (channel : String)
  | noSuchStage (index : Nat)
  | secondSource
  | noSubscriber (flow : String)
  | sourceUnconnected (flow : String)
  | noStages (flow : String)
  | unresolvableInput (stage : String)
  | other (reason : String)
  deriving DecidableEq, Repr

def CursorFault.text : CursorFault → String
  | nowhere flow => "flow '" ++ flow ++ "' has no current channel or component to attach to"
  | unregistered component => component ++ " is not registered"
  | producesNothing component => component ++ " produces no messages"
  | unconnectable component channel =>
    "cannot connect " ++ component ++ " to channel '" ++ channel ++ "'"
  | alreadySubscribed channel =>
    "fixed-subscriber channel '" ++ channel ++ "' already has a subscriber"
  | noSuchStage index => "no stage at index " ++ toString index
  | secondSource => "a flow has exactly one source"
  | noSubscriber flow =>
    "flow '" ++ flow ++ "' starts from a fixed-subscriber channel but has no subscriber stage"
  | sourceUnconnected flow =>
    "the source of flow '" ++ flow ++ "' is not connected to any stage or channel"
  | noStages flow => "flow '" ++ flow ++ "' has no stages"
  | unresolvableInput stage => "stage '" ++ stage ++ "' has no resolvable input channel"
  | other reason => reason

/-- Why a flow cannot be started or stopped. -/
inductive LifecycleFault where
  | stopped (flow : String)
  | running (flow : String)
  | publisherConsumed (flow : String)
  | other (reason : String)
  deriving DecidableEq, Repr

def LifecycleFault.text : LifecycleFault → String
  | stopped flow => "flow '" ++ flow ++ "' was stopped and cannot be restarted"
  | running flow => "flow '" ++ flow ++ "' is already running"
  | publisherConsumed flow => "the publisher of flow '" ++ flow ++ "' was already consumed"
  | other reason => reason

mutual

/-- A failure of composition or dispatch. -/
inductive Failure where
  /-- A declared type is missing or unusable. -/
  | typeResolution (stage : StageKind) (fault : TypeFault)
  /-- A name is taken. -/
  | duplicateName (name : String)
  /-- A stage or channel has no predecessor, or the flow cannot be finished. -/
  | invalidCursor (fault : CursorFault)
  /-- The composition itself failed. -/
  | composition (cause : Cause)
  /-- A payload could not be decoded. -/
  | conversion (target held : String) (cause : Cause)
  /-- A payload is not of the declared type. -/
  | payloadType (stage : StageInfo) (expected held : String)
  /-- A filter that raises on rejection rejected a message. -/
  | rejected (stage : StageInfo) (message : MessageId)
  /-- No channel has this name. -/
  | destination (name : String)
  /-- A stage function failed. -/
  | handler (stage : StageInfo) (cause : Cause)
  /-- A channel takes no more messages. -/
  | channelClosed (name : String)
  /-- A configuration document was refused. -/
  | config (refusal : Json.Refusal)
  /-- A source or runner could not be started. -/
  | lifecycle (fault : LifecycleFault)

/-- What a failure wraps: a text, a refused document, or another failure. -/
inductive Cause where
  | text (s : String)
  | json (refusal : Json.Refusal)
  | failure (inner : Failure)

end

mutual

def Failure.message : Failure → String
  | .typeResolution stage fault =>
    "cannot resolve the declared type of a " ++ stage.name ++ " stage: " ++ fault.text
  | .duplicateName name => "a component named '" ++ name ++ "' is already registered in this flow"
  | .invalidCursor fault => "invalid flow cursor: " ++ fault.text
  | .composition cause => "flow composition failed: " ++ cause.message
  | .conversion target held cause =>
    "cannot convert " ++ held ++ " payload to " ++ target ++ ": " ++ cause.message
  | .payloadType stage expected held =>
    stage.text ++ " expects a " ++ expected ++ " payload but received " ++ held
  | .rejected stage id => "message " ++ id.text ++ " rejected by " ++ stage.text
  | .destination name => "no channel could be resolved for '" ++ name ++ "'"
  | .handler stage cause => "error in " ++ stage.text ++ ": " ++ cause.message
  | .channelClosed name => "channel '" ++ name ++ "' is closed"
  | .config refusal => "invalid configuration: " ++ refusal.message
  | .lifecycle fault => "lifecycle error: " ++ fault.text

def Cause.message : Cause → String
  | .text s => s
  | .json refusal => refusal.message
  | .failure inner => inner.message

end

/-- What a failure wraps, if it wraps something. -/
def Failure.cause? : Failure → Option Cause
  | .composition cause | .conversion _ _ cause | .handler _ cause => some cause
  | .config refusal => some (.json refusal)
  | _ => none

inductive FailureKind where
  | typeResolution
  | duplicateName
  | invalidCursor
  | composition
  | conversion
  | payloadType
  | rejected
  | destination
  | handler
  | channelClosed
  | config
  | lifecycle
  deriving DecidableEq, Repr

def Failure.kind : Failure → FailureKind
  | .typeResolution .. => .typeResolution
  | .duplicateName _ => .duplicateName
  | .invalidCursor _ => .invalidCursor
  | .composition _ => .composition
  | .conversion .. => .conversion
  | .payloadType .. => .payloadType
  | .rejected .. => .rejected
  | .destination _ => .destination
  | .handler .. => .handler
  | .channelClosed _ => .channelClosed
  | .config _ => .config
  | .lifecycle _ => .lifecycle

/-- The name of a kind of failure, as reports show it. -/
def FailureKind.name : FailureKind → String
  | .typeResolution => "TypeResolution"
  | .duplicateName => "DuplicateComponentName"
  | .invalidCursor => "InvalidCursor"
  | .composition => "CompositionFailure"
  | .conversion => "Conversion"
  | .payloadType => "PayloadType"
  | .rejected => "MessageRejected"
  | .destination => "DestinationResolution"
  | .handler => "Handler"
  | .channelClosed => "ChannelClosed"
  | .config => "Config"
  | .lifecycle => "Lifecycle"

end MessageFlow
