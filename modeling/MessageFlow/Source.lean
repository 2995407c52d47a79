import MessageFlow.Poller
import MessageFlow.Run

/-!
# Sources

Where the messages of a flow come from: a channel, a source that is polled, a stream that is
published once, a gateway for requests, or a producer that is subscribed to. Nothing is polled or
subscribed until a runner starts the flow. That a stream was taken is kept in a counter of the
world, which is shared by all flows that were given the same publisher.
-/

namespace MessageFlow

variable [PayloadTypes]

/-- Options of the adapter that polls a source. -/
structure AdapterSpec where
  /-- The name the source is registered under. -/
  id : Option String
  /-- Its poller; the configured one if there is none. -/
  poller : Option Poller
  deriving DecidableEq, Repr

structure GatewaySpec where
  /-- The name the gateway is registered under. -/
  beanName : Option String
  /-- How long a request waits for its reply. -/
  replyTimeout : Span
  /-- Where the failure of a request goes, if not to the caller. -/
  errorChannel : Option ChannelRef

/-- Requests wait for one second, and their failures go to the caller. -/
def GatewaySpec.standard : GatewaySpec := ⟨none, .ofMillis 1000, none⟩

/-- Where the messages of a flow come from. -/
inductive Source where
  /-- A channel known by name. A fixed-subscriber channel has exactly one consuming stage. -/
  | channel (name : String) (fixedSubscriber : Bool)
  /-- A live channel. -/
  | live (ref : LiveRef)
  /-- A source that is polled: each time it has a message or none. -/
  | polling (receive : Run (Option Message)) (adapter : AdapterSpec)
  /-- A stream that can be taken once; a counter knows whether it was. -/
  | publisher (counter : Nat) (feed : Feed)
  /-- A service that turns calls into requests. -/
  | gateway (service : DataType) (spec : GatewaySpec)
  /-- A producer that opens a stream for each subscriber. -/
  | producer (name : String) (subscribe : Run Feed)

namespace Source

/-- The channel that the source is. -/
def channelRef : Source → Option ChannelRef
  | channel name _ => some (.named name)
  | live ref => some (.live ref)
  | _ => none

/-- Whether the source is a fixed-subscriber channel. -/
def isFixedSubscriber : Source → Bool
  | channel _ isFixed => isFixed
  | _ => false

/-- The name the source is registered under. -/
def componentName : Source → Option String
  | polling _ adapter => adapter.id
  | gateway _ spec => spec.beanName
  | _ => none

/-- What the source is, in words. -/
def describe : Source → String
  | channel name true => "fixed-subscriber channel '" ++ name ++ "'"
  | channel name false => "channel '" ++ name ++ "'"
  | live ref => "channel '" ++ ref.name ++ "'"
  | polling _ ⟨some id, _⟩ => "polling source '" ++ id ++ "'"
  | polling _ ⟨none, _⟩ => "polling source"
  | publisher .. => "publisher"
  | gateway service _ => "gateway for " ++ service.name
  | producer name _ => "producer '" ++ name ++ "'"

def inspect (source : Source) : String :=
  Text.Inspect.variant "FlowSource" source.describe

/-- Takes the stream of a publisher, which is there only once. -/
def takePublisher : Source → Run (Option Feed)
  | publisher counter feed => do
    let taken ← Run.count counter
    return if taken = 0 then some feed else none
  | _ => return none

/-- The poller that drives the flow: the source's own, or the given one. -/
def poller (configured : Poller) : Source → Poller
  | polling _ adapter => adapter.poller.getD configured
  | _ => configured

end Source

end MessageFlow
