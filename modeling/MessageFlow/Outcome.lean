import MessageFlow.Message

/-!
# Outcomes

What a stage produced for one message.
-/

namespace MessageFlow

variable [PayloadTypes]

/-- A router's choice for one message. -/
structure RouteDecision where
  message : Message
  /-- The channel of the routing key. -/
  channel : ChannelRef
  /-- Where the message goes if that channel does not exist. -/
  fallback : Option ChannelRef
  /-- Whether it is a failure if neither exists. -/
  required : Bool

/-- What a stage produced for one message. -/
inductive Outcome where
  /-- One message goes on. -/
  | reply (message : Message)
  /-- Each of these messages goes on. -/
  | many (messages : List Message)
  /-- The message was rejected; it goes to the channel, or nowhere. -/
  | discard (message : Message) (channel : Option ChannelRef)
  /-- The message goes where a router decided. -/
  | route (decision : RouteDecision)
  /-- The message was consumed. -/
  | done

inductive OutcomeKind where
  | reply
  | many
  | discard
  | route
  | done
  deriving DecidableEq, Repr

def Outcome.kind : Outcome → OutcomeKind
  | .reply _ => .reply
  | .many _ => .many
  | .discard .. => .discard
  | .route _ => .route
  | .done => .done

/-- The name of a kind of outcome. -/
def OutcomeKind.name : OutcomeKind → String
  | .reply => "reply"
  | .many => "many"
  | .discard => "discard"
  | .route => "route"
  | .done => "done"

end MessageFlow
