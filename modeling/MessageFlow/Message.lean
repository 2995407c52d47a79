import MessageFlow.Message.Headers
import MessageFlow.Message.Payload

/-!
# Messages

A message is an id, a payload and headers. What a stage emits for a message is a new message with
a fresh id that keeps the other headers.
-/

namespace MessageFlow

variable [PayloadTypes]

structure Message where
  id : MessageId
  payload : Payload
  headers : Headers

namespace Message

/-- A message with a custom header set. -/
def withHeader (m : Message) (name value : String) : Message :=
  { m with headers := { m.headers with custom := m.headers.custom.set name value } }

/-- A message of the given media type. -/
def withContentType (m : Message) (contentType : String) : Message :=
  { m with headers := { m.headers with contentType := some contentType } }

/-- A message whose reply goes to the channel. -/
def withReplyChannel (m : Message) (channel : ChannelRef) : Message :=
  { m with headers := { m.headers with replyChannel := some channel } }

/-- A message that is part `number` of the `size` parts of message `whole`. -/
def asPart (m : Message) (whole : MessageId) (number size : Nat) : Message :=
  { m with headers :=
    { m.headers with
      correlationId := some whole
      sequenceNumber := some number
      sequenceSize := some size } }

/-- A message without a media type. -/
def withoutContentType (m : Message) : Message :=
  { m with headers := { m.headers with contentType := none } }

/-- The message with another payload, under a new id and as of another time. -/
def replaced (m : Message) (id : MessageId) (timestamp : Nat) (payload : Payload) : Message :=
  { id := id, payload := payload, headers := { m.headers with timestamp := timestamp } }

end Message

end MessageFlow
