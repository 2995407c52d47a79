import MessageFlow.Routing
import MessageFlow.Run

/-!
# Handlers

What each kind of stage does with one message. A stage declares the type of its input; a message
that holds anything else fails before the stage function is called. Functions act on the world, so
they may count, note or send; most are pure.
-/

namespace MessageFlow

variable [PayloadTypes]

/-- What a stage does with a message. -/
abbrev Handler := StageInfo → Message → Run Outcome

/-- What a filter does with the messages it rejects. -/
structure Rejection where
  /-- Where they go, if anywhere. -/
  channel : Option ChannelRef
  /-- Whether a rejection is a failure. -/
  raises : Bool
  deriving Repr

/-- Rejected messages vanish. -/
def Rejection.drop : Rejection := ⟨none, false⟩

namespace Handler

/-- Replaces a payload by what the function makes of it; the function may fail. -/
def transform (input output : DataType)
    (f : input.denote → Run (Except Cause output.denote)) : Handler := fun stage m => do
  let value ← Run.expect stage input m
  match ← f value with
  | .ok result => return .reply (← Run.reply m (.of output result))
  | .error cause => throw (.handler stage cause)

/-- Fails unless the payload of a message is of the declared type. -/
def check (stage : StageInfo) (input : DataType) (m : Message) : Run Unit :=
  if m.payload.is input then return ()
  else throw (.payloadType stage input.name m.payload.type.name)

/-- Replaces a payload of the declared type by what the function makes of it. -/
def transformPayload (input : DataType) (f : Payload → Run Payload) : Handler := fun stage m => do
  check stage input m
  let result ← f m.payload
  return .reply (← Run.reply m result)

def reject (rejection : Rejection) : Handler := fun stage m =>
  if rejection.raises then throw (.rejected stage m.id)
  else do
    Run.log (.rejected stage m.id)
    return .discard m rejection.channel

/-- Lets the accepted messages pass. -/
def filter (input : DataType) (accepts : input.denote → Run Bool) (rejection : Rejection) :
    Handler := fun stage m => do
  let value ← Run.expect stage input m
  if ← accepts value then return .reply m else reject rejection stage m

/-- Lets the accepted messages of the declared type pass. -/
def filterPayload (input : DataType) (accepts : Payload → Run Bool) (rejection : Rejection) :
    Handler := fun stage m => do
  check stage input m
  if ← accepts m.payload then return .reply m else reject rejection stage m

/-- The messages for the parts of `whole`, numbered from `number` on if they are to be sequenced. -/
def parts (whole : Message) (sequenced : Bool) (size : Nat) : (number : Nat) → List Payload →
    Run (List Message)
  | _, [] => return []
  | number, payload :: rest => do
    let part ← Run.reply whole payload
    let part := if sequenced then part.asPart whole.id number size else part
    return part :: (← parts whole sequenced size (number + 1) rest)

/-- Turns one message into one message for each item that the function makes of its payload. -/
def split (input item : DataType) (f : input.denote → Run (List item.denote))
    (sequenced : Bool) : Handler := fun stage m => do
  let value ← Run.expect stage input m
  let items ← f value
  return .many (← parts m sequenced items.length 1 (items.map (Payload.of item)))

/-- Chooses a channel by the key that the function computes from the payload. -/
def route (input : DataType) {key : KeyType} (f : input.denote → Run key.denote)
    (routing : Routing key) : Handler := fun stage m => do
  let value ← Run.expect stage input m
  let k ← f value
  let channel := routing.channelFor k
  Run.log (.routing stage (key.text k) channel.name)
  return .route ⟨m, channel, routing.fallback, routing.required⟩

def handle (input : DataType) (f : input.denote → Run Unit) : Handler := fun stage m => do
  let value ← Run.expect stage input m
  f value
  return .done

/-- Lets every message pass. -/
def bridge : Handler := fun _ m => return .reply m

/-- Lets every message pass and logs it. -/
def log (level : Level) (category : String) : Handler := fun stage m => do
  Run.log (.message level category stage m.id m.payload.type)
  return .reply m

end Handler

end MessageFlow
