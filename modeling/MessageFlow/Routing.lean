import MessageFlow.Channel.Ref
import MessageFlow.DataType

/-!
# Routing

How a router turns the key of a message into a channel. A key that was mapped goes to the channel
of its last mapping (`channelFor_map_self`); every other key names a channel itself, between the
texts that the router puts before and after it.
-/

namespace MessageFlow

variable [PayloadTypes]

/-- A type of keys: they can be compared, and each has the text that stands in channel names. -/
structure KeyType where
  type : DataType
  equal : DecidableEq type.denote
  text : type.denote → String

namespace KeyType

/-- The keys of a type. -/
@[reducible] def denote (key : KeyType) : Type :=
  key.type.denote

instance (key : KeyType) : DecidableEq key.denote :=
  key.equal

/-- Texts as keys. -/
@[reducible] def string : KeyType :=
  ⟨.string, inferInstanceAs (DecidableEq String), id⟩

end KeyType

/-- The choices of a router. -/
structure Routing (key : KeyType) where
  mappings : List (key.denote × ChannelRef)
  /-- Where messages go whose channel does not exist. -/
  fallback : Option ChannelRef
  /-- Whether it is a failure if neither exists. -/
  required : Bool
  /-- What stands before an unmapped key in the name of its channel. -/
  before : String
  /-- What stands after it. -/
  after : String

namespace Routing

variable {key : KeyType}

/-- Nothing is mapped, and every key must have its channel. -/
def standard : Routing key := ⟨[], none, true, "", ""⟩

/-- Sends a key to a channel, whatever it was mapped to before. -/
def map (r : Routing key) (k : key.denote) (channel : ChannelRef) : Routing key :=
  -- Earlier mappings of the key are dropped, so that keys are mapped at most once.
  { r with mappings := (k, channel) :: r.mappings.filter (·.1 != k) }

/-- The channel of a key. -/
def channelFor (r : Routing key) (k : key.denote) : ChannelRef :=
  match r.mappings.lookup k with
  | some channel => channel
  | none => .named (r.before ++ key.text k ++ r.after)

/-- The last mapping of a key counts. -/
theorem channelFor_map_self (r : Routing key) (k : key.denote) (channel : ChannelRef) :
    (r.map k channel).channelFor k = channel := by
  simp [channelFor, map]

end Routing

end MessageFlow
