import MessageFlow.Run

/-!
# Channel registries

A registry turns names into live channels. A name is registered at most once; references to live
channels need no registration.
-/

namespace MessageFlow

variable [PayloadTypes]

/-- Live channels by name. -/
structure ChannelRegistry where
  entries : List (String × LiveRef)

namespace ChannelRegistry

def empty : ChannelRegistry := ⟨[]⟩

def get (r : ChannelRegistry) (name : String) : Option LiveRef :=
  r.entries.lookup name

def contains (r : ChannelRegistry) (name : String) : Bool :=
  (r.get name).isSome

/-- Registers a live channel under its own name. -/
def register (r : ChannelRegistry) (channel : LiveRef) : Except Failure ChannelRegistry :=
  if r.contains channel.name then .error (.duplicateName channel.name)
  else .ok ⟨r.entries ++ [(channel.name, channel)]⟩

/-- Opens a queue and registers it. -/
def queue (r : ChannelRegistry) (name : String) : Run (LiveRef × ChannelRegistry) := do
  let channel ← Run.openQueue name
  match r.register channel with
  | .ok r => return (channel, r)
  | .error failure => throw failure

/-- The live channel a reference stands for: itself, or the one registered under its name. -/
def resolve (r : ChannelRegistry) : ChannelRef → Option LiveRef
  | .live channel => some channel
  | .named name | .anonymous name => r.get name

/-- The registry as a value: its names, sorted. -/
def inspect (r : ChannelRegistry) : String :=
  let names := (r.entries.map Prod.fst).mergeSort fun a b => a ≤ b
  Text.Inspect.record "ChannelRegistry"
    [("channels", Text.Inspect.list (names.map Text.Inspect.quoted))]

end ChannelRegistry

/-- A queue channel as a value: its name. -/
def LiveRef.inspect (channel : LiveRef) : String :=
  Text.Inspect.record "QueueChannel" [("name", Text.Inspect.quoted channel.name)]

end MessageFlow
