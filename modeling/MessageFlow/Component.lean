import MessageFlow.Change
import MessageFlow.Channel.Ref

/-!
# Components

What is registered in a flow: channels, stages, the source, and objects that the composer
contributed. Components are known by their place; some also have a name, and a name that is taken
is never given again. A batch is registered one by one once all of its names were found free.
-/

namespace MessageFlow

/-- Something registered in a flow. -/
inductive FlowComponent where
  | channel (ref : ChannelRef)
  /-- The stage at an index. -/
  | endpoint (index : Nat)
  | source (description : String)
  /-- Any other object. -/
  | bean
  deriving Repr

def FlowComponent.inspect : FlowComponent → String
  | channel ref => Text.Inspect.variant "Channel" ref.name
  | endpoint index => Text.Inspect.variant "Endpoint" (toString index)
  | source description => Text.Inspect.variant "Source" description
  | bean => "Bean"

/-- Components in the order in which they were registered, with their names. -/
structure ComponentRegistry where
  entries : List (FlowComponent × Option String)
  /-- The places that names stand for. -/
  names : List (String × Nat)

namespace ComponentRegistry

def empty : ComponentRegistry := ⟨[], []⟩

/-- How many components are registered. -/
def size (r : ComponentRegistry) : Nat :=
  r.entries.length

/-- The component at a place. -/
def get (r : ComponentRegistry) (place : Nat) : Option FlowComponent :=
  r.entries[place]?.map Prod.fst

/-- The name of the component at a place. -/
def name (r : ComponentRegistry) (place : Nat) : Option String :=
  r.entries[place]?.bind Prod.snd

/-- The place of the component of a name. -/
def find (r : ComponentRegistry) (name : String) : Option Nat :=
  r.names.lookup name

def contains (r : ComponentRegistry) (name : String) : Bool :=
  (r.find name).isSome

def channelNamed (r : ComponentRegistry) (name : String) : Option ChannelRef :=
  match (r.find name).bind r.get with
  | some (.channel ref) => some ref
  | _ => none

/-- The registry with one more component. -/
def push (r : ComponentRegistry) (component : FlowComponent) (name : Option String) :
    ComponentRegistry :=
  { entries := r.entries ++ [(component, name)]
    names := (name.map fun name => (name, r.size)).toList ++ r.names }

/-- The first name in a batch that is taken, or that an earlier entry takes. -/
def clash? (r : ComponentRegistry) (seen : List String) :
    List (FlowComponent × Option String) → Option String
  | [] => none
  | (_, none) :: rest => r.clash? seen rest
  | (_, some name) :: rest =>
    if r.contains name || seen.contains name then some name else r.clash? (name :: seen) rest

end ComponentRegistry

abbrev Registering (α : Type) := Change ComponentRegistry α

namespace Registering

/-- Registers a component under a name that is free, or under none. -/
def add (component : FlowComponent) (name : Option String) : Registering Nat := do
  let r ← get
  match name.filter r.contains with
  | some taken => throw (.duplicateName taken)
  | none =>
    set (r.push component name)
    return r.size

/-- Registers a batch of components, after a look at all of their names. -/
def addAll (batch : List (FlowComponent × Option String)) : Registering (List Nat) := do
  match (← get).clash? [] batch with
  | some name => throw (.duplicateName name)
  | none => batch.mapM fun entry => add entry.1 entry.2

end Registering

/-- How a component without a name is referred to. -/
def placeText (place : Nat) : String :=
  "component#" ++ toString place

end MessageFlow
