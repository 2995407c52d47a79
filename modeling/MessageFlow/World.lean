import MessageFlow.Channel.Mailbox
import MessageFlow.Feed
import MessageFlow.Journal

/-!
# The world that flows run in

All state that outlives a single call: the supply of fresh ids, the clock, the live channels, the
counters that sources and stage functions keep, what each runner is doing, the journal, and how
those things turn out that are left to chance. It is plain data; effects are functions on it.

Simpler here than in a program that runs:
- Ids are not drawn at random. They come from a supply that never gives the same one twice.
- A live channel takes a message or refuses it by the type of the payload alone, and never changes
  its mind. A queue takes everything. Channels that look at more of a message, or at what they got
  before, are not among them.
- Time is counted in whole milliseconds, and passes only where somebody waits.
- A choice that is left to chance is a lot. Whatever is said of a world holds of all lots.
- Waiting for pumps is given up after `patience` rounds. A program has no such bound; what does not
  end there does not end here either.
-/

namespace MessageFlow

variable [PayloadTypes]

/-- A live channel. It takes messages with payloads of some types, and refuses all others. -/
structure LiveChannel where
  name : String
  /-- Whether it takes payloads of a type. -/
  takes : DataType → Bool
  box : Mailbox

/-- An empty queue. It takes every message. -/
def LiveChannel.queue (name : String) : LiveChannel :=
  ⟨name, fun _ => true, .empty⟩

namespace LiveChannel

@[simp] theorem queue_name (name : String) : (queue name).name = name := rfl

/-- Nothing is refused by a queue. -/
@[simp] theorem queue_takes (name : String) : (queue name).takes = fun _ => true := rfl

@[simp] theorem queue_box (name : String) : (queue name).box = .empty := rfl

end LiveChannel

/-- What a background pump does. -/
inductive PumpWork where
  /-- Polls the source of its flow. -/
  | poll
  /-- Dispatches the items of a stream. -/
  | drain (feed : Feed)

/-- A background pump of a runner. -/
structure Pump where
  work : PumpWork
  /-- When it goes on; never, if the stream that it waits for has nothing more to give. -/
  due : Option Nat
  /-- Its place among the pumps that go on at the same time. -/
  turn : Nat
  /-- Whether it waits for its time to come; a pump that was just started does not. -/
  armed : Bool

/-- What a runner is doing. -/
structure RunnerState where
  /-- How many requests were made. -/
  requests : Nat
  running : Bool
  stopped : Bool
  pump : Option Pump

/-- A runner that has done nothing yet. -/
def RunnerState.new : RunnerState := ⟨0, false, false, none⟩

/-- Everything that changes while flows run. -/
structure World where
  /-- How many fresh ids were given out. -/
  issued : Nat
  /-- Milliseconds since the beginning. -/
  clock : Nat
  channels : List LiveChannel
  /-- Counters of sources and stage functions. -/
  counters : List Nat
  runners : List RunnerState
  /-- How many pump turns were given out. -/
  turns : Nat
  /-- How many flow ids were generated. -/
  generated : Nat
  journal : Array Entry
  /-- How each choice turns out that is left to chance. -/
  lots : Nat → Bool
  /-- How many of these choices were made. -/
  drawn : Nat
  /-- How many rounds of pumps a wait may take before the run is given up. -/
  patience : Nat

/-- A world in which nothing has happened, and every choice will turn out to be no. -/
def World.new (patience : Nat) : World :=
  { issued := 0, clock := 0, channels := [], counters := [], runners := [], turns := 0,
    generated := 0, journal := #[], lots := fun _ => false, drawn := 0, patience := patience }

end MessageFlow
