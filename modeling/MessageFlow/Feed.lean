import MessageFlow.Message

/-!
# Feeds

The stream of messages that a publisher or a producer gives. A feed says of each place of the stream
what comes there and how long it takes, which may be for ever. A stream may end, or go on for ever.

Simpler here than a stream in a program:
- A feed is settled beforehand. Nothing that is done meanwhile changes what comes, or when.
- Things take whole milliseconds, as the timers of a program do.
-/

namespace MessageFlow

variable [PayloadTypes]

/-- What comes next of a stream. -/
structure Arrival where
  /-- How many milliseconds it takes to become ready once it is asked for; without a number it never
  does. -/
  after : Option Nat
  /-- The message. There is none where the stream has ended. -/
  message : Option Message

/-- A stream of messages, by places. What stands behind the end of a stream is never asked for. -/
structure Feed where
  arrivals : Nat → Arrival

namespace Feed

/-- What comes first. -/
def next (feed : Feed) : Arrival :=
  feed.arrivals 0

/-- The stream when its first message was taken. -/
def rest (feed : Feed) : Feed :=
  ⟨fun place => feed.arrivals (place + 1)⟩

/-- The stream of some messages, each of which takes the same time to become ready. Its end takes no
time. -/
def spaced (gap : Nat) (items : List Message) : Feed :=
  ⟨fun place =>
    match items[place]? with
    | some m => ⟨some gap, some m⟩
    | none => ⟨some 0, none⟩⟩

end Feed

end MessageFlow
