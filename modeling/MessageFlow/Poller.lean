import MessageFlow.Json.Decoder
import MessageFlow.Json.Writer
import MessageFlow.Span

/-!
# Pollers

How often a source is polled, and how many messages are taken each time. A poller has a JSON form
in which every field is optional; a document may even ask for no message per poll, which the
builder functions never do. It gives the delay in whole milliseconds.
-/

namespace MessageFlow

/-- How often and how much to poll. -/
structure Poller where
  /-- The time between the end of a poll and the start of the next. -/
  fixedDelay : Span
  /-- How many messages a poll takes at most. -/
  maxMessages : Nat
  deriving DecidableEq, Repr

namespace Poller

/-- Polls every second for one message. -/
def standard : Poller := ⟨.ofMillis 1000, 1⟩

/-- Polls with the given delay for one message. -/
def withDelay (delay : Span) : Poller :=
  { standard with fixedDelay := delay }

/-- Takes at most `max` messages per poll, and at least one. -/
def withMaxMessages (p : Poller) (max : Nat) : Poller :=
  { p with maxMessages := Nat.max max 1 }

/-- A poller whose fields are filled in one by one. -/
structure Draft where
  fixedDelay : Option Span
  maxMessages : Option Nat

/-- The poller; fields that are missing have their standard values. -/
def Draft.finish (d : Draft) : Poller :=
  ⟨d.fixedDelay.getD standard.fixedDelay, d.maxMessages.getD standard.maxMessages⟩

def shape : Json.RecordShape Draft Poller where
  expected := "struct PollerSpec"
  fields :=
    [ .slot "fixed_delay_ms"
        (Json.Decoder.unsigned "u64" UInt64.size fun ms => Span.ofMillis ms.toNat) (·.fixedDelay)
        fun v d => { d with fixedDelay := some v },
      .slot "max_messages_per_poll" (Json.Decoder.unsigned "usize" UInt64.size Int.toNat)
        (·.maxMessages) fun v d => { d with maxMessages := some v } ]
  empty := ⟨none, none⟩
  ofObject d := .ok d.finish
  ofArray d _ := .ok d.finish

def decoder : Json.Decoder Poller :=
  shape.decoder

def toJson (p : Poller) : Json :=
  .object
    [ ("fixed_delay_ms", .ofNat p.fixedDelay.millis),
      ("max_messages_per_poll", .ofNat p.maxMessages)]

def inspect (p : Poller) : String :=
  Text.Inspect.record "PollerSpec"
    [("fixed_delay", p.fixedDelay.inspect),
      ("max_messages_per_poll", toString p.maxMessages)]

end Poller

end MessageFlow
