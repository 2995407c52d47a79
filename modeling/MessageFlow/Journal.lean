import MessageFlow.Outcome

/-!
# The journal

What happens while flows are composed and run, in order: the library's own log events, and what
stage functions and advice note about themselves. Each log event has a level, a message and fields;
`isKept` says which events a reader who asked for some level gets to see. An event is kept as data;
how a log spells and filters it otherwise is not the library's business.
-/

namespace MessageFlow

variable [PayloadTypes]

/-- Levels of log events, the most severe first. -/
inductive Level where
  | error
  | warn
  | info
  | debug
  | trace
  deriving DecidableEq, Repr

namespace Level

/-- All levels, the most severe first. -/
def all : List Level := [error, warn, info, debug, trace]

/-- How far a level is from the most severe one. -/
def rank : Level → Nat
  | error => 0
  | warn => 1
  | info => 2
  | debug => 3
  | trace => 4

def name : Level → String
  | error => "ERROR"
  | warn => "WARN"
  | info => "INFO"
  | debug => "DEBUG"
  | trace => "TRACE"

/-- The level of a given name. -/
def ofName? (s : String) : Option Level :=
  all.find? (·.name == s)

end Level

/-- What the library logs. -/
inductive LogEvent where
  | composing (flow source : String)
  | appended (flow : String) (stage : StageInfo) (input : String)
  | createdChannel (flow channel : String)
  | assembled (flow : String) (stages : Nat)
  | compositionFailed (flow : String) (failure : Failure)
  /-- A log stage saw a message. -/
  | message (level : Level) (category : String) (stage : StageInfo) (id : MessageId)
      (type : DataType)
  | rejected (stage : StageInfo) (id : MessageId)
  | routing (stage : StageInfo) (key channel : String)
  | converted (stage : StageInfo) (target : DataType)
  | queued (channel : String) (id : MessageId)
  | dropped (stage : StageInfo)
  | received (stage : StageInfo) (id : MessageId)
  | completed (stage : StageInfo)
  | failed (stage : StageInfo) (failure : Failure)
  | skipping (stage : StageInfo) (id : MessageId) (failure : Failure)
  | retrying (stage : StageInfo) (retries : Nat) (failure : Failure)
  | requestFailed (flow : String) (failure : Failure)
  | started (flow source : String)
  | stopped (flow : String)
  | streamCompleted (flow : String)
  | dispatchFailed (flow : String) (id : MessageId) (failure : Failure)

namespace LogEvent

/-- How severe an event is. -/
def level : LogEvent → Level
  | dispatchFailed .. => .error
  | compositionFailed .. | skipping .. | requestFailed .. => .warn
  | started .. | stopped _ => .info
  | composing .. | assembled .. | received .. | completed _ | failed .. | retrying ..
  | streamCompleted _ => .debug
  | appended .. | createdChannel .. | rejected .. | routing .. | converted .. | queued ..
  | dropped _ => .trace
  | message level .. => level

def text : LogEvent → String
  | composing .. => "composing flow"
  | appended _ stage _ => "appended " ++ stage.kind.name ++ " stage"
  | createdChannel .. => "created anonymous channel"
  | assembled .. => "flow assembled"
  | compositionFailed .. => "flow composition failed"
  | message .. => "message"
  | rejected .. => "message rejected by filter"
  | routing .. => "routing message"
  | converted .. => "converted payload"
  | queued .. => "queued message"
  | dropped _ => "stage has no output; message dropped"
  | received .. => "stage received message"
  | completed _ => "stage completed"
  | failed .. => "stage failed"
  | skipping .. => "skipping failed message"
  | retrying .. => "retrying stage"
  | requestFailed .. => "request failed; sending error to error channel"
  | started .. => "flow started"
  | stopped _ => "flow stopped"
  | streamCompleted _ => "source stream completed"
  | dispatchFailed .. => "dispatch failed"

/-- The fields of an event, by name. -/
def fields : LogEvent → List (String × String)
  | composing flow source => [("flow", flow), ("source", source)]
  | appended flow stage input => [("flow", flow), ("stage", stage.id), ("input", input)]
  | createdChannel flow channel => [("flow", flow), ("channel", channel)]
  | assembled flow stages => [("flow", flow), ("stages", toString stages)]
  | compositionFailed flow failure => [("flow", flow), ("error", failure.message)]
  | message _ category stage id type =>
    [("category", category), ("stage", stage.text), ("message_id", id.text),
      ("payload", type.name)]
  | rejected stage id => [("stage", stage.text), ("message_id", id.text)]
  | routing stage key channel => [("stage", stage.text), ("key", key), ("channel", channel)]
  | converted stage target => [("stage", stage.text), ("target", target.name)]
  | queued channel id => [("channel", channel), ("message_id", id.text)]
  | dropped stage => [("stage", stage.text)]
  | received stage id => [("stage", stage.text), ("message_id", id.text)]
  | completed stage => [("stage", stage.text)]
  | failed stage failure => [("stage", stage.text), ("error", failure.message)]
  | skipping stage id failure =>
    [("stage", stage.text), ("message_id", id.text), ("error", failure.message)]
  | retrying stage retries failure =>
    [("stage", stage.text), ("retries", toString retries), ("error", failure.message)]
  | requestFailed flow failure => [("flow", flow), ("error", failure.message)]
  | started flow source => [("flow", flow), ("source", source)]
  | stopped flow => [("flow", flow)]
  | streamCompleted flow => [("flow", flow)]
  | dispatchFailed flow id failure =>
    [("flow", flow), ("message_id", id.text), ("error", failure.message)]

/-- Whether an event is shown: what log stages say always is, other events only to a reader who
asked for a level at most as severe as theirs. -/
def isKept (asked : Option Level) : LogEvent → Bool
  | message .. => true
  | event => asked.any fun level => event.level.rank ≤ level.rank

end LogEvent

/-- One line of the journal. -/
inductive Entry where
  /-- A stage function was called with a payload. -/
  | called (function : String) (payload : Payload)
  /-- An error strategy was asked what to do about a failure. -/
  | decided (kind : FailureKind) (retries : Nat)
  /-- A message entered a recording advice. -/
  | entered (label : String) (stage : StageInfo)
  /-- It left again, with an outcome or a failure. -/
  | left (label : String) (result : Except FailureKind OutcomeKind)
  /-- The stream of a producer was opened. -/
  | subscribed (producer : String)
  /-- The library logged an event. -/
  | logged (event : LogEvent)

/-- Whether a reader who asked for a level gets to see the line. -/
def Entry.isKept (asked : Option Level) : Entry → Bool
  | logged event => event.isKept asked
  | _ => true

end MessageFlow
