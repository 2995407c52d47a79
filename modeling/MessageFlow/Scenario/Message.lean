import MessageFlow.Run
import MessageFlow.Scenario.Payload

/-!
# Messages in scenarios

References to channels, messages, outcomes and the journal. A channel is a name, an object that says
how the reference came about, one of the live channels that the scenario opens, or a channel that
refuses every message.
-/

namespace MessageFlow.Scenario

/-- The live channels that a scenario refers to by number. -/
abbrev Instances := List LiveRef

/-- Opens the live channels of a scenario. -/
def openInstances (j : Json) : Run Instances :=
  (j.itemsAt "instances").mapM fun name => Run.openQueue (name.text?.getD "")

/-- The live channel of a number. -/
def instanceOf (live : Instances) (j : Json) : Run LiveRef :=
  match j.nat?.bind fun i => live[i]? with
  | some ref => return ref
  | none => throw (.lifecycle (.other "no such instance"))

/-- Reads a reference to a channel, if there is one. -/
def readRef? (live : Instances) (j : Json) : Run (Option ChannelRef) := do
  if let some name := j.text? then return some (.named name)
  if let some name := j.textAt? "named" then return some (.named name)
  if let some name := j.textAt? "owned" then return some (.named name)
  if let some name := j.textAt? "anonymous" then return some (.anonymous name)
  if let some i := (j.field "instance").present? then return some (.live (← instanceOf live i))
  if let some name := j.textAt? "closed" then
    return some (.live (← Run.openChannel ⟨name, fun _ => false, .empty⟩))
  return none

def readRef (live : Instances) (j : Json) : Run ChannelRef := do
  return (← readRef? live j).getD (.named "")

def refJson (ref : ChannelRef) : Json :=
  .string ref.inspect

def readPair (j : Json) : String × String :=
  match j with
  | .array [a, b] => (a.text?.getD "", b.text?.getD "")
  | _ => ("", "")

def pairJson (pair : String × String) : Json :=
  .array [.string pair.1, .string pair.2]

/-- Reads the id of a message. -/
def readId? (j : Json) : Option MessageId :=
  j.text?.bind MessageId.ofText?

/-- Reads a message. Without an id it gets a fresh one. -/
def readMessage (live : Instances) (j : Json) : Run Message := do
  let fresh ← Run.newMessage (readPayload (j.field "payload"))
  let headers : Headers :=
    { fresh.headers with
      contentType := j.textAt? "content_type"
      replyChannel := ← readRef? live (j.field "reply_channel")
      correlationId := readId? (j.field "correlation_id")
      sequenceNumber := j.natAt? "sequence_number"
      sequenceSize := j.natAt? "sequence_size"
      custom := (j.itemsAt "headers").foldl
        (fun custom pair => custom.set (readPair pair).1 (readPair pair).2) fresh.headers.custom }
  return { fresh with id := (readId? (j.field "id")).getD fresh.id, headers := headers }

def messageJson (m : Message) : Json :=
  let h := m.headers
  .ofMembers <| [("id", .string m.id.text), ("payload", payloadJson m.payload)]
    ++ Json.memberOf "content_type" .string h.contentType
    ++ Json.memberOf "reply_channel" refJson h.replyChannel
    ++ Json.memberOf "correlation_id" (fun id => .string id.text) h.correlationId
    ++ Json.memberOf "sequence_number" .ofNat h.sequenceNumber
    ++ Json.memberOf "sequence_size" .ofNat h.sequenceSize
    ++ if h.custom.isEmpty then [] else [("headers", .list pairJson h.custom)]

def outcomeJson : Outcome → Json
  | .reply m => .ofMembers [("reply", messageJson m)]
  | .many ms => .ofMembers [("many", .list messageJson ms)]
  | .discard m channel =>
    .ofMembers [("discard", messageJson m), ("channel", .optional refJson channel)]
  | .route d =>
    .ofMembers
      [ ("route", messageJson d.message), ("channel", refJson d.channel),
        ("default", .optional refJson d.fallback), ("required", .bool d.required) ]
  | .done => .string "done"

/-- Writes what a computation returns, or its failure. -/
def answer {α : Type} (encode : α → Json) (r : Run α) : Run Json := do
  match ← Run.attempt r with
  | .ok a => return encode a
  | .error failure => return failureJson failure

/-! ## The journal -/

def eventJson (event : LogEvent) : Json :=
  .ofMembers <| [("level", .string event.level.name), ("message", .string event.text)]
    ++ event.fields.map fun entry => (entry.1, .string entry.2)

def entryJson : Entry → Json
  | .called name payload => .array [.string name, payloadJson payload]
  | .decided kind retries => .array [.string "decide", .string kind.name, .ofNat retries]
  | .entered label stage => .array [.string "enter", .string label, .string stage.text]
  | .left label (.ok kind) => .array [.string "leave", .string label, .string kind.name]
  | .left label (.error kind) => .array [.string "leave", .string label, .string kind.name]
  | .subscribed name => .array [.string "subscribe", .string name]
  | .logged event => .ofMembers [("log", eventJson event)]

/-- The member that shows lines of the journal to a reader who asked for a level, if there are
any. -/
def traceMember (asked : Option Level) (entries : List Entry) : List (String × Json) :=
  match entries.filter (·.isKept asked) with
  | [] => []
  | kept => [("trace", .list entryJson kept)]

/-- Takes what is in the journal, and shows it. -/
def takeTrace (asked : Option Level) : Run (List (String × Json)) := do
  let entries ← Run.look (·.journal.toList)
  modify fun w => { w with journal := #[] }
  return traceMember asked entries

/-- Reads the name of a level. -/
def readLevel (s : String) : Level :=
  (Level.ofName? s.toUpper).getD .trace

end MessageFlow.Scenario
