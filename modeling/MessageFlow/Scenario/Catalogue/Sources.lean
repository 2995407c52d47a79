import MessageFlow.Scenario.Types
import MessageFlow.Source

/-!
# Ready-made sources

Sources that yield given values or messages one by one, sources that count, streams of given
messages, and producers that note their subscriptions. Each keeps its own counter.
-/

namespace MessageFlow.Scenario.Catalogue

/-- Yields a new message around each of the payloads, then nothing. -/
def payloads (items : List Payload) (adapter : AdapterSpec) : Run Source := do
  let counter ← Run.newCounter
  let receive : Run (Option Message) := do
    let taken ← Run.count counter
    match items[taken]? with
    | some payload => return some (← Run.newMessage payload)
    | none => return none
  return .polling receive adapter

/-- Yields each entry of a script once, where an entry may be that nothing is there, then
nothing. -/
def script (entries : List (Option Message)) (adapter : AdapterSpec) : Run Source := do
  let counter ← Run.newCounter
  let receive : Run (Option Message) := do
    let taken ← Run.count counter
    return (entries[taken]?).join
  return .polling receive adapter

/-- Yields a number, then the next, and so on, wrapping at 32 bits. -/
def counting (first : Int) (adapter : AdapterSpec) : Run Source := do
  let counter ← Run.newCounter
  let receive : Run (Option Message) := do
    let taken ← Run.count counter
    return some (← Run.newMessage (.of .i32 (Int32.ofInt (first + taken))))
  return .polling receive adapter

/-- A stream that can be taken once. -/
def stream (feed : Feed) : Run Source := do
  let counter ← Run.newCounter
  return .publisher counter feed

/-- A producer that yields the same messages to each subscriber, all at once. -/
def producer (name : String) (items : List Message) : Source :=
  .producer name do
    Run.note (.subscribed name)
    return .spaced 0 items

end MessageFlow.Scenario.Catalogue
