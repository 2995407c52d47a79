import MessageFlow.Channel.Registry
import MessageFlow.Flow
import MessageFlow.WorkList

/-!
# Runners

A runner sends messages through a flow. A message that is put into a channel goes to every stage of
the flow that consumes the channel; if none does it is delivered to the live channel. What stages
emit is put into channels in turn, first come first served, until nothing is on its way or something
fails.

The consumers of a channel are looked up in the flow whenever a message gets there. Flows do not
change, so they could as well be known from the beginning.
-/

namespace MessageFlow

variable [PayloadTypes]

/-- A flow bound to live channels. -/
structure Runner where
  /-- Its place among all runners. -/
  slot : Nat
  flow : Flow
  channels : ChannelRegistry
  /-- The queue that was opened for the output of the flow. -/
  output : Option LiveRef

/-- A message on its way to a channel. -/
structure Parcel where
  channel : ChannelRef
  message : Message

namespace Runner

/-- Binds a flow to live channels. If nobody takes what the flow puts out, a queue is opened for
it. -/
def create (flow : Flow) (channels : ChannelRegistry) : Run Runner := do
  let slot ← Run.look (·.runners.length)
  modify fun w => { w with runners := w.runners ++ [.new] }
  match flow.output with
  -- A live channel takes messages itself.
  | none | some (.live _) => return ⟨slot, flow, channels, none⟩
  | some ref =>
    if !(flow.consumers ref.name).isEmpty || channels.contains ref.name then
      return ⟨slot, flow, channels, none⟩
    else do
      let (queue, channels) ← channels.queue ref.name
      return ⟨slot, flow, channels, some queue⟩

/-- Whether a message put into the channel ends up anywhere. -/
def isResolvable (r : Runner) (ref : ChannelRef) : Bool :=
  !(r.flow.consumers ref.name).isEmpty || (r.channels.resolve ref).isSome

/-- The live channel of a reference. -/
def resolve (r : Runner) (ref : ChannelRef) : Run LiveRef :=
  match r.channels.resolve ref with
  | some live => return live
  | none => throw (.destination ref.name)

/-- Hands a message to a live channel. One that reaches the anonymous output of the flow goes to its
reply channel, if it has one. -/
def deliver (r : Runner) (p : Parcel) : Run Unit := do
  let reply :=
    if r.flow.output == some p.channel && p.channel.isAnonymous then
      p.message.headers.replyChannel
    else none
  let live ← r.resolve (reply.getD p.channel)
  Run.send live p.message

/-- Puts a message into the output of a stage. -/
def emit (stage : FlowStage) (m : Message) : Run (List Parcel) :=
  match stage.endpoint.output with
  | some ref => return [⟨ref, m⟩]
  | none => do
    Run.log (.dropped stage.endpoint.info)
    return []

/-- Puts messages into the output of a stage. -/
def emitAll (stage : FlowStage) : List Message → Run (List Parcel)
  | [] => return []
  | m :: rest => do
    let first ← emit stage m
    return first ++ (← emitAll stage rest)

/-- Puts what a stage produced into channels. -/
def forward (r : Runner) (stage : FlowStage) : Outcome → Run (List Parcel)
  | .reply m => emit stage m
  | .many ms => emitAll stage ms
  | .discard m channel => return (channel.map fun ref => ⟨ref, m⟩).toList
  | .route decision =>
    if r.isResolvable decision.channel then return [⟨decision.channel, decision.message⟩]
    else
      match decision.fallback with
      | some ref => return [⟨ref, decision.message⟩]
      | none =>
        if decision.required then throw (.destination decision.channel.name)
        else emit stage decision.message
  | .done => return []

/-- Hands a message to each of the stages, and returns what they put into channels. -/
def serve (r : Runner) (m : Message) : List FlowStage → Run (List Parcel)
  | [] => return []
  | stage :: rest => do
    let outcome ← stage.endpoint.invoke m
    let emitted ← r.forward stage outcome
    return emitted ++ (← r.serve m rest)

/-- Does what a message on its way calls for, and returns what is on its way because of it. -/
def visit (r : Runner) (p : Parcel) : Run (List Parcel) :=
  match r.flow.consumers p.channel.name with
  | [] => do
    r.deliver p
    return []
  | stages => r.serve p.message stages

/-- Puts a message into a channel, and sees it through. -/
def dispatch (r : Runner) (ref : ChannelRef) (m : Message) : Run Unit :=
  Work.run r.visit [⟨ref, m⟩]

/-- Puts a message into the input of the flow. -/
def send (r : Runner) (m : Message) : Run Unit :=
  r.dispatch r.flow.input m

/-- Sends a message; a failure is only logged. -/
def sendLogged (r : Runner) (m : Message) : Run Unit := do
  match ← Run.attempt (r.send m) with
  | .ok () => return ()
  | .error failure => Run.log (.dispatchFailed r.flow.id m.id failure)

/-- What the runner is doing. -/
def state (r : Runner) : Run RunnerState :=
  Run.look fun w => w.runners.getD r.slot .new

/-- Changes what the runner is doing. -/
def update (r : Runner) (f : RunnerState → RunnerState) : Run Unit :=
  modify fun w => { w with runners := w.runners.modify r.slot f }

/-- Whether the runner was started and not stopped since. -/
def isRunning (r : Runner) : Run Bool := do
  let state ← r.state
  return state.running

end Runner

end MessageFlow
