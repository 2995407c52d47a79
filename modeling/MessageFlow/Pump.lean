import MessageFlow.Runner

/-!
# Pumps

A runner that was started pumps the source of its flow in the background. Time is virtual: it stands
still while anything can go on, and then jumps to the time at which the next pump goes on. Pumps
that go on at the same time do so in the order in which they began to wait.

A pump takes one turn after the other. In a turn it polls its source, or takes one message from its
stream, and then waits for what comes next. Only where it waits does it find out that its runner is
to stop. If it could go on just then, it is left to chance whether it stops or takes another turn.

Simpler here than in a program that runs:
- A turn takes no time, and neither does stopping: the pump takes the turns that are due and that
  chance lets it take, and then there is none.
- Delays and timeouts are as long as timers make them (`Span.timer`).
-/

namespace MessageFlow

variable [PayloadTypes]

namespace Runner

/-- A place among the pumps that wait. -/
def nextTurn : Run Nat := do
  let w ← get
  set { w with turns := w.turns + 1 }
  return w.turns

/-- Replaces the pump of the runner. -/
def setPump (r : Runner) (pump : Option Pump) : Run Unit :=
  r.update fun state => { state with pump := pump }

/-- The place of a pump that waits again. One that need not wait keeps its place before others. -/
def place (p : Pump) (after : Option Nat) : Run Nat :=
  if after = some 0 then return p.turn else nextTurn

/-- Lets a pump wait for a number of milliseconds, or for ever. -/
def rest (r : Runner) (p : Pump) (work : PumpWork) (after : Option Nat) : Run Unit := do
  let turn ← place p after
  let now ← Run.look (·.clock)
  r.setPump (some { work := work, due := after.map (now + ·), turn := turn, armed := true })

/-- Takes messages from a source and sends them, until it has none or `max` were taken. -/
def poll (r : Runner) (receive : Run (Option Message)) : (max : Nat) → Run Unit
  | 0 => return ()
  | max + 1 => do
    match ← receive with
    | none => return ()
    | some m =>
      r.sendLogged m
      r.poll receive max

/-- Ends a stream. -/
def completed (r : Runner) : Run Unit := do
  Run.log (.streamCompleted r.flow.id)
  r.setPump none

/-- Lets a pump take its turn. -/
def pump (r : Runner) (p : Pump) : Run Unit :=
  match p.work, r.flow.source with
  | .poll, .polling receive _ => do
    r.poll receive r.flow.poller.maxMessages
    r.rest p .poll (some r.flow.poller.fixedDelay.timer)
  | .poll, _ => r.setPump none
  | .drain feed, _ =>
    -- A pump that was just started has yet to ask for what comes first.
    if p.armed then
      match feed.next.message with
      | none => r.completed
      | some m => do
        r.sendLogged m
        r.rest p (.drain feed.rest) feed.rest.next.after
    else r.rest p (.drain feed) feed.next.after

/-- Starts to pump with the given work. -/
def begin (r : Runner) (work : PumpWork) : Run Unit := do
  let turn ← nextTurn
  let now ← Run.look (·.clock)
  r.setPump (some { work := work, due := some now, turn := turn, armed := false })

/-- Starts the runner. Channels and gateways have nothing to pump. -/
def start (r : Runner) : Run Unit := do
  let state ← r.state
  if state.stopped then throw (.lifecycle (.stopped r.flow.id))
  if state.running then throw (.lifecycle (.running r.flow.id))
  match r.flow.source with
  | .polling .. => r.begin .poll
  | .publisher .. =>
    match ← r.flow.source.takePublisher with
    | some feed => r.begin (.drain feed)
    | none => throw (.lifecycle (.publisherConsumed r.flow.id))
  | .producer _ subscribe => do
    let feed ← subscribe
    r.begin (.drain feed)
  | .channel .. | .live _ | .gateway .. => pure ()
  r.update fun state => { state with running := true }
  Run.log (.started r.flow.id r.flow.source.describe)

end Runner

/-! ## Time -/

/-- The pump of each runner that has one. -/
def pumps (runners : List Runner) : Run (List (Runner × Pump)) := do
  let states ← Run.look (·.runners)
  return runners.filterMap fun r => (states[r.slot]?.bind (·.pump)).map fun p => (r, p)

/-- Whether a pump goes on at a time at the latest. -/
def Pump.isDue (p : Pump) (time : Nat) : Bool :=
  p.due.any (· ≤ time)

/-- Whether a pump goes on before a time. -/
def Pump.isDueBefore (p : Pump) (time : Nat) : Bool :=
  p.due.any (· < time)

/-- Whether a pump goes on before another. -/
def Pump.isBefore (p q : Pump) : Bool :=
  match p.due, q.due with
  | some time, some other => time < other || (time == other && p.turn < q.turn)
  | some _, none => true
  | none, _ => false

/-- The first of the pumps to go on. -/
def firstPump? : List (Runner × Pump) → Option (Runner × Pump)
  | [] => none
  | entry :: rest =>
    match firstPump? rest with
    | some other => some (if other.2.isBefore entry.2 then other else entry)
    | none => some entry

/-- Serves the waiting receivers of every channel. -/
def serveReceivers : Run Unit :=
  modify fun w => { w with channels := w.channels.map fun c => { c with box := c.box.settle } }

/-- Lets the pumps go on that are due at a time, `rounds` of them at most. -/
def goOn (runners : List Runner) (time : Nat) : (rounds : Nat) → Run Unit
  | 0 => Run.giveUp
  | rounds + 1 => do
    match firstPump? ((← pumps runners).filter (·.2.isDue time)) with
    | none => return ()
    | some (r, p) =>
      r.pump p
      goOn runners time rounds

/-- Lets time pass until `deadline`, or until `done?` has a result at some moment. Whoever waits for
the deadline comes before the pumps that are due at it. -/
def passUntil {α : Type} (runners : List Runner) (deadline : Nat) (done? : Run (Option α)) :
    (rounds : Nat) → Run (Option α)
  | 0 => Run.giveUp
  | rounds + 1 => do
    serveReceivers
    match ← done? with
    | some a => return some a
    | none =>
      match firstPump? ((← pumps runners).filter (·.2.isDueBefore deadline)) with
      | none =>
        modify fun w => { w with clock := deadline }
        return none
      | some (_, p) =>
        modify fun w => { w with clock := max w.clock (p.due.getD w.clock) }
        let now ← Run.look (·.clock)
        goOn runners now (← Run.look (·.patience))
        passUntil runners deadline done? rounds

/-- Lets a number of milliseconds pass. -/
def elapse (runners : List Runner) (ms : Nat) : Run Unit := do
  let now ← Run.look (·.clock)
  let patience ← Run.look (·.patience)
  let _ ← passUntil (α := Unit) runners (now + ms) (return none) patience

/-- Waits for a message for a number of milliseconds at most. -/
def receiveWithin (runners : List Runner) (channel : LiveRef) (ms : Nat) :
    Run (Option Message) := do
  match ← Run.tryReceive channel with
  | some m => return some m
  | none =>
    -- Who has no time to wait only looks.
    if ms = 0 then return none
    let ticket ← Runner.nextTurn
    Run.withMailbox channel fun box => ((), box.await ticket)
    let now ← Run.look (·.clock)
    let patience ← Run.look (·.patience)
    let received ← passUntil runners (now + ms) (Run.withMailbox channel (·.collect ticket))
      patience
    Run.withMailbox channel fun box => ((), box.leave ticket)
    return received

/-- Whether a pump takes another turn though its runner is to stop. One that was just started does
not wait yet and takes its turn. One that waits does so only if it could go on now, and chance has
it. -/
def Pump.persists (p : Pump) : Run Bool := do
  let now ← Run.look (·.clock)
  if !p.armed then return true
  else if p.isDue now then Run.draw
  else return false

/-- Lets the pump of a runner that is to stop come to its end, in so many rounds at most. -/
def Runner.windDown (r : Runner) : (rounds : Nat) → Run Unit
  | 0 => Run.giveUp
  | rounds + 1 => do
    match (← r.state).pump with
    | none => return ()
    | some p =>
      if ← p.persists then
        r.pump p
        r.windDown rounds
      else r.setPump none

/-- Waits for the pump of a runner that is to stop to come to its end. Meanwhile the pumps of other
runners that are due go on. -/
def Runner.outlast (runners : List Runner) (r : Runner) : Run Unit := do
  r.windDown (← Run.look (·.patience))
  let now ← Run.look (·.clock)
  goOn runners now (← Run.look (·.patience))

/-- Stops a runner. -/
def Runner.stop (runners : List Runner) (r : Runner) : Run Unit := do
  let state ← r.state
  r.update fun state => { state with stopped := true }
  if state.pump.isSome then Runner.outlast runners r
  r.update fun state => { state with running := false }
  Run.log (.stopped r.flow.id)

/-- Sends a payload through the flow of a runner and waits for the reply. The failure of a request
to a gateway with an error channel goes there, and there is no reply. -/
def Runner.request (runners : List Runner) (r : Runner) (payload : Payload) :
    Run (Option Message) := do
  let spec :=
    match r.flow.source with
    | .gateway _ spec => spec
    | _ => .standard
  let state ← r.state
  r.update fun state => { state with requests := state.requests + 1 }
  let queue ← Run.openQueue (r.flow.id ++ ".reply#" ++ toString state.requests)
  let m ← Run.newMessage payload
  match ← Run.attempt (r.send (m.withReplyChannel (.live queue))) with
  | .ok () => receiveWithin runners queue spec.replyTimeout.timer
  | .error failure =>
    match spec.errorChannel with
    | none => throw failure
    | some ref =>
      Run.log (.requestFailed r.flow.id failure)
      let live ← r.resolve ref
      Run.send live (← Run.newMessage (.of .failure failure))
      return none

end MessageFlow
