import MessageFlow.World

/-!
# Runs

A run is a computation that acts on the world and ends in a value or a failure. A failure keeps
what was done to the world before it. A run may also have no result at all: a loop that goes on for
ever has none, and waiting for pumps is given up when it exceeds the world's patience. `exec` runs
it in a world.

Simpler here than in a program that runs:
- Nobody else acts on the world between the steps of a run. A program hands over only where it waits
  for a channel, a stream or a time, and there the pumps go on (`Pump`).
- The function of a stage or an advice is any run. It ends in a value or a failure, or it does not
  end; it does not crash.
-/

namespace MessageFlow

variable [PayloadTypes]

/-- A computation that acts on the world. -/
abbrev Run (α : Type) := ExceptT Failure (StateT World Option) α

namespace Run

/-- Runs `r` in a world: how it ends and the world it leaves, unless it is given up. -/
def exec {α : Type} (r : Run α) (w : World) : Option (Except Failure α × World) :=
  r.run.run w

/-- Reads from the world. -/
def look {α : Type} (f : World → α) : Run α := do
  let w ← get
  return f w

/-- Ends without any result. -/
def giveUp {α : Type} : Run α :=
  ExceptT.mk fun _ => none

/-- Runs `r` and shows its failure as a value. -/
def attempt {α : Type} (r : Run α) : Run (Except Failure α) :=
  ExceptT.mk do
    let result ← r.run
    return .ok result

/-- Adds a line to the journal. -/
def note (entry : Entry) : Run Unit :=
  modify fun w => { w with journal := w.journal.push entry }

def log (event : LogEvent) : Run Unit :=
  note (.logged event)

/-- A message id that was not given out before. -/
def freshId : Run MessageId := do
  let w ← get
  set { w with issued := w.issued + 1 }
  return MessageId.fresh w.issued

/-- A new message around a payload. -/
def newMessage (payload : Payload) : Run Message := do
  let id ← freshId
  let now ← look (·.clock)
  return { id := id, payload := payload, headers := Headers.at now }

/-- The message a stage emits for `m`: a fresh id, the payload, and the other headers of `m`. -/
def reply (m : Message) (payload : Payload) : Run Message := do
  let id ← freshId
  let now ← look (·.clock)
  return m.replaced id now payload

/-- A new counter, at zero. -/
def newCounter : Run Nat := do
  let w ← get
  set { w with counters := w.counters ++ [0] }
  return w.counters.length

/-- Counts up, and returns the count before. -/
def count (counter : Nat) : Run Nat := do
  let w ← get
  let n := w.counters.getD counter 0
  set { w with counters := w.counters.set counter (n + 1) }
  return n

/-- Leaves a choice to chance. -/
def draw : Run Bool := do
  let w ← get
  set { w with drawn := w.drawn + 1 }
  return w.lots w.drawn

/-- Opens a live channel. -/
def openChannel (live : LiveChannel) : Run LiveRef := do
  let w ← get
  set { w with channels := w.channels ++ [live] }
  return { key := w.channels.length, name := live.name }

def openQueue (name : String) : Run LiveRef :=
  openChannel (.queue name)

/-- Acts on the mailbox of a channel. -/
def withMailbox {α : Type} [Inhabited α] (channel : LiveRef) (f : Mailbox → α × Mailbox) :
    Run α := do
  let w ← get
  match w.channels[channel.key]? with
  | none => return default
  | some live =>
    let (a, box) := f live.box
    set { w with channels := w.channels.set channel.key { live with box := box } }
    return a

/-- Sends a message into a live channel, unless the channel refuses it. -/
def send (channel : LiveRef) (m : Message) : Run Unit := do
  if (← look (·.channels[channel.key]?)).any fun live => !live.takes m.payload.type then
    throw (.channelClosed channel.name)
  log (.queued channel.name m.id)
  withMailbox channel fun box => ((), box.post m)

/-- Takes the oldest message of a queue if nobody waits for it. -/
def tryReceive (channel : LiveRef) : Run (Option Message) :=
  withMailbox channel Mailbox.take

/-- Takes every message of a queue if nobody waits for one. -/
def drain (channel : LiveRef) : Run (List Message) :=
  withMailbox channel Mailbox.drain

/-- The payload of a message as a value of the declared type of a stage. -/
def expect (stage : StageInfo) (type : DataType) (m : Message) : Run type.denote :=
  match m.payload.as? type with
  | some value => return value
  | none => throw (.payloadType stage type.name m.payload.type.name)

section Expect

variable {stage : StageInfo} {type : DataType} {m : Message}

/-- A payload of the declared type is taken. -/
theorem expect_of_type {value : type.denote} (h : m.payload = .of type value) :
    expect stage type m = pure value := by
  unfold expect
  rw [h, Payload.as?_self]

/-- A payload of another type is refused, by both names. -/
theorem expect_of_ne (h : m.payload.type ≠ type) :
    expect stage type m = throw (.payloadType stage type.name m.payload.type.name) := by
  unfold expect
  rw [Payload.as?_ne h]

end Expect

section Exec

variable {α β : Type}

/-- A value leaves the world as it is. -/
@[simp] theorem exec_pure (a : α) (w : World) : exec (pure a) w = some (.ok a, w) := rfl

@[simp] theorem exec_throw (failure : Failure) (w : World) :
    exec (throw failure : Run α) w = some (.error failure, w) := rfl

@[simp] theorem exec_get (w : World) : exec get w = some (.ok w, w) := rfl

@[simp] theorem exec_set (v w : World) : exec (set v) w = some (.ok ⟨⟩, v) := rfl

@[simp] theorem exec_modify (f : World → World) (w : World) :
    exec (modify f) w = some (.ok ⟨⟩, f w) := rfl

/-- What comes after a failure is not done, and nothing comes after a run without end. -/
@[simp] theorem exec_bind (r : Run α) (f : α → Run β) (w : World) :
    exec (r >>= f) w =
      match exec r w with
      | some (.ok a, v) => exec (f a) v
      | some (.error failure, v) => some (.error failure, v)
      | none => none := by
  unfold exec
  rw [ExceptT.run_bind, StateT.run_bind]
  rcases StateT.run r.run w with _ | ⟨_ | a, v⟩ <;> rfl

/-- Where two steps end the first of them does, and unless it fails the second goes on from there.
-/
theorem ends_of_bind {r : Run α} {f : α → Run β} {w v : World} {result : Except Failure β}
    (h : exec (r >>= f) w = some (result, v)) :
    ∃ first u, exec r w = some (first, u) ∧
      ∀ a, first = .ok a → exec (f a) u = some (result, v) := by
  rw [exec_bind] at h
  rcases hr : exec r w with _ | ⟨failure | a, u⟩
  · simp [hr] at h
  · exact ⟨.error failure, u, rfl, nofun⟩
  · rw [hr] at h
    refine ⟨.ok a, u, rfl, fun a' ha' => ?_⟩
    cases ha'
    exact h

/-- Where two steps succeed both of them do. -/
theorem ok_of_bind {r : Run α} {f : α → Run β} {w v : World} {b : β}
    (h : exec (r >>= f) w = some (.ok b, v)) :
    ∃ a u, exec r w = some (.ok a, u) ∧ exec (f a) u = some (.ok b, v) := by
  rw [exec_bind] at h
  rcases hr : exec r w with _ | ⟨failure | a, u⟩
  · simp [hr] at h
  · simp [hr] at h
  · rw [hr] at h
    exact ⟨a, u, rfl, h⟩

/-- A function of the value is no business of the world's. -/
@[simp] theorem exec_map (f : α → β) (r : Run α) (w : World) :
    exec (f <$> r) w = (exec r w).map fun ended => (ended.1.map f, ended.2) := by
  rw [map_eq_pure_bind, exec_bind]
  rcases exec r w with _ | ⟨_ | a, v⟩ <;> rfl

/-- A look leaves the world as it is. -/
@[simp] theorem exec_look (f : World → α) (w : World) : exec (look f) w = some (.ok (f w), w) := rfl

@[simp] theorem exec_log (event : LogEvent) (w : World) :
    exec (log event) w = some (.ok ⟨⟩, { w with journal := w.journal.push (.logged event) }) := rfl

/-- An attempt has the failure as its value, and the world as the failure left it. -/
@[simp] theorem exec_attempt (r : Run α) (w : World) :
    exec (attempt r) w = (exec r w).map fun ended => (.ok ended.1, ended.2) := by
  unfold exec attempt
  rw [ExceptT.run_mk, StateT.run_bind]
  rcases StateT.run r.run w with _ | ⟨result, v⟩ <;> rfl

end Exec

end Run

end MessageFlow
