import MessageFlow.Message

/-!
# Mailboxes

The inside of a queue channel: messages in the order in which they were sent, and receivers in the
order in which they began to wait. While somebody waits nobody else can take a message; `settle`
hands messages to the waiting receivers, first come first served. `settle_conserves` states that
it neither loses, repeats nor reorders messages. A mailbox holds any number of messages.
-/

namespace MessageFlow

variable [PayloadTypes]

/-- Messages and the receivers that wait for them. -/
structure Mailbox where
  /-- Messages not yet taken, the oldest first. -/
  queued : List Message
  /-- Tickets of the waiting receivers, the longest waiting first. -/
  waiting : List Nat
  /-- Messages handed to receivers that have not collected them. -/
  handed : List (Nat × Message)

namespace Mailbox

/-- Nothing sent, nobody waiting. -/
def empty : Mailbox := ⟨[], [], []⟩

/-- Adds a message at the end. -/
def post (b : Mailbox) (m : Message) : Mailbox :=
  { b with queued := b.queued ++ [m] }

/-- Takes the oldest message, unless somebody waits. -/
def take (b : Mailbox) : Option Message × Mailbox :=
  match b.waiting, b.queued with
  | [], m :: rest => (some m, { b with queued := rest })
  | _, _ => (none, b)

/-- Takes every message, unless somebody waits. -/
def drain (b : Mailbox) : List Message × Mailbox :=
  match b.waiting with
  | [] => (b.queued, { b with queued := [] })
  | _ => ([], b)

def await (b : Mailbox) (ticket : Nat) : Mailbox :=
  { b with waiting := b.waiting ++ [ticket] }

def leave (b : Mailbox) (ticket : Nat) : Mailbox :=
  { b with waiting := b.waiting.erase ticket }

/-- Hands messages to the waiting receivers as far as both last. -/
def settle (b : Mailbox) : Mailbox :=
  { queued := b.queued.drop b.waiting.length
    waiting := b.waiting.drop b.queued.length
    handed := b.handed ++ b.waiting.zip b.queued }

/-- Takes what was handed to a receiver. -/
def collect (b : Mailbox) (ticket : Nat) : Option Message × Mailbox :=
  match b.handed.lookup ticket with
  | none => (none, b)
  | some m => (some m, { b with handed := b.handed.filter (·.1 != ticket) })

/-- What was handed out and what is still queued are, in order, what they were before. -/
theorem settle_conserves (b : Mailbox) :
    b.settle.handed.map Prod.snd ++ b.settle.queued = b.handed.map Prod.snd ++ b.queued := by
  simp only [settle, List.map_append, List.append_assoc]
  congr 1
  generalize b.waiting = ws
  generalize b.queued = ms
  induction ws generalizing ms with
  | nil => simp
  | cons w ws ih =>
    cases ms with
    | nil => simp
    | cons m ms => simp [ih]

end Mailbox

end MessageFlow
