import MessageFlow.Advice
import MessageFlow.Loop
import MessageFlow.Text.Inspect

/-!
# Error strategies

What happens when a stage fails: the failure is passed on, the message is dropped, or the stage is
tried again with the same message. A strategy is an advice like any other, so strategies nest.
-/

namespace MessageFlow

variable [PayloadTypes]

/-- What to do about one failure. -/
inductive ErrorAction where
  /-- Pass the failure on. -/
  | stop
  /-- Drop the message. -/
  | skip
  /-- Try again with the same message. -/
  | retry
  deriving DecidableEq, Repr

/-- A policy for the failures of a stage. -/
inductive ErrorStrategy where
  | stop
  | skip
  /-- Tries again up to a number of times. -/
  | retry (limit : Nat)
  /-- Decides by the failure and the number of retries made so far. -/
  | custom (judge : Failure → Nat → Run ErrorAction)

namespace ErrorStrategy

/-- What to do about a failure after a number of retries. -/
def decide : ErrorStrategy → Failure → (retries : Nat) → Run ErrorAction
  | stop, _, _ => return .stop
  | skip, _, _ => return .skip
  | retry limit, _, retries => return if retries < limit then .retry else .stop
  | custom judge, failure, retries => judge failure retries

/-- Runs a stage once, after a number of retries: it goes on with one retry more, or ends. -/
def attempt (strategy : ErrorStrategy) (stage : StageInfo) (m : Message)
    (proceed : Message → Run Outcome) (retries : Nat) : Run (Nat ⊕ Outcome) := do
  match ← Run.attempt (proceed m) with
  | .ok outcome => return .inr outcome
  | .error failure =>
    match ← strategy.decide failure retries with
    | .stop => throw failure
    | .skip =>
      Run.log (.skipping stage m.id failure)
      return .inr (.discard m none)
    | .retry =>
      Run.log (.retrying stage (retries + 1) failure)
      -- Each attempt starts from the message as it came in.
      return .inl (retries + 1)

/-- Runs a stage until it succeeds or the strategy ends it. -/
def advice (strategy : ErrorStrategy) : Advice := fun stage m proceed =>
  Run.loop (strategy.attempt stage m proceed) 0

/-- Whether two strategies are the same. Custom ones cannot be told apart. -/
def same : ErrorStrategy → ErrorStrategy → Bool
  | stop, stop | skip, skip | custom _, custom _ => true
  | retry m, retry n => m == n
  | _, _ => false

def inspect : ErrorStrategy → String
  | stop => "ErrorStrategy::Stop"
  | skip => "ErrorStrategy::Skip"
  | retry limit => Text.Inspect.variant "ErrorStrategy::Retry" (toString limit)
  | custom _ => "ErrorStrategy::Custom"

end ErrorStrategy

end MessageFlow
