import MessageFlow.Handler

/-!
# Advice

Behaviour around a handler. An advice gets the message and a continuation, which runs the rest of
the chain, and may call it any number of times. The first advice of a chain is the outermost.
`advised_append` says that a chain can be cut anywhere. An advice may keep what it likes in the
world; the chain itself is the same for every message.
-/

namespace MessageFlow

variable [PayloadTypes]

/-- Behaviour around the rest of a chain. -/
abbrev Advice := StageInfo → Message → (Message → Run Outcome) → Run Outcome

/-- The handler with an advice around it. -/
def Advice.around (advice : Advice) (handler : Handler) : Handler := fun stage m =>
  advice stage m (handler stage)

/-- The handler with a chain of advice around it. -/
def Handler.advised (handler : Handler) (chain : List Advice) : Handler :=
  chain.foldr Advice.around handler

@[simp] theorem Handler.advised_nil (handler : Handler) : handler.advised [] = handler := rfl

@[simp] theorem Handler.advised_cons (handler : Handler) (advice : Advice) (chain : List Advice) :
    handler.advised (advice :: chain) = advice.around (handler.advised chain) := rfl

/-- Two chains, one inside the other, are one chain. -/
theorem Handler.advised_append (handler : Handler) (outer inner : List Advice) :
    handler.advised (outer ++ inner) = (handler.advised inner).advised outer := by
  simp [Handler.advised, List.foldr_append]

namespace Advice

/-- Logs every message that enters a stage, and how the stage ended. -/
def tracing : Advice := fun stage m proceed => do
  Run.log (.received stage m.id)
  match ← Run.attempt (proceed m) with
  | .ok outcome =>
    Run.log (.completed stage)
    return outcome
  | .error failure =>
    Run.log (.failed stage failure)
    throw failure

/-- Notes when a message enters and when it leaves. -/
def recording (label : String) : Advice := fun stage m proceed => do
  Run.note (.entered label stage)
  match ← Run.attempt (proceed m) with
  | .ok outcome =>
    Run.note (.left label (.ok outcome.kind))
    return outcome
  | .error failure =>
    Run.note (.left label (.error failure.kind))
    throw failure

end Advice

end MessageFlow
