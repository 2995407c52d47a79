import MessageFlow.Composer
import MessageFlow.Scenario.Types

/-!
# Advice and strategies by name

Advice that a description of a flow can name, and strategies that decide by a list of actions or by
the kind of failure. Both kinds of strategies note in the journal what they were asked.
-/

namespace MessageFlow.Scenario.Catalogue

def action? : (name : String) → Option ErrorAction
  | "stop" => some .stop
  | "skip" => some .skip
  | "retry" => some .retry
  | _ => none

/-- Notes what a strategy was asked. -/
def asked (judge : Failure → Nat → ErrorAction) : ErrorStrategy :=
  .custom fun failure retries => do
    Run.note (.decided failure.kind retries)
    return judge failure retries

/-- Takes the actions of a list, one for each retry, and stops after them. -/
def bySequence (actions : List ErrorAction) : ErrorStrategy :=
  asked fun _ retries => actions.getD retries .stop

/-- Decides by the name of the kind of failure, and stops at those that are not listed. -/
def byKind (actions : List (String × ErrorAction)) : ErrorStrategy :=
  asked fun failure _ => (actions.lookup failure.kind.name).getD .stop

def setting (name value : String) : Advice := fun _ m proceed =>
  proceed (m.withHeader name value)

def replacing (payload : Payload) : Advice := fun _ m proceed => do
  proceed (← Run.reply m payload)

/-- Consumes the message. -/
def swallowing : Advice := fun _ _ _ => return .done

/-- Goes on twice with the same message, unless the first time fails. -/
def repeating : Advice := fun _ m proceed => do
  let _ ← proceed m
  proceed m

/-- Passes the message on if what follows fails. -/
def rescuing : Advice := fun _ m proceed => do
  match ← Run.attempt (proceed m) with
  | .ok outcome => return outcome
  | .error _ => return .reply m

def refusing : Advice := fun stage _ _ =>
  throw (.handler stage (.text "advice refused"))

/-- The advice of a name that needs no parameters. -/
def advice? : (name : String) → Option Advice
  | "tracing" => some Advice.tracing
  | "swallow" => some swallowing
  | "twice" => some repeating
  | "rescue" => some rescuing
  | "fail" => some refusing
  | _ => none

end MessageFlow.Scenario.Catalogue
