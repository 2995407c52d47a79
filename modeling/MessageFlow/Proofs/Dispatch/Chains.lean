import MessageFlow.Endpoint
import MessageFlow.Loop

/-!
# Chains of advice

An advice may go on as often as it likes, and each time runs the rest of the chain. A chain can
still be cut anywhere: the part before the cut, around the handler that has the part behind it
around it, is the whole chain. It is the same run, so it ends alike in every world, with every call
in the same place.

Advice that goes on once comes in two halves, what it does before and what it does after. A chain of
such advice does all first halves, the first advice first, then the handler, and then all second
halves, the first advice last (`attempt_advised_once`). The induction is on the chain: its first
advice is the first to enter by definition, and its second half follows on those of the rest.
-/

namespace MessageFlow

variable [PayloadTypes]

open Run

namespace Run

variable {α β : Type}

/-- How two steps end is how the second ends, unless the first fails. -/
theorem attempt_bind (r : Run α) (f : α → Run β) :
    attempt (r >>= f) = attempt r >>= fun
      | .ok a => attempt (f a)
      | .error failure => pure (.error failure) := by
  refine ext_exec fun w => ?_
  rw [exec_attempt, exec_bind, exec_bind, exec_attempt]
  rcases r.exec w with _ | ⟨_ | a, v⟩
  · rfl
  · rfl
  · exact (exec_attempt (f a) v).symm

/-- A step whose failure is shown does not fail. -/
theorem attempt_attempt_bind (r : Run α) (f : Except Failure α → Run β) :
    attempt (attempt r >>= f) = attempt r >>= fun result => attempt (f result) := by
  refine ext_exec fun w => ?_
  rw [exec_attempt, exec_bind, exec_bind, exec_attempt]
  rcases r.exec w with _ | ⟨result, v⟩
  · rfl
  · exact (exec_attempt (f result) v).symm

/-- Ends with a result that was shown. -/
def settle (result : Except Failure α) : Run α :=
  match result with
  | .ok a => pure a
  | .error failure => throw failure

@[simp] theorem attempt_settle (result : Except Failure α) :
    attempt (settle result) = pure result := by
  cases result <;> rfl

end Run

/-! ## Advice that goes on once -/

/-- What an advice does after it went on, with how that ended. -/
abbrev Closing := Except Failure Outcome → Run Outcome

/-- What an advice does before it goes on: which message it goes on with, and what it does after.
What it knows by then its closing knows too. -/
abbrev Opening := StageInfo → Message → Run (Message × Closing)

/-- The advice that opens, goes on once and closes. It does not go on where its opening fails. -/
def Advice.once (opening : Opening) : Advice := fun stage m proceed => do
  let (m', close) ← opening stage m
  close (← Run.attempt (proceed m'))

/-- Opens one after the other, each with the message of the one before. The closings of those that
opened, in the same order, and the last message unless one failed. -/
def Opening.enter (stage : StageInfo) :
    List Opening → Message → Run (List Closing × Except Failure Message)
  | [], m => return ([], .ok m)
  | opening :: openings, m => do
    match ← Run.attempt (opening stage m) with
    | .ok (m', close) =>
      let (closings, entered) ← enter stage openings m'
      return (close :: closings, entered)
    | .error failure => return ([], .error failure)

/-- Closes one after the other, each with how the one before ended. -/
def Closing.leave (closings : List Closing) (result : Except Failure Outcome) :
    Run (Except Failure Outcome) :=
  closings.foldlM (fun result close => Run.attempt (close result)) result

/-- How the handler ends with the message that reached it, if one did. -/
def Handler.reached (handler : Handler) (stage : StageInfo) :
    Except Failure Message → Run (Except Failure Outcome)
  | .ok m => Run.attempt (handler stage m)
  | .error failure => return .error failure

theorem leave_nil : Closing.leave [] = pure := rfl

theorem leave_cons (close : Closing) (closings : List Closing) :
    Closing.leave (close :: closings) = fun result =>
      Run.attempt (close result) >>= Closing.leave closings := rfl

theorem leave_concat (closings : List Closing) (close : Closing) :
    Closing.leave (closings ++ [close]) = fun result =>
      Closing.leave closings result >>= fun result' => Run.attempt (close result') := by
  funext result
  unfold Closing.leave
  rw [List.foldlM_append]
  simp only [List.foldlM_cons, List.foldlM_nil, bind_pure]

/-- Advice that goes on once enters in the order of the chain and leaves in the reverse order. -/
theorem attempt_advised_once (handler : Handler) (openings : List Opening) (stage : StageInfo)
    (m : Message) :
    Run.attempt (handler.advised (openings.map Advice.once) stage m) =
      Opening.enter stage openings m >>= fun (closings, entered) =>
        handler.reached stage entered >>= Closing.leave closings.reverse := by
  induction openings generalizing m with
  | nil =>
    simp only [Opening.enter, pure_bind, List.reverse_nil, leave_nil, bind_pure]
    rfl
  | cons opening openings ih =>
    rw [List.map_cons, Handler.advised_cons, Advice.around, Advice.once, attempt_bind,
      Opening.enter, bind_assoc]
    congr 1
    funext opened
    cases opened with
    | error failure => rfl
    | ok opened =>
      obtain ⟨m', close⟩ := opened
      dsimp only
      -- What the first advice goes on with is the rest of the chain, and it closes after that.
      rw [attempt_attempt_bind, ih]
      simp only [bind_assoc, pure_bind, List.reverse_cons, leave_concat]

/-! ## Recorded advice -/

namespace Advice

/-- What the journal says of a result. -/
def kinds (result : Except Failure Outcome) : Except FailureKind OutcomeKind :=
  (result.map Outcome.kind).mapError Failure.kind

/-- Notes when a message leaves. -/
def noteLeft (label : String) : Closing := fun result => do
  Run.note (.left label (kinds result))
  Run.settle result

/-- Notes when a message enters, and goes on with it. -/
def noteEntered (label : String) : Opening := fun stage m => do
  Run.note (.entered label stage)
  return (m, noteLeft label)

theorem recording_eq_once (label : String) : recording label = Advice.once (noteEntered label) := by
  funext stage m proceed
  unfold recording Advice.once noteEntered noteLeft
  simp only [bind_assoc, pure_bind]
  congr 1
  funext _
  congr 1
  funext result
  cases result <;> rfl

theorem enter_noteEntered (labels : List String) (stage : StageInfo) (m : Message) :
    Opening.enter stage (labels.map noteEntered) m = do
      forM labels fun label => Run.note (.entered label stage)
      return (labels.map noteLeft, .ok m) := by
  induction labels with
  | nil => rfl
  | cons label labels ih =>
    have hnote : Run.attempt (noteEntered label stage m) =
        Run.note (.entered label stage) >>= fun _ => pure (.ok (m, noteLeft label)) := rfl
    rw [List.map_cons, Opening.enter, hnote, List.forM_cons, bind_assoc, bind_assoc]
    simp only [pure_bind, ih, bind_assoc, List.map_cons]

theorem leave_noteLeft (labels : List String) :
    Closing.leave (labels.map noteLeft) = fun result => do
      forM labels fun label => Run.note (.left label (kinds result))
      return result := by
  funext result
  induction labels with
  | nil => rfl
  | cons label labels ih =>
    have hnote : Run.attempt (noteLeft label result) =
        Run.note (.left label (kinds result)) >>= fun _ => pure result := by
      cases result <;> rfl
    rw [List.map_cons, leave_cons, List.forM_cons, bind_assoc]
    dsimp only
    rw [hnote, bind_assoc]
    simp only [pure_bind, ih]

/-- The journal of a chain of recorders. -/
theorem attempt_advised_recording (handler : Handler) (labels : List String) (stage : StageInfo)
    (m : Message) :
    Run.attempt (handler.advised (labels.map recording) stage m) = (do
      forM labels fun label => Run.note (.entered label stage)
      let result ← Run.attempt (handler stage m)
      forM labels.reverse fun label => Run.note (.left label (kinds result))
      return result) := by
  have hlabels : labels.map recording = (labels.map noteEntered).map Advice.once := by
    rw [List.map_map]
    exact List.map_congr_left fun label _ => recording_eq_once label
  rw [hlabels, attempt_advised_once, enter_noteEntered]
  simp only [bind_assoc, pure_bind, Handler.reached, ← List.map_reverse, leave_noteLeft]

end Advice

/-! ## The law of chains -/

/-- Two chains of advice, one inside the other, are one chain: whatever the advice, the handler, the
stage and the message, it is the same run. So is a stage with a chain that is cut anywhere. Hence
advice that goes on once enters in the order of its chain and leaves in the reverse order, and
recorders say so in the journal. -/
theorem chains_compose (handler : Handler) (stage : StageInfo) (m : Message) :
    (∀ outer inner : List Advice, handler.advised (outer ++ inner) stage m =
      (handler.advised inner).advised outer stage m) ∧
    (∀ (e : Endpoint) (outer inner : List Advice),
      { e with advice := outer ++ inner }.invoke m =
        { e with advice := outer, handler := e.handler.advised inner }.invoke m) ∧
    (∀ openings : List Opening,
      Run.attempt (handler.advised (openings.map Advice.once) stage m) =
        Opening.enter stage openings m >>= fun (closings, entered) =>
          handler.reached stage entered >>= Closing.leave closings.reverse) ∧
    (∀ labels : List String,
      Run.attempt (handler.advised (labels.map Advice.recording) stage m) = (do
        forM labels fun label => Run.note (.entered label stage)
        let result ← Run.attempt (handler stage m)
        forM labels.reverse fun label => Run.note (.left label (Advice.kinds result))
        return result)) := by
  refine ⟨fun outer inner => ?_, fun e outer inner => ?_,
    fun openings => attempt_advised_once handler openings stage m,
    fun labels => Advice.attempt_advised_recording handler labels stage m⟩
  · rw [Handler.advised_append]
  · rw [Endpoint.invoke, Endpoint.invoke, Handler.advised_append]

end MessageFlow
