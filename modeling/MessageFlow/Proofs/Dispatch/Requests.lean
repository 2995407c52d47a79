import MessageFlow.Proofs.Dispatch.Channels
import MessageFlow.Pump

/-!
# Requests

A request opens a queue, sends a message that asks for a reply in it, and then waits. `exec_request`
says so with everything that happens ahead of the message settled: only the dispatch and what comes
of it are left. A dispatch that fails is reported to the caller, or to the error channel
(`Runner.report`).
-/

namespace MessageFlow

variable [PayloadTypes]

/-- The options of the gateway that a flow starts from. Any other flow answers requests as a gateway
without options does. -/
def Flow.gatewaySpec (flow : Flow) : GatewaySpec :=
  match flow.source with
  | .gateway _ spec => spec
  | _ => .standard

/-- A request that is about to be sent. -/
structure Inquiry where
  /-- Where the reply is awaited. -/
  queue : LiveRef
  message : Message
  world : World

namespace Runner

variable {r : Runner} {runners : List Runner} {payload : Payload} {w v : World}

/-- A request with a payload, in a world that has its queue. -/
def inquire (r : Runner) (payload : Payload) (w : World) : Inquiry :=
  let number := (w.runners.getD r.slot .new).requests
  let queue : LiveRef := ⟨w.channels.length, r.flow.id ++ ".reply#" ++ toString number⟩
  { queue := queue
    message := Message.withReplyChannel ⟨.fresh w.issued, payload, .at w.clock⟩ (.live queue)
    world :=
      { w with
        runners := w.runners.modify r.slot fun state =>
          { state with requests := state.requests + 1 }
        channels := w.channels ++ [.queue queue.name]
        issued := w.issued + 1 } }

/-- What becomes of a request that failed. -/
def report (r : Runner) (failure : Failure) : Run (Option Message) :=
  match r.flow.gatewaySpec.errorChannel with
  | none => throw failure
  | some ref => do
    Run.log (.requestFailed r.flow.id failure)
    let live ← r.resolve ref
    Run.send live (← Run.newMessage (.of .failure failure))
    return none

/-- A request is a dispatch, and then waiting or a report. -/
theorem exec_request (runners : List Runner) (r : Runner) (payload : Payload) (w : World) :
    (Runner.request runners r payload).exec w =
      match (r.send (r.inquire payload w).message).exec (r.inquire payload w).world with
      | some (.ok (), v) =>
        (receiveWithin runners (r.inquire payload w).queue
          r.flow.gatewaySpec.replyTimeout.timer).exec v
      | some (.error failure, v) => (r.report failure).exec v
      | none => none := by
  unfold Runner.request
  -- Everything ahead of the dispatch succeeds, whatever the world.
  simp only [Run.exec_bind, Runner.state, Runner.update, Run.openQueue, Run.openChannel,
    LiveChannel.queue_name, Run.newMessage, Run.freshId, Run.exec_look, Run.exec_modify,
    Run.exec_get, Run.exec_set, Run.exec_pure, Run.exec_attempt]
  unfold inquire
  rcases (r.send _).exec _ with _ | ⟨_ | ⟨⟨⟩⟩, v⟩
  · rfl
  · rfl
  · rfl

/-- A report to a channel that nothing is registered for fails. -/
theorem exec_report_unresolved {ref : ChannelRef}
    (href : r.flow.gatewaySpec.errorChannel = some ref)
    (hnone : r.channels.resolve ref = none) (failure : Failure) (w : World) :
    ∃ v, (r.report failure).exec w = some (.error (.destination ref.name), v) ∧
      v.channels = w.channels := by
  unfold report
  rw [href]
  refine ⟨{ w with journal := w.journal.push (.logged (.requestFailed r.flow.id failure)) }, ?_,
    rfl⟩
  simp [Runner.resolve, hnone]

/-- Any other report is one message to a live channel, and no reply, unless the channel refuses
it. -/
theorem exec_report_resolved {ref : ChannelRef} {live : LiveRef}
    (href : r.flow.gatewaySpec.errorChannel = some ref)
    (hlive : r.channels.resolve ref = some live) (failure : Failure) (w : World) :
    ∃ e u, e.payload = .of .failure failure ∧ e.headers.replyChannel = none ∧
      u.channels = w.channels ∧
      (r.report failure).exec w = (Run.send live e >>= fun _ => pure none).exec u := by
  refine ⟨⟨.fresh w.issued, .of .failure failure, .at w.clock⟩,
    { w with
      journal := w.journal.push (.logged (.requestFailed r.flow.id failure))
      issued := w.issued + 1 }, rfl, rfl, rfl, ?_⟩
  unfold report
  rw [href]
  simp [Runner.resolve, hlive, Run.newMessage, Run.freshId]

/-- A report succeeds if its channel is there and takes failures, and in no other case. -/
theorem report_ok_iff {ref : ChannelRef} (href : r.flow.gatewaySpec.errorChannel = some ref)
    (failure : Failure) (w : World) :
    (∃ v, (r.report failure).exec w = some (.ok none, v)) ↔
      ∃ live, r.channels.resolve ref = some live ∧ live.accepts w .failure = .ok () := by
  cases hresolve : r.channels.resolve ref with
  | none =>
    obtain ⟨v, hexec, -⟩ := exec_report_unresolved href hresolve failure w
    simp [hexec]
  | some live =>
    obtain ⟨e, u, hpayload, -, hu, hexec⟩ := exec_report_resolved href hresolve failure w
    obtain ⟨v, hsend, -⟩ := exec_send_accepts live e u
    rw [accepts_of_gates (gates_of_channels hu), hpayload] at hsend
    rw [hexec, Run.exec_bind, hsend]
    change _ ↔ ∃ live', some live = some live' ∧ _
    cases haccepts : live.accepts w .failure <;> simp [haccepts, Payload.of]

end Runner

end MessageFlow
