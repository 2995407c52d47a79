import MessageFlow.Proofs.Dispatch.Channels
import MessageFlow.Proofs.Dispatch.Stateless

/-!
# What a dispatch is made of

A dispatch is made of acts: a stage gets a message and puts what it produces into channels, or a
message that no stage takes is handed to a live channel. `acts` says what a parcel calls for, and a
round through a work list performs what its parcels call for, in order (`round_eq`).

Where things go is decided without a look at the world: `emissions` has the parcels that an outcome
leads to, and `destination` the reference that a parcel is delivered to in the end. Whether a live
channel takes a message was settled when it was opened, and no act changes that (`gates`).
-/

namespace MessageFlow

variable [PayloadTypes]

/-- Something that a dispatch does. -/
inductive Act where
  /-- A stage gets a message. What it produces is put into channels. -/
  | invoke (stage : FlowStage) (m : Message)
  /-- A parcel is handed to a live channel. -/
  | deliver (p : Parcel)

/-- The parcel that an act delivers. -/
def Act.delivered : Act → Option Parcel
  | invoke .. => none
  | deliver p => some p

/-- The parcels in which a stage puts a message out. -/
def FlowStage.onward (stage : FlowStage) (m : Message) : List Parcel :=
  match stage.endpoint.output with
  | some ref => [⟨ref, m⟩]
  | none => []

namespace Runner

/-- What a parcel calls for. -/
def acts (r : Runner) (p : Parcel) : List Act :=
  match r.flow.consumers p.channel.name with
  | [] => [.deliver p]
  | stages => stages.map fun stage => .invoke stage p.message

def perform (r : Runner) : Act → Run (List Parcel)
  | .invoke stage m => do
    let outcome ← stage.endpoint.invoke m
    r.forward stage outcome
  | .deliver p => do
    r.deliver p
    return []

/-- Performs acts in order, and returns the parcels that came of them. -/
def performAll (r : Runner) : List Act → Run (List Parcel)
  | [] => return []
  | a :: rest => do
    let first ← r.perform a
    return first ++ (← r.performAll rest)

/-- The reference that a parcel is delivered to. -/
def destination (r : Runner) (p : Parcel) : ChannelRef :=
  (if r.flow.output == some p.channel && p.channel.isAnonymous then
    p.message.headers.replyChannel
  else none).getD p.channel

/-- The parcels that an outcome of a stage leads to. -/
def emissions (r : Runner) (stage : FlowStage) : Outcome → Except Failure (List Parcel)
  | .reply m => .ok (stage.onward m)
  | .many ms => .ok (ms.flatMap stage.onward)
  | .discard m channel => .ok (channel.map fun ref => ⟨ref, m⟩).toList
  | .route decision =>
    if r.isResolvable decision.channel then .ok [⟨decision.channel, decision.message⟩]
    else
      match decision.fallback with
      | some ref => .ok [⟨ref, decision.message⟩]
      | none =>
        if decision.required then .error (.destination decision.channel.name)
        else .ok (stage.onward decision.message)
  | .done => .ok []

/-- Whether a parcel that no stage takes can be delivered. -/
def accepts (r : Runner) (w : World) (p : Parcel) : Except Failure Unit :=
  match r.channels.resolve (r.destination p) with
  | some live => live.accepts w p.message.payload.type
  | none => .error (.destination (r.destination p).name)

variable {r : Runner} {stage : FlowStage} {p : Parcel} {w : World}

theorem deliver_eq (r : Runner) (p : Parcel) :
    r.deliver p = r.resolve (r.destination p) >>= fun live => Run.send live p.message := rfl

/-! ## Acts in order -/

/-- Acts are done one after the other. -/
theorem performAll_append (r : Runner) (as bs : List Act) :
    r.performAll (as ++ bs) = do
      let first ← r.performAll as
      return first ++ (← r.performAll bs) := by
  induction as with
  | nil => simp [performAll]
  | cons a as ih =>
    simp only [List.cons_append, performAll, ih, bind_assoc, pure_bind]
    simp [List.append_assoc]

/-- Serving a message is giving it to each of the stages. -/
theorem serve_eq (r : Runner) (m : Message) (stages : List FlowStage) :
    r.serve m stages = r.performAll (stages.map fun stage => .invoke stage m) := by
  induction stages with
  | nil => rfl
  | cons stage stages ih => simp [serve, performAll, perform, ih]

/-- A visit is what the parcel calls for. -/
theorem visit_eq (r : Runner) (p : Parcel) : r.visit p = r.performAll (r.acts p) := by
  unfold visit acts
  cases r.flow.consumers p.channel.name with
  | nil => simp [performAll, perform]
  | cons stage stages => exact serve_eq r p.message (stage :: stages)

/-- A parcel that no stage consumes is delivered. -/
theorem visit_of_free (h : r.flow.consumers p.channel.name = []) :
    r.visit p = (do r.deliver p; return []) := by
  unfold visit
  rw [h]

/-- A channel with one consumer is an act of this stage, whatever message is put into it. -/
theorem visit_of_one {ref : ChannelRef} (h : r.flow.consumers ref.name = [stage]) (m : Message) :
    r.visit ⟨ref, m⟩ = (do r.forward stage (← stage.endpoint.invoke m)) := by
  have hacts : r.acts ⟨ref, m⟩ = [.invoke stage m] := by simp [acts, h]
  rw [visit_eq, hacts]
  simp [performAll, perform]

/-- A round performs what the parcels on the list call for. -/
theorem round_eq (r : Runner) (parcels : List Parcel) :
    Work.round r.visit parcels = r.performAll (parcels.flatMap r.acts) := by
  induction parcels with
  | nil => rfl
  | cons p parcels ih =>
    rw [Work.round, visit_eq, ih, List.flatMap_cons, performAll_append]

/-- Only stages that consume the channel of a parcel are invoked. -/
theorem mem_consumers_of_acts {m : Message} (h : .invoke stage m ∈ r.acts p) :
    stage ∈ r.flow.consumers p.channel.name := by
  unfold acts at h
  cases hstages : r.flow.consumers p.channel.name with
  | nil => simp [hstages] at h
  | cons first rest =>
    simp only [hstages, List.mem_map] at h
    obtain ⟨stage', hmem, he⟩ := h
    cases he
    exact hmem

/-- Only a parcel that no stage takes is delivered. -/
theorem free_of_acts {q : Parcel} (h : .deliver q ∈ r.acts p) :
    r.flow.consumers q.channel.name = [] := by
  unfold acts at h
  cases hstages : r.flow.consumers p.channel.name with
  | nil =>
    simp only [hstages, List.mem_singleton, Act.deliver.injEq] at h
    rw [h, hstages]
  | cons first rest => simp [hstages] at h

/-- The stages that parcels call for are stages of the flow. -/
theorem mem_stages_of_flatMap {parcels : List Parcel} {m : Message}
    (h : .invoke stage m ∈ parcels.flatMap r.acts) : stage ∈ r.flow.stages := by
  obtain ⟨p, -, hp⟩ := List.mem_flatMap.1 h
  exact (List.mem_filter.1 (mem_consumers_of_acts hp)).1

/-! ## Where things go -/

/-- Putting a message into the output of a stage writes to the journal at most. -/
theorem exec_emit (stage : FlowStage) (m : Message) (w : World) :
    ∃ entries, (emit stage m).exec w =
      some (.ok (stage.onward m), { w with journal := entries }) := by
  unfold emit FlowStage.onward
  cases stage.endpoint.output with
  | some ref => exact ⟨w.journal, rfl⟩
  | none => exact ⟨_, rfl⟩

/-- Putting messages into the output of a stage leaves at most lines in the journal. -/
theorem exec_emitAll (stage : FlowStage) (ms : List Message) (w : World) :
    ∃ entries, (emitAll stage ms).exec w =
      some (.ok (ms.flatMap stage.onward), { w with journal := entries }) := by
  induction ms generalizing w with
  | nil => exact ⟨w.journal, rfl⟩
  | cons m ms ih =>
    obtain ⟨entries, hfirst⟩ := exec_emit stage m w
    obtain ⟨entries', hrest⟩ := ih { w with journal := entries }
    exact ⟨entries', by simp [emitAll, hfirst, hrest, Except.map]⟩

/-- What a stage produced is put into channels, and nothing else happens but in the journal. -/
theorem exec_forward (r : Runner) (stage : FlowStage) (outcome : Outcome) (w : World) :
    ∃ entries, (r.forward stage outcome).exec w =
      some (r.emissions stage outcome, { w with journal := entries }) := by
  cases outcome with
  | reply m => exact exec_emit stage m w
  | many ms => exact exec_emitAll stage ms w
  | discard m channel => exact ⟨w.journal, rfl⟩
  | done => exact ⟨w.journal, rfl⟩
  | route decision =>
    simp only [forward, emissions]
    cases r.isResolvable decision.channel with
    | true => exact ⟨w.journal, rfl⟩
    | false =>
      cases decision.fallback with
      | some ref => exact ⟨w.journal, rfl⟩
      | none =>
        cases decision.required with
        | true => exact ⟨w.journal, rfl⟩
        | false => exact exec_emit stage decision.message w

/-- A message that asks for no reply goes where it is put. -/
theorem destination_of_unreplied (h : p.message.headers.replyChannel = none) :
    r.destination p = p.channel := by
  unfold destination
  rw [h]
  split <;> rfl

/-- A delivery succeeds if the parcel is accepted, and changes nothing about what channels take. -/
theorem exec_deliver_accepts (r : Runner) (p : Parcel) (w : World) :
    ∃ v, (r.deliver p).exec w = some (r.accepts w p, v) ∧ v.gates = w.gates := by
  rw [deliver_eq]
  unfold Runner.resolve Runner.accepts
  cases r.channels.resolve (r.destination p) with
  | none => exact ⟨w, rfl, rfl⟩
  | some live => simpa using exec_send_accepts live p.message w

/-- How an act fails: a stage does, or there is no way on for what it produced, or a parcel cannot
be delivered. -/
inductive Fails (r : Runner) (w : World) (failure : Failure) : Act → Prop where
  | invoked (stage : FlowStage) (m : Message) (v : World) :
      (stage.endpoint.invoke m).exec w = some (.error failure, v) →
      Fails r w failure (.invoke stage m)
  | stranded (stage : FlowStage) (m : Message) (outcome : Outcome) (v : World) :
      (stage.endpoint.invoke m).exec w = some (.ok outcome, v) →
      r.emissions stage outcome = .error failure → Fails r w failure (.invoke stage m)
  | undelivered (p : Parcel) : r.accepts w p = .error failure → Fails r w failure (.deliver p)

/-- Every way in which an act can fail. -/
theorem fails_of_perform {a : Act} {failure : Failure} {v : World}
    (h : (r.perform a).exec w = some (.error failure, v)) : r.Fails w failure a := by
  cases a with
  | invoke stage m =>
    rw [perform, Run.exec_bind] at h
    rcases hinvoke : (stage.endpoint.invoke m).exec w with _ | ⟨failure' | outcome, u⟩
    · simp [hinvoke] at h
    · rw [hinvoke] at h
      cases h
      exact .invoked stage m v hinvoke
    · obtain ⟨entries, hforward⟩ := exec_forward r stage outcome u
      simp only [hinvoke, hforward, Option.some.injEq, Prod.mk.injEq] at h
      exact .stranded stage m outcome u hinvoke h.1
  | deliver p =>
    obtain ⟨u, hdeliver, -⟩ := exec_deliver_accepts r p w
    rw [perform, Run.exec_bind, hdeliver] at h
    cases haccepts : r.accepts w p with
    | ok => simp [haccepts] at h
    | error failure' =>
      rw [haccepts] at h
      cases h
      exact .undelivered p haccepts

end Runner

end MessageFlow
