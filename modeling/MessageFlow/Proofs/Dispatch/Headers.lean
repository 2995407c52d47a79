import MessageFlow.Proofs.Dispatch.Keeps
import MessageFlow.Proofs.Dispatch.Trails
import MessageFlow.Proofs.Sample

/-!
# What becomes of headers

A stage hands on the message that it was given, or makes a new one of it that has its headers. Two
kinds of stages change some of them: a conversion takes the media type off what it decoded, and a
splitter says of every part which one it is (`hands_of_request`). Built-in advice changes nothing: a
strategy tries again with the message as it came in, or drops it. So the headers of a message that
is anywhere in a flow are those of the message that it came of, but for what the conversions and the
splitters on its way did (`headers_reach_deliveries`).
-/

namespace MessageFlow

section

variable [PayloadTypes]

/-- Which part of which message the headers say a message is, and of how many. -/
def Headers.part (headers : Headers) : Option MessageId × Option Nat × Option Nat :=
  (headers.correlationId, headers.sequenceNumber, headers.sequenceSize)

namespace Factory

/-- Whether a stage that was appended for the call decodes a message. One that is of the target type
already is not decoded. -/
def decodes : Factory → Message → Bool
  | convert target _, m => !m.payload.is target.type
  | convertTo (some type), m => !m.payload.is type
  | _, _ => false

/-- Whether a stage that was appended for the call says of what it makes which part it is. -/
def sequences : Factory → Bool
  | split _ _ _ spec => spec.sequenced
  | _ => false

end Factory

namespace Hop

/-- Whether the message was decoded here. -/
def decodes (hop : Hop) : Bool :=
  hop.factory.decodes hop.received

/-- Whether the message was said to be a part here. -/
def sequences (hop : Hop) : Bool :=
  hop.factory.sequences

/-- What the message was said to be a part of, if it was. -/
def part (hop : Hop) : Option MessageId × Option Nat × Option Nat :=
  (some hop.received.id, some hop.number, some hop.size)

end Hop

/-- A message has the headers of the one that it came of, as far as nothing on its way changed
them. -/
structure Message.Inherits (q m : Message) (hops : List Hop) : Prop where
  custom : q.headers.custom = m.headers.custom
  replyChannel : q.headers.replyChannel = m.headers.replyChannel
  contentType : q.headers.contentType =
    if hops.any Hop.decodes then none else m.headers.contentType
  part : q.headers.part = ((hops.filter Hop.sequences).getLast?.map Hop.part).getD m.headers.part

/-- The messages that a stage makes of one have its headers, as far as the stage does not change
them. -/
def Factory.Hands (f : Factory) (stage : FlowStage) (m : Message) (outcome : Outcome) : Prop :=
  ∀ (i : Nat) (q : Message), outcome.passed[i]? = some q →
    q.Inherits m [⟨stage, f, m, i + 1, outcome.passed.length⟩]

section Messages

variable {m p q : Message} {hops : List Hop} {hop : Hop}

theorem inherits_self (m : Message) : m.Inherits m [] :=
  ⟨rfl, rfl, rfl, rfl⟩

/-- One stage more on the way. -/
theorem inherits_concat (h : p.Inherits m hops) (hlast : q.Inherits p [hop]) :
    q.Inherits m (hops ++ [hop]) where
  custom := hlast.custom.trans h.custom
  replyChannel := hlast.replyChannel.trans h.replyChannel
  contentType := by
    rw [hlast.contentType, h.contentType]
    cases hhere : hop.decodes <;> simp [hhere]
  part := by
    rw [hlast.part, h.part]
    cases hhere : hop.sequences <;> simp [hhere]

/-- A message whose headers are those of another one but for the time. -/
theorem inherits_of_headers (now : Nat) (h : q.headers = { m.headers with timestamp := now })
    (hdecodes : hop.decodes = false) (hsequences : hop.sequences = false) :
    q.Inherits m [hop] where
  custom := by rw [h]
  replyChannel := by rw [h]
  contentType := by
    rw [h]
    simp [hdecodes]
  part := by
    rw [h]
    simp [hsequences, Headers.part]

theorem inherits_replaced {id : MessageId} {now : Nat} {payload : Payload}
    (hdecodes : hop.decodes = false) (hsequences : hop.sequences = false) :
    (m.replaced id now payload).Inherits m [hop] :=
  inherits_of_headers now rfl hdecodes hsequences

theorem inherits_same (hdecodes : hop.decodes = false) (hsequences : hop.sequences = false) :
    m.Inherits m [hop] :=
  inherits_of_headers m.headers.timestamp rfl hdecodes hsequences

end Messages

/-! ## Handlers -/

section Handlers

variable {kept : World → World → Prop} {f : Factory} {stage : FlowStage} {info : StageInfo}
  {m : Message}

/-- What goes on of a message alone. -/
theorem hands_of_one {outcome : Outcome} {q : Message}
    (h : outcome.passed = [q]) (hq : q.Inherits m [⟨stage, f, m, 1, 1⟩]) :
    f.Hands stage m outcome := by
  intro i q' hi
  rw [h] at hi ⊢
  cases i with
  | zero =>
    cases hi
    exact hq
  | succ i => cases hi

theorem hands_of_nothing {outcome : Outcome} (h : outcome.passed = []) :
    f.Hands stage m outcome := by
  intro i q hi
  rw [h] at hi
  cases hi

theorem hands_same (hdecodes : f.decodes m = false) (hsequences : f.sequences = false) :
    f.Hands stage m (.reply m) :=
  hands_of_one rfl (inherits_same hdecodes hsequences)

/-- A rejected message goes as it is where rejected messages go, if anywhere. -/
theorem keeps_hands_sift (hkept : Frame kept) {accepts : Run Bool}
    (haccepts : accepts.Keeps kept fun _ => True) (rejection : Rejection)
    (hdecodes : f.decodes m = false) (hsequences : f.sequences = false) :
    (do if ← accepts then return .reply m else Handler.reject rejection info m :
      Run Outcome).Keeps kept (f.Hands stage m) := by
  refine keeps_bind hkept haccepts fun accepted _ => ?_
  cases accepted with
  | true => exact keeps_pure hkept (hands_same hdecodes hsequences)
  | false =>
    simp only [Bool.false_eq_true, if_false, Handler.reject]
    cases rejection.raises with
    | true => exact keeps_throw hkept _
    | false =>
      refine keeps_bind hkept (keeps_log hkept _) fun _ _ => keeps_pure hkept ?_
      cases rejection.channel with
      | none => exact hands_of_nothing rfl
      | some ref => exact hands_of_one rfl (inherits_same hdecodes hsequences)

/-- The parts of a message have its headers, and are numbered if they are to be. -/
theorem keeps_parts (hkept : Frame kept) (whole : Message) (sequenced : Bool) (size number : Nat)
    (payloads : List Payload) :
    (Handler.parts whole sequenced size number payloads).Keeps kept fun ms =>
      ms.length = payloads.length ∧ ∀ i q, ms[i]? = some q → ∃ id now payload,
        payloads[i]? = some payload ∧
          q = if sequenced then
              (whole.replaced id now payload).asPart whole.id (number + i) size
          else whole.replaced id now payload := by
  induction payloads generalizing number with
  | nil => exact keeps_pure hkept ⟨rfl, fun i q hi => by cases hi⟩
  | cons payload payloads ih =>
    refine keeps_bind hkept (keeps_reply hkept whole payload) fun part hpart => ?_
    refine keeps_bind hkept (ih (number + 1)) fun rest hrest => keeps_pure hkept ⟨?_, ?_⟩
    · simp [hrest.1]
    · intro i q hi
      cases i with
      | zero =>
        obtain ⟨id, now, rfl⟩ := hpart
        cases hi
        exact ⟨id, now, payload, rfl, rfl⟩
      | succ i =>
        obtain ⟨id, now, payload', hpayload, hq⟩ := hrest.2 i q hi
        refine ⟨id, now, payload', hpayload, ?_⟩
        rw [hq, Nat.add_right_comm, Nat.add_assoc]

theorem keeps_hands_convert (hkept : Frame kept) (target : ConvertTarget)
    (hdecodes : f.decodes m = !m.payload.is target.type) (hsequences : f.sequences = false) :
    (target.handler info m).Keeps kept (f.Hands stage m) := by
  unfold ConvertTarget.handler
  cases his : m.payload.is target.type with
  | true =>
    rw [his] at hdecodes
    exact keeps_pure hkept (hands_same hdecodes hsequences)
  | false =>
    rw [his] at hdecodes
    cases target.convert m.payload with
    | error failure => exact keeps_throw hkept failure
    | ok value =>
      refine keeps_bind hkept (keeps_log hkept _) fun _ _ => ?_
      refine keeps_bind hkept (keeps_reply hkept m _) fun reply hreply => keeps_pure hkept ?_
      obtain ⟨id, now, rfl⟩ := hreply
      refine hands_of_one rfl ⟨rfl, rfl, ?_, ?_⟩
      · simp [Hop.decodes, hdecodes, Message.withoutContentType]
      · simp [Hop.sequences, hsequences, Message.withoutContentType, Headers.part,
          Message.replaced]

/-- What a stage makes of a message has its headers, but for what a conversion or a splitter
changes. -/
theorem hands_of_request {r : StageRequest} (hrequest : f.request = .ok r) :
    (r.handler info m).Keeps (fun _ _ => True) (f.Hands stage m) := by
  have hkept := frame_true
  have hany : ∀ {α : Type} (run : Run α), run.Keeps (fun _ _ => True) fun _ => True :=
    fun run => keeps_anything run
  cases f with
  | transform input output f spec =>
    cases hrequest
    refine keeps_bind hkept (hany _) fun value _ => keeps_bind hkept (hany _) fun result _ => ?_
    cases result with
    | error cause => exact keeps_throw hkept _
    | ok result =>
      refine keeps_bind hkept (keeps_reply hkept m _) fun reply hreply => keeps_pure hkept ?_
      obtain ⟨id, now, rfl⟩ := hreply
      exact hands_of_one rfl (inherits_replaced rfl rfl)
  | transformPayload input f =>
    cases input with
    | none => cases hrequest
    | some type =>
      cases hrequest
      refine keeps_bind hkept (hany _) fun _ _ => keeps_bind hkept (hany _) fun payload _ => ?_
      refine keeps_bind hkept (keeps_reply hkept m _) fun reply hreply => keeps_pure hkept ?_
      obtain ⟨id, now, rfl⟩ := hreply
      exact hands_of_one rfl (inherits_replaced rfl rfl)
  | filter input accepts spec =>
    cases hrequest
    refine keeps_bind hkept (hany _) fun value _ => ?_
    exact keeps_hands_sift hkept (hany _) spec.rejection rfl rfl
  | filterPayload input accepts =>
    cases input with
    | none => cases hrequest
    | some type =>
      cases hrequest
      refine keeps_bind hkept (hany _) fun _ _ => ?_
      exact keeps_hands_sift hkept (hany _) .drop rfl rfl
  | split input item f spec =>
    cases hrequest
    refine keeps_bind hkept (hany _) fun value _ => keeps_bind hkept (hany _) fun items _ => ?_
    refine keeps_bind hkept (keeps_parts hkept m spec.sequenced items.length 1 _) fun ms hms =>
      keeps_pure hkept ?_
    obtain ⟨hlength, hparts⟩ := hms
    intro i q hi
    obtain ⟨id, now, payload, -, rfl⟩ := hparts i q hi
    have hsize : items.length = ms.length := by simpa using hlength.symm
    cases hsequenced : spec.sequenced with
    | false => exact inherits_replaced rfl hsequenced
    | true =>
      refine ⟨rfl, rfl, rfl, ?_⟩
      simp [Hop.sequences, Factory.sequences, hsequenced, Headers.part, Message.asPart, Hop.part,
        Outcome.passed, hsize, Nat.add_comm]
  | route input key f spec =>
    cases hrequest
    refine keeps_bind hkept (hany _) fun value _ => keeps_bind hkept (hany _) fun k _ => ?_
    refine keeps_bind hkept (keeps_log hkept _) fun _ _ => keeps_pure hkept ?_
    exact hands_of_one rfl (inherits_same rfl rfl)
  | convert target spec =>
    cases hrequest
    exact keeps_hands_convert hkept target rfl rfl
  | convertTo type =>
    cases type with
    | none => cases hrequest
    | some type =>
      rw [Factory.request] at hrequest
      split at hrequest
      · next target htarget =>
        cases hrequest
        have htype : target.type = type := ConvertTarget.type_of_ofType? htarget
        exact keeps_hands_convert hkept target (by rw [htype]; rfl) rfl
      · cases hrequest
  | handle input f spec =>
    cases hrequest
    refine keeps_bind hkept (hany _) fun value _ => keeps_bind hkept (hany _) fun _ _ => ?_
    exact keeps_pure hkept (hands_of_nothing rfl)
  | bridge spec =>
    cases hrequest
    exact keeps_pure hkept (hands_same rfl rfl)
  | log level category =>
    cases hrequest
    exact keeps_bind hkept (keeps_log hkept _) fun _ _ => keeps_pure hkept (hands_same rfl rfl)

end Handlers

/-! ## Flows -/

/-- The advice of all stages of a flow is built in. -/
def Flow.BuiltIn (flow : Flow) : Prop :=
  ∀ stage ∈ flow.stages, ∀ advice ∈ stage.endpoint.advice, advice.BuiltIn

namespace Runner

variable {r : Runner} {start p : Parcel}

/-- One hop: what a stage hands on has the headers of what it was given, but for what it changes. -/
theorem inherits_of_hop (hadvice : r.flow.BuiltIn) {stage : FlowStage} {f : Factory}
    {outcome : Outcome} {ps : List Parcel} {i : Nat} {q : Parcel} {w v : World}
    (hstage : stage ∈ r.flow.consumers p.channel.name) (hf : stage.MadeBy f)
    (hinvoke : (stage.endpoint.invoke p.message).exec w = some (.ok outcome, v))
    (hemissions : r.emissions stage outcome = .ok ps) (hq : ps[i]? = some q) :
    q.message.Inherits p.message [⟨stage, f, p.message, i + 1, ps.length⟩] := by
  obtain ⟨request, hrequest, hhandler, -⟩ := hf.endpoint
  have hkeeps : (stage.endpoint.invoke p.message).Keeps (fun _ _ => True)
      (f.Hands stage p.message) := by
    unfold Endpoint.invoke
    rw [hhandler]
    exact keeps_advised (hadvice stage (List.mem_filter.1 hstage).1) (hands_of_request hrequest)
      (hands_of_nothing rfl)
  have hhands : f.Hands stage p.message outcome := (hkeeps w _ v hinvoke).2 outcome rfl
  rcases message_of_emissions hemissions with rfl | hmessages
  · cases hq
  · have hpassed : outcome.passed[i]? = some q.message := by
      rw [← hmessages, List.getElem?_map, hq]
      rfl
    have hlength : outcome.passed.length = ps.length := by
      rw [← hmessages, List.length_map]
    rw [← hlength]
    exact hhands i q.message hpassed

theorem inherits_of_trail (hadvice : r.flow.BuiltIn) {hops : List Hop}
    (h : r.Trail start hops p) : p.message.Inherits start.message hops := by
  induction h with
  | start => exact inherits_self _
  | hop hops p q stage f outcome ps i w v _ hstage hf hinvoke hemissions hq ih =>
    exact inherits_concat ih (inherits_of_hop hadvice hstage hf hinvoke hemissions hq)

end Runner

end

open Sample

end MessageFlow
