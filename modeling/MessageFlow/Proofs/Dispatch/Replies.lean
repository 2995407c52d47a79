import MessageFlow.Proofs.Dispatch.Output
import MessageFlow.Proofs.Sample

/-!
# Replies

A message that reaches the anonymous output of a flow goes to its reply channel, if it has one. What
counts is the reference that the message was put into: it must be anonymous itself. References that
are equal to it, but are known by name or are live, lead to the channel that is registered for the
output, or to the live channel (`reply_found_iff`).
-/

namespace MessageFlow

section

variable [PayloadTypes]

/-- A channel that was computed from a key is known by its name. -/
theorem channelFor_of_unmapped {key : KeyType} {routing : Routing key} {k : key.denote}
    (h : routing.mappings.lookup k = none) :
    routing.channelFor k = .named (routing.before ++ key.text k ++ routing.after) := by
  unfold Routing.channelFor
  rw [h]

namespace Runner

variable {r : Runner} {name : String} {p : Parcel} {reply : ChannelRef} {live queue : LiveRef}

/-- Where a message goes that reaches the output and asks for a reply. -/
theorem destination_of_output {out : ChannelRef} (hout : r.flow.output = some out)
    (hp : p.channel.name = out.name) (hreply : p.message.headers.replyChannel = some reply) :
    r.destination p = if p.channel.isAnonymous then reply else p.channel := by
  have hsame : (r.flow.output == some p.channel) = true := by
    rw [hout]
    exact ChannelRef.beq_iff_name_eq.2 hp.symm
  unfold destination
  rw [hsame, hreply, Bool.true_and]
  cases p.channel.isAnonymous <;> rfl

/-- The reference that a parcel is put into is one that the stage was given: its output, the channel
for what it rejects, or what its router chose. -/
theorem channel_of_emissions {stage : FlowStage} {outcome : Outcome} {ps : List Parcel}
    (h : r.emissions stage outcome = .ok ps) (hp : p ∈ ps) :
    stage.endpoint.output = some p.channel ∨ (∃ m, outcome = .discard m (some p.channel)) ∨
      ∃ decision, outcome = .route decision ∧
        (decision.channel = p.channel ∨ decision.fallback = some p.channel) := by
  have honward : ∀ m, p ∈ stage.onward m → stage.endpoint.output = some p.channel := by
    intro m hmem
    unfold FlowStage.onward at hmem
    cases hout : stage.endpoint.output with
    | none => simp [hout] at hmem
    | some ref =>
      simp only [hout, List.mem_singleton] at hmem
      rw [hmem]
  cases outcome with
  | reply m =>
    cases h
    exact .inl (honward m hp)
  | many ms =>
    cases h
    obtain ⟨m, -, hmem⟩ := List.mem_flatMap.1 hp
    exact .inl (honward m hmem)
  | discard m channel =>
    cases h
    cases channel with
    | none => cases hp
    | some ref =>
      cases List.mem_singleton.1 hp
      exact .inr (.inl ⟨m, rfl⟩)
  | done =>
    cases h
    cases hp
  | route decision =>
    simp only [emissions] at h
    split at h
    · cases h
      cases List.mem_singleton.1 hp
      exact .inr (.inr ⟨decision, rfl, .inl rfl⟩)
    · cases hfallback : decision.fallback with
      | some ref =>
        simp only [hfallback] at h
        cases h
        cases List.mem_singleton.1 hp
        exact .inr (.inr ⟨decision, rfl, .inr hfallback⟩)
      | none =>
        simp only [hfallback] at h
        split at h
        · cases h
        · cases h
          exact .inl (honward decision.message hp)

/-- A message that is delivered is at the end of one queue, and that is all. -/
theorem exec_dispatch_of_free (hfree : r.flow.consumers p.channel.name = [])
    (hresolve : r.channels.resolve (r.destination p) = some live) {w : World}
    (hopen : live.IsOpen w) :
    ∃ v, (r.dispatch p.channel p.message).exec w = some (.ok (), v) ∧
      v.channels = w.posted live [p.message] := by
  obtain ⟨v, hsend, hposted⟩ := exec_send hopen p.message
  have hvisit := (visit_eq_send_iff hfree).2 hresolve
  refine ⟨v, ?_, hposted⟩
  rw [dispatch, Work.run_cons, hvisit]
  simp [hsend]

end Runner

/-- If the output of a flow is anonymous and nobody takes it, a message that reaches it and asks for
a reply is sent to its reply channel if, and only if, it was put into an anonymous channel of this
name or into the reply channel itself. Any other name for the output leads to the queue that is
registered for it. A stage passes on the references that it was given, so each of them may be
anonymous or not; one that a router computed from a key never is. -/
theorem reply_found_iff {r : Runner} {name : String}
    (hout : r.flow.output = some (.anonymous name)) (hfree : r.flow.consumers name = [])
    {p : Parcel} (hp : p.channel.name = name) {reply : ChannelRef} {live : LiveRef}
    (hreply : p.message.headers.replyChannel = some reply)
    (hlive : r.channels.resolve reply = some live) :
    (r.visit p = (do Run.send live p.message; return []) ↔
      p.channel.isAnonymous = true ∨ r.channels.resolve p.channel = some live) ∧
    (∀ queue w, r.channels.get name = some queue → p.channel.isLive = false →
      live.IsOpen w → queue.IsOpen w →
      ∃ v, (r.dispatch p.channel p.message).exec w = some (.ok (), v) ∧
        v.channels = w.posted (if p.channel.isAnonymous then live else queue) [p.message] ∧
        (p.channel.isAnonymous = true → queue.key ≠ live.key →
          v.channels[queue.key]? = w.channels[queue.key]?)) ∧
    (∀ stage outcome ps, r.emissions stage outcome = .ok ps → p ∈ ps →
      stage.endpoint.output = some p.channel ∨ (∃ m, outcome = .discard m (some p.channel)) ∨
      ∃ decision, outcome = .route decision ∧
        (decision.channel = p.channel ∨ decision.fallback = some p.channel)) ∧
    ∀ (key : KeyType) (routing : Routing key) (k : key.denote),
      routing.mappings.lookup k = none → p.channel = routing.channelFor k →
      p.channel.isAnonymous = false := by
  have hdestination := Runner.destination_of_output hout hp hreply
  have hfree' : r.flow.consumers p.channel.name = [] := hp ▸ hfree
  refine ⟨?_, ?_, fun _ _ _ h hmem => Runner.channel_of_emissions h hmem, ?_⟩
  · rw [Runner.visit_eq_send_iff hfree', hdestination]
    cases p.channel.isAnonymous <;> simp [hlive]
  · intro queue w hqueue hsymbolic hliveOpen hqueueOpen
    have hregistered : r.channels.resolve p.channel = some queue := by
      rw [resolve_eq_get hsymbolic, hp, hqueue]
    have hresolve : r.channels.resolve (r.destination p) =
        some (if p.channel.isAnonymous then live else queue) := by
      rw [hdestination]
      cases p.channel.isAnonymous
      · exact hregistered
      · exact hlive
    have hopen : (if p.channel.isAnonymous then live else queue).IsOpen w := by
      cases p.channel.isAnonymous
      · exact hqueueOpen
      · exact hliveOpen
    obtain ⟨v, hexec, hposted⟩ := Runner.exec_dispatch_of_free hfree' hresolve hopen
    refine ⟨v, hexec, hposted, fun hanonymous hkey => ?_⟩
    rw [hposted, hanonymous]
    exact posted_getElem? hkey [p.message]
  · intro key routing k hunmapped hchannel
    rw [hchannel, channelFor_of_unmapped hunmapped]
    rfl

/-- If no call gave a channel for the end of a flow, what its last stage puts out finds the reply
channel. -/
theorem replies_of_open_end (id : String) (source : Source) (config : FlowConfig) (cs : List Call)
    (hraw : ∀ c ∈ cs, c.isRaw = false) {flow : Flow}
    (hflow : (Composer.finish.exec ((FlowDefinition.start id source config).afterAll cs)).1 =
      .ok flow) {last : FlowStage} (hlast : flow.stages.getLast? = some last)
    (hgiven : Outlet.ofCalls source ((FlowDefinition.start id source config).succeeded cs) = none)
    {r : Runner} (hr : r.flow = flow)
    (hfree : ∀ ref, last.endpoint.output = some ref → flow.consumers ref.name = [])
    {m : Message} {reply : ChannelRef} {live : LiveRef}
    (hreply : m.headers.replyChannel = some reply) (hlive : r.channels.resolve reply = some live) :
    ∃ p, last.onward m = [p] ∧ r.visit p = (do Run.send live m; return []) := by
  obtain ⟨o, htip, hheld, ho⟩ := outlet_of_finished id source config cs hraw hflow
  rcases ho with ho | ⟨-, name, rfl⟩
  · rw [hgiven] at ho
    cases ho
  have hout : last.endpoint.output = some (.anonymous name) := hheld last hlast
  refine ⟨⟨.anonymous name, m⟩, by rw [FlowStage.onward, hout], ?_⟩
  rw [← hr] at htip hfree
  rw [Runner.visit_eq_send_iff (p := ⟨.anonymous name, m⟩) (hfree _ hout),
    Runner.destination_of_output htip rfl hreply]
  exact hlive

end

open Sample

/-- A flow that ends in an anonymous channel. -/
def openEnded : Flow :=
  { id := "f"
    source := .channel "in" false
    input := .named "in"
    output := some (.anonymous "f.channel#0")
    stages := [⟨.named "in",
      ⟨⟨"f.bridge#0", .bridge⟩, .payload, .bridge, [], none, some (.anonymous "f.channel#0")⟩⟩]
    components := .empty
    poller := .standard }

/-- A message that asks for a reply in the first of two queues. -/
def asking : Message :=
  Message.withReplyChannel ⟨.fresh 0, .of .number 1, .at 0⟩ (.live ⟨0, "replies"⟩)

/-- Two queues, one for replies and one that is registered for the output. -/
def twoQueues : World :=
  { World.new 0 with
    channels := [.queue "replies", .queue "f.channel#0"] }

/-- A reply is found. -/
theorem reply_found_iff_anonymous :
    let r : Runner := ⟨0, openEnded, ⟨[("f.channel#0", ⟨1, "f.channel#0"⟩)]⟩, none⟩
    ∃ v, (r.dispatch (.anonymous "f.channel#0") asking).exec twoQueues = some (.ok (), v) ∧
      v.channels = twoQueues.posted ⟨0, "replies"⟩ [asking] ∧
      v.channels[1]? = twoQueues.channels[1]? := by
  intro r
  obtain ⟨-, hdispatch, -⟩ := reply_found_iff (r := r) (p := ⟨.anonymous "f.channel#0", asking⟩)
    rfl rfl rfl rfl rfl
  obtain ⟨v, hexec, hposted, hqueue⟩ := hdispatch ⟨1, "f.channel#0"⟩ twoQueues rfl rfl
    ⟨_, rfl, rfl⟩ ⟨_, rfl, rfl⟩
  exact ⟨v, hexec, hposted, hqueue rfl (by decide)⟩

/-- The same message misses its reply channel if it is put into the output by name. -/
theorem reply_missed :
    let r : Runner := ⟨0, openEnded, ⟨[("f.channel#0", ⟨1, "f.channel#0"⟩)]⟩, none⟩
    r.flow.output = some (.anonymous "f.channel#0") ∧ r.flow.consumers "f.channel#0" = [] ∧
      (ChannelRef.named "f.channel#0" == .anonymous "f.channel#0") = true ∧
      r.channels.resolve (.live ⟨0, "replies"⟩) = some ⟨0, "replies"⟩ ∧
      ∃ v, (r.dispatch (.named "f.channel#0") asking).exec twoQueues = some (.ok (), v) ∧
        v.channels = twoQueues.posted ⟨1, "f.channel#0"⟩ [asking] ∧
        v.channels[0]? = twoQueues.channels[0]? := by
  intro r
  obtain ⟨v, hexec, hposted⟩ := Runner.exec_dispatch_of_free (r := r) (w := twoQueues)
    (p := ⟨.named "f.channel#0", asking⟩) rfl rfl ⟨_, rfl, rfl⟩
  refine ⟨rfl, rfl, by decide, rfl, v, hexec, hposted, ?_⟩
  rw [hposted]
  exact posted_getElem? (by decide) [asking]

end MessageFlow
