import MessageFlow.Proofs.Dispatch.Rounds
import MessageFlow.Proofs.Dispatch.Stages
import MessageFlow.Proofs.Line
import MessageFlow.Proofs.Sample

/-!
# Dispatch along a line

Dispatch works off a list: what a stage emits waits behind everything that was there before it. In
a flow that is a line, the list is always one level of the flow, the messages on their way to one
stage. A round through the list takes it to the next level, so a dispatch is as many rounds as there
are stages left, and then a delivery of what came through (`dispatch_through`). No round touches a
channel, and a delivery to an open queue cannot fail: a dispatch delivers everything or nothing
(`dispatch_line`).

Where a line ends in an anonymous channel, a message that asks for a reply is not put into the queue
of the output. A stage may ask for one on behalf of a message that did not (`reply_led_astray`), so
what comes through has to be looked at, and not only what is sent.
-/

namespace MessageFlow

section Lists

variable {α β : Type} [DecidableEq β] {g : α → β} {xs : List α} {x : α}

theorem filter_eq_singleton (hxs : (xs.map g).Nodup) (hx : x ∈ xs) :
    xs.filter (fun y => g y == g x) = [x] := by
  induction xs with
  | nil => cases hx
  | cons y xs ih =>
    rw [List.map_cons, List.nodup_cons] at hxs
    rcases List.mem_cons.1 hx with rfl | hx
    · have hrest : xs.filter (fun y => g y == g x) = [] := by
        rw [List.filter_eq_nil_iff]
        intro z hz he
        exact hxs.1 (List.mem_map.2 ⟨z, hz, by simpa using he⟩)
      simp [hrest]
    · have hne : g y ≠ g x := fun he => hxs.1 (List.mem_map.2 ⟨x, hx, he.symm⟩)
      simp [hne, ih hxs.2 hx]

end Lists

section

variable [PayloadTypes]

/-- A flow whose stages are a line to a channel. Its channels are known by their names, and no two
of them bear the same. -/
structure Flow.IsLine (flow : Flow) (out : ChannelRef) : Prop where
  output : flow.output = some out
  line : ∃ entrance, Line entrance flow.stages (some out)
  distinct : (flow.stages.map (·.input.name) ++ [out.name]).Nodup
  symbolic : out.isLive = false ∧ ∀ stage ∈ flow.stages, stage.input.isLive = false ∧
    ∀ ref, stage.endpoint.output = some ref → ref.isLive = false

namespace Flow

variable {flow : Flow} {out : ChannelRef} {stage : FlowStage}

/-- Where no two channels bear the same name, a stage is the only one that consumes its own. -/
theorem consumers_of_mem (h : (flow.stages.map (·.input.name) ++ [out.name]).Nodup)
    (hstage : stage ∈ flow.stages) : flow.consumers stage.input.name = [stage] :=
  filter_eq_singleton (List.nodup_append.1 h).1 hstage

theorem consumers_of_end (h : (flow.stages.map (·.input.name) ++ [out.name]).Nodup) :
    flow.consumers out.name = [] := by
  unfold consumers
  rw [List.filter_eq_nil_iff]
  intro stage hstage he
  exact (List.nodup_append.1 h).2.2 stage.input.name (List.mem_map.2 ⟨stage, hstage, rfl⟩) out.name
    List.mem_cons_self (by simpa using he)

/-- A stage is the only one that consumes its channel. -/
theorem IsLine.consumers_input (h : flow.IsLine out) (hstage : stage ∈ flow.stages) :
    flow.consumers stage.input.name = [stage] :=
  consumers_of_mem h.distinct hstage

/-- No stage consumes the output of the flow. -/
theorem IsLine.consumers_output (h : flow.IsLine out) : flow.consumers out.name = [] :=
  consumers_of_end h.distinct

end Flow

/-! ## Runners -/

/-- A flow that is a line can be run. What it puts out goes to the queue that is registered under
the name of its output, or to one that is opened. -/
theorem exec_create_line {flow : Flow} {out : ChannelRef} {registry : ChannelRegistry} {w : World}
    (hflow : flow.IsLine out)
    (hqueue : ∀ queue, registry.get out.name = some queue → queue.IsOpen w) :
    ∃ r v queue, (Runner.create flow registry).exec w = some (.ok r, v) ∧ r.flow = flow ∧
      r.channels.get out.name = some queue ∧ queue.IsOpen v ∧
      (registry.get out.name = some queue ∧ r.output = none ∨
        registry.get out.name = none ∧ r.output = some queue) := by
  rw [create_of_free hflow.output hflow.symbolic.1 hflow.consumers_output]
  cases hget : registry.get out.name with
  | some queue =>
    refine ⟨⟨w.runners.length, flow, registry, none⟩, { w with runners := w.runners ++ [.new] },
      queue, by simp [ChannelRegistry.contains, hget], rfl, hget, hqueue _ hget,
      Or.inl ⟨rfl, rfl⟩⟩
  | none =>
    obtain ⟨queue, registry', v, hexec, hget', hopen⟩ :=
      exec_queue hget { w with runners := w.runners ++ [.new] }
    refine ⟨⟨w.runners.length, flow, registry', some queue⟩, v, queue, ?_, rfl, hget', hopen,
      Or.inr ⟨rfl, rfl⟩⟩
    simp [ChannelRegistry.contains, hget, hexec]

theorem exec_create {flow : Flow} {out : ChannelRef} {registry : ChannelRegistry} {w : World}
    (hflow : flow.IsLine out)
    (hqueues : ∀ name queue, registry.get name = some queue → queue.IsOpen w) :
    ∃ r v queue, (Runner.create flow registry).exec w = some (.ok r, v) ∧ r.flow = flow ∧
      r.channels.get out.name = some queue ∧ queue.IsOpen v ∧
      (registry.get out.name = some queue ∧ r.output = none ∨
        registry.get out.name = none ∧ r.output = some queue) :=
  exec_create_line hflow (hqueues out.name)

/-- Dispatch along a line is the composition of its stages, all or nothing. A message that is put
into the channel of a stage goes through this stage and those behind it; if one of them fails, the
dispatch ends with the failure of the earliest stage that failed, and for the earliest of its
messages, and nothing happened to any channel. If none of them fails, what they make of the message
together is delivered in order, and this is all that happens to a channel. Unless the line ends in
an anonymous channel and something that came through asks for a reply, the delivery cannot fail, and
all of it is at the end of the queue of the output. -/
theorem dispatch_line {V E : Type} {view : Message → V} {blame : Failure → E}
    {f : FlowStage → V → Except E (List V)} {flow : Flow} {out : ChannelRef}
    {registry : ChannelRegistry} {w : World} (hflow : flow.IsLine out)
    (hcomputes : ∀ stage ∈ flow.stages, Computes view blame stage.endpoint.invoke (f stage))
    (hqueues : ∀ name queue, registry.get name = some queue → queue.IsOpen w) :
    ∃ r v queue, (Runner.create flow registry).exec w = some (.ok r, v) ∧
      (registry.get out.name = some queue ∧ r.output = none ∨
        registry.get out.name = none ∧ r.output = some queue) ∧
      queue.IsOpen v ∧
      ∀ before stage after, flow.stages = before ++ stage :: after →
      ∀ m u, queue.IsOpen u →
        match levels f (stage :: after) [view m] with
        | .ok vs =>
          through f (stage :: after) (view m) = .ok vs ∧
          ∃ ms t, ms.map view = vs ∧ t.channels = u.channels ∧
            (r.dispatch stage.input m).exec u =
              (r.deliverAll (reached stage.input (stage :: after)) ms).exec t ∧
            ((reached stage.input (stage :: after)).isAnonymous = false ∨
                (∀ q ∈ ms, q.headers.replyChannel = none) →
              ∃ u', (r.dispatch stage.input m).exec u = some (.ok (), u') ∧
                u'.channels = u.posted queue ms)
        | .error e =>
          ∃ failure u', (r.dispatch stage.input m).exec u = some (.error failure, u') ∧
            blame failure = e ∧ u'.channels = u.channels := by
  obtain ⟨r, v, queue, hexec, rfl, hget, hopen, houtput⟩ := exec_create hflow hqueues
  refine ⟨r, v, queue, hexec, houtput, hopen, ?_⟩
  intro before stage after hstages m u hu
  obtain ⟨entrance, hline⟩ := hflow.line
  have hmem : ∀ s ∈ stage :: after, s ∈ r.flow.stages := fun s hs => by
    rw [hstages]
    exact List.mem_append_right before hs
  have hsuffix : Line (some stage.input) (stage :: after) (some out) :=
    line_suffix (hstages ▸ hline)
  have hdispatch := dispatch_through (fun s hs => hflow.consumers_input (hmem s hs))
    hflow.consumers_output hsuffix (fun s hs => hcomputes s (hmem s hs)) (m := m) trivial u
  cases hlevels : levels f (stage :: after) [view m] with
  | error e =>
    rw [hlevels] at hdispatch
    exact hdispatch
  | ok vs =>
    rw [hlevels] at hdispatch
    obtain ⟨ms, t, hviews, -, ht, hdispatch⟩ := hdispatch
    refine ⟨levels_singleton_eq_ok.1 hlevels, ms, t, hviews, ht, hdispatch, fun hsettled => ?_⟩
    have hsymbolic : (reached stage.input (stage :: after)).isLive = false :=
      reached_induction (hflow.symbolic.2 stage (hmem stage List.mem_cons_self)).1 fun s hs =>
        (hflow.symbolic.2 s (hmem s hs)).2
    have hqueue : r.channels.resolve (reached stage.input (stage :: after)) = some queue := by
      rw [resolve_eq_get hsymbolic, name_reached hsuffix, hget]
    obtain ⟨u', hdeliver, hposted⟩ :=
      exec_deliverAll_settled hqueue hsettled (isOpen_of_gates hu (gates_of_channels ht))
    exact ⟨u', hdispatch.trans hdeliver, by rw [hposted, posted_congr ht]⟩

end

open Sample

/-- Numbers are split up, and then those that are negative fail. -/
def checkedNumbers : Flow :=
  { id := "numbers"
    source := .channel "in" false
    input := .named "in"
    output := some (.anonymous "numbers.channel#0")
    stages :=
      [ ⟨.named "in", ⟨⟨"each", .split⟩, .numbers,
          .split .numbers .number (fun ns => pure ns) true, [],
          none, some (.named "mid")⟩⟩,
        ⟨.named "mid", ⟨⟨"check", .transform⟩, .number,
          .transform .number .number (fun n => pure (checkedNumber n)), [Advice.tracing], none,
          some (.anonymous "numbers.channel#0")⟩⟩ ]
    components := .empty
    poller := .standard }
where
  /-- The number, unless it is negative. -/
  checkedNumber (n : Int32) : Except Cause Int32 :=
    if n < 0 then .error (.text "negative") else .ok n

/-- What the stages of `checkedNumbers` compute. -/
def checksOf (stage : FlowStage) : Payload × Headers → Faces :=
  if stage.endpoint.info.kind = .split then
    parted stage.endpoint.info .numbers .number (fun ns => .ok ns) true
  else transformed stage.endpoint.info .number .number fun n => .ok (checkedNumbers.checkedNumber n)

/-- Two numbers come through; of three with negative ones among them none does. -/
theorem dispatch_line_numbers :
    ∃ r v queue, (Runner.create checkedNumbers .empty).exec (.new 0) = some (.ok r, v) ∧
      (∃ ms u, (r.dispatch (.named "in") ⟨.fresh 0, .of .numbers [1, 2], .at 0⟩).exec v =
          some (.ok (), u) ∧
        ms.map (fun m => m.face.1) = [.of .number 1, .of .number 2] ∧
        u.channels = v.posted queue ms) ∧
      ∃ failure u, (r.dispatch (.named "in") ⟨.fresh 0, .of .numbers [1, -1, -2], .at 0⟩).exec v =
          some (.error failure, u) ∧
        failure.face = .handler ⟨"check", .transform⟩ (.text "negative") ∧
        u.channels = v.channels := by
  have hflow : checkedNumbers.IsLine (.anonymous "numbers.channel#0") :=
    ⟨rfl, ⟨some (.named "in"), rfl, rfl, rfl⟩, by decide, rfl, by
      simp [checkedNumbers, ChannelRef.isLive]⟩
  have hcomputes : ∀ stage ∈ checkedNumbers.stages,
      Computes Message.face Failure.face stage.endpoint.invoke (checksOf stage) := by
    intro stage hstage
    simp only [checkedNumbers, List.mem_cons, List.not_mem_nil, or_false] at hstage
    rcases hstage with rfl | rfl
    · exact computes_split .numbers .number (amountsTo_pure _) true
    · exact computes_traced _ (computes_transform .number .number (amountsTo_pure _))
  have hqueues : ∀ name queue, ChannelRegistry.empty.get name = some queue →
      queue.IsOpen (.new 0) := fun _ _ h => by cases h
  obtain ⟨r, v, queue, hexec, -, hopen, hdispatch⟩ := dispatch_line hflow hcomputes hqueues
  have hgood := hdispatch [] _ _ rfl ⟨.fresh 0, .of .numbers [1, 2], .at 0⟩ v hopen
  have hbad := hdispatch [] _ _ rfl ⟨.fresh 0, .of .numbers [1, -1, -2], .at 0⟩ v hopen
  refine ⟨r, v, queue, hexec, ?_, hbad⟩
  obtain ⟨-, ms, t, hviews, -, -, hdelivers⟩ := hgood
  -- The faces of what came through show that no reply is asked for.
  have hreplies : ∀ q ∈ ms, q.headers.replyChannel = none := by
    intro q hq
    have hface : q.face ∈ ms.map Message.face := List.mem_map_of_mem hq
    rw [hviews] at hface
    rcases List.mem_cons.1 hface with hface | hface
    · exact congrArg (fun face => face.2.replyChannel) hface
    · exact congrArg (fun face => face.2.replyChannel) (List.mem_singleton.1 hface)
  obtain ⟨u, hrun, hposted⟩ := hdelivers (.inr hreplies)
  have hpayloads := congrArg (List.map Prod.fst) hviews
  rw [List.map_map] at hpayloads
  exact ⟨ms, u, hrun, hpayloads, hposted⟩

/-- Advice of a user that has a message ask for a reply. -/
def Advice.asking (reply : ChannelRef) : Advice := fun _ m proceed =>
  proceed (m.withReplyChannel reply)

/-- A bridge whose advice asks for replies in a channel that there is not. -/
def askingFlow : Flow :=
  { id := "f"
    source := .channel "in" false
    input := .named "in"
    output := some (.anonymous "f.channel#0")
    stages := [⟨.named "in",
      ⟨⟨"f.bridge#0", .bridge⟩, .payload, .bridge, [Advice.asking (.named "x")], none,
        some (.anonymous "f.channel#0")⟩⟩]
    components := .empty
    poller := .standard }

/-- What the bridge makes of a face. -/
def askedFor (face : Payload × Headers) : Payload × Headers :=
  (face.1, { face.2 with replyChannel := some (.named "x") })

/-- A message that asks for no reply. -/
def unasked : Message :=
  ⟨.fresh 0, .of .numbers [1], .at 0⟩

/-- A message that asks for no reply goes through this line, and no stage fails. It does not get to
the output all the same: the dispatch fails, for want of the channel that the advice named. -/
theorem reply_led_astray :
    askingFlow.IsLine (.anonymous "f.channel#0") ∧ unasked.headers.replyChannel = none ∧
      (∀ stage ∈ askingFlow.stages, Computes Message.face Failure.face stage.endpoint.invoke
        fun face => .ok [askedFor face]) ∧
      levels (fun _ face => (.ok [askedFor face] : Faces)) askingFlow.stages [unasked.face] =
        .ok [askedFor unasked.face] ∧
      ∃ r v, (Runner.create askingFlow .empty).exec (.new 0) = some (.ok r, v) ∧
        (r.dispatch (.named "in") unasked).exec v = some (.error (.destination "x"), v) := by
  have hflow : askingFlow.IsLine (.anonymous "f.channel#0") :=
    ⟨rfl, ⟨some (.named "in"), rfl, rfl⟩, by decide, rfl, by
      simp [askingFlow, ChannelRef.isLive]⟩
  have hcomputes : ∀ stage ∈ askingFlow.stages, Computes Message.face Failure.face
      stage.endpoint.invoke fun face => .ok [askedFor face] := by
    intro stage hstage
    cases List.mem_singleton.1 hstage
    exact fun q _ => follows_pure ⟨[q.withReplyChannel (.named "x")], rfl, rfl, by simp⟩
  let out : ChannelRef := .anonymous "f.channel#0"
  let asked : Message := unasked.withReplyChannel (.named "x")
  let r : Runner :=
    ⟨0, askingFlow, ⟨[("f.channel#0", ⟨0, "f.channel#0"⟩)]⟩, some ⟨0, "f.channel#0"⟩⟩
  let v : World :=
    { World.new 0 with channels := [.queue "f.channel#0"], runners := [.new] }
  have hbridged : (r.visit ⟨.named "in", unasked⟩).exec v = some (.ok [⟨out, asked⟩], v) := rfl
  have hdelivered : (r.visit ⟨out, asked⟩).exec v = some (.error (.destination "x"), v) := by
    rw [Runner.visit_of_free rfl]
    rfl
  refine ⟨hflow, rfl, hcomputes, rfl, r, v, rfl, ?_⟩
  rw [Runner.dispatch, Work.run_cons, Run.exec_bind, hbridged]
  simp only [List.nil_append]
  rw [Work.run_cons, Run.exec_bind, hdelivered]

end MessageFlow
