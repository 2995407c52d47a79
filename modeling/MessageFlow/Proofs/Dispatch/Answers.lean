import MessageFlow.Proofs.Dispatch.Delivery
import MessageFlow.Proofs.Dispatch.Keeps
import MessageFlow.Proofs.Dispatch.Plain
import MessageFlow.Proofs.Dispatch.Requests
import MessageFlow.Proofs.Dispatch.Waiting
import MessageFlow.Proofs.Sample

/-!
# What requests are answered with

A request to a flow that is a line is answered with the first message that comes through. Where no
message can come, the answer is that there is none, and every wait ends: the failure of a stage goes
to the caller or to the error channel, and messages of a flow that ends on a named channel are in
this channel (`request_along_line`).

Whether messages are replies is decided by the reference that the last stage has for the output
(`Flow.held`), not by the one that the flow reports. The two bear one name, but one may be anonymous
and the other not; then a request is not answered as the output of the flow promises, and in no
other case (`settlement_eq_iff`).
-/

namespace MessageFlow

section

variable [PayloadTypes]

/-- The channel that a line leads to, as its last stage refers to it. -/
def Flow.held (flow : Flow) : ChannelRef :=
  reached flow.input flow.stages

/-- How a request is answered that certain messages came of, and what is in the channels after it.
Replies are in a channel of their own, which the first one is taken from; other messages are at the
end of a queue. -/
def settlement (replied : Bool) (queue : LiveRef) (ms : List Message)
    (contents : List (List Message)) : Option Message × List (List Message) :=
  if replied then (ms.head?, contents ++ [ms.tail])
  else (none, contents.modify queue.key (· ++ ms) ++ [[]])

/-- It makes no difference whether nothing is a reply. -/
theorem settlement_eq_iff {replied replied' : Bool} {queue : LiveRef} {ms : List Message}
    {contents : List (List Message)} :
    settlement replied queue ms contents = settlement replied' queue ms contents ↔
      replied = replied' ∨ ms = [] := by
  cases ms with
  | nil =>
    have hsame : contents.modify queue.key (fun queued => queued) = contents :=
      List.modify_id queue.key contents
    cases replied <;> cases replied' <;> simp [settlement, hsame]
  | cons m ms => cases replied <;> cases replied' <;> simp [settlement]

section Steady

variable {w v : World}

theorem steady_send (live : LiveRef) (m : Message) :
    (Run.send live m).Returns World.Steady fun _ => True := by
  intro w
  refine ⟨_, _, exec_send_eq live m w, ?_, fun _ _ => trivial⟩
  split
  · exact ⟨rfl, rfl⟩
  · exact ⟨rfl, rfl⟩

/-- A dispatch leaves alone what its stages leave alone. -/
theorem steady_of_exec {r : Runner}
    (hstages : ∀ stage ∈ r.flow.stages, ∀ m,
      (stage.endpoint.invoke m).Returns World.Steady fun _ => True)
    {parcels : List Parcel} {result : Except Failure Unit}
    (h : (Work.run r.visit parcels).exec w = some (result, v)) : w.Steady v :=
  (Runner.keeps_work frame_steady (fun live m => keeps_of_returns (steady_send live m))
    (fun stage hstage m => keeps_of_returns (hstages stage hstage m)) parcels w result v h).1

end Steady

namespace Runner

section Lines

variable {V E : Type} {view : Message → V} {blame : Failure → E}
  {f : FlowStage → V → Except E (List V)} {r : Runner} {out : ChannelRef} {w : World}
  {reply : ChannelRef} {live : LiveRef} {m : Message}

/-- A message that asks for a reply goes through a line like any other. What comes of it goes where
the reply channel, or the reference that the last stage has for the output, leads to. -/
theorem exec_send_line (hflow : r.flow.IsLine out)
    (hline : Line (some r.flow.input) r.flow.stages (some out))
    (hcomputes : ∀ stage ∈ r.flow.stages,
      ComputesFor view blame (some reply) stage.endpoint.invoke (f stage))
    (hm : m.headers.replyChannel = some reply)
    (hlive : r.channels.resolve
      (if r.flow.held.isAnonymous then reply else r.flow.held) = some live)
    (hopen : live.IsOpen w) :
    match levels f r.flow.stages [view m] with
    | .error e => ∃ failure v, (r.send m).exec w = some (.error failure, v) ∧ blame failure = e ∧
        v.channels = w.channels
    | .ok vs => ∃ ms v, (r.send m).exec w = some (.ok (), v) ∧ ms.map view = vs ∧
        v.channels = w.posted live ms := by
  have hdispatch := dispatch_through (fun stage hstage => hflow.consumers_input hstage)
    hflow.consumers_output hline hcomputes hm w
  rw [send]
  cases hlevels : levels f r.flow.stages [view m] with
  | error e =>
    rw [hlevels] at hdispatch
    exact hdispatch
  | ok vs =>
    rw [hlevels] at hdispatch
    obtain ⟨ms, u, hviews, hreplies, hu, hdispatch⟩ := hdispatch
    have hdestination : ∀ q ∈ ms,
        r.channels.resolve (r.destination ⟨r.flow.held, q⟩) = some live := by
      intro q hq
      rw [destination_of_output (p := ⟨r.flow.held, q⟩) hflow.output (name_reached hline)
        (hreplies q hq)]
      exact hlive
    obtain ⟨v, hdeliver, hposted⟩ :=
      exec_deliverAll hdestination (isOpen_of_gates hopen (gates_of_channels hu))
    exact ⟨ms, v, hdispatch.trans hdeliver, hviews, by rw [hposted, posted_congr hu]⟩

end Lines

section Requests

variable {r : Runner} {runners : List Runner} {payload : Payload} {u v : World}
  {live queue : LiveRef} {ms : List Message} {failure : Failure}

/-- Messages in the queue of a request are on their own. -/
theorem posted_inquire_queue : (r.inquire payload u).world.posted (r.inquire payload u).queue ms =
    u.channels ++ [⟨(r.inquire payload u).queue.name, fun _ => true, ⟨ms, [], []⟩⟩] :=
  modify_last _ u.channels _

theorem posted_inquire (h : queue.IsOpen u) : (r.inquire payload u).world.posted queue ms =
    u.posted queue ms ++ [.queue (r.inquire payload u).queue.name] :=
  modify_append (lt_of_isOpen h) _ _

theorem contents_inquire : (r.inquire payload u).world.contents = u.contents ++ [[]] := by
  simp [inquire, World.contents, LiveChannel.contents, Mailbox.empty]

theorem isOpen_inquire (h : live.IsOpen u) : live.IsOpen (r.inquire payload u).world := by
  have hlt := lt_of_isOpen h
  obtain ⟨channel, hchannel, hopen⟩ := h
  exact ⟨channel, by simp [inquire, List.getElem?_append_left hlt, hchannel], hopen⟩

theorem quiet_inquire (h : u.Quiet runners) : (r.inquire payload u).world.Quiet runners := by
  intro other hother state hstate
  simp only [inquire, List.getElem?_modify] at hstate
  obtain ⟨old, hold, rfl⟩ := Option.map_eq_some_iff.1 hstate
  have hpump := h other hother old hold
  split
  · exact hpump
  · exact hpump

/-- The failure of a request is returned, or it is in the error channel, and that is all. -/
theorem exec_request_failed
    (hsend : (r.send (r.inquire payload u).message).exec (r.inquire payload u).world =
      some (.error failure, v))
    (hchannels : v.channels = (r.inquire payload u).world.channels) :
    match r.flow.gatewaySpec.errorChannel with
    | none => ∃ u', (Runner.request runners r payload).exec u = some (.error failure, u') ∧
        u'.contents = u.contents ++ [[]]
    | some ref => ∀ live, r.channels.resolve ref = some live → live.IsOpen u →
        ∃ e u', e.payload = .of .failure failure ∧
          (Runner.request runners r payload).exec u = some (.ok none, u') ∧
          u'.contents = u.contents.modify live.key (· ++ [e]) ++ [[]] := by
  have hrequest : (Runner.request runners r payload).exec u = (r.report failure).exec v := by
    rw [exec_request, hsend]
  have hv : v.contents = u.contents ++ [[]] :=
    (contents_of_channels hchannels).trans contents_inquire
  rw [hrequest]
  cases hspec : r.flow.gatewaySpec.errorChannel with
  | none =>
    refine ⟨v, ?_, hv⟩
    simp [report, hspec]
  | some ref =>
    intro live hlive hopen
    obtain ⟨e, w, hpayload, -, hw, hexec⟩ := exec_report_resolved hspec hlive failure v
    have hopen' : live.IsOpen w :=
      isOpen_of_gates (isOpen_inquire hopen) (gates_of_channels (hw.trans hchannels))
    obtain ⟨u', hreported, hposted⟩ := exec_send hopen' e
    refine ⟨e, u', hpayload, ?_, ?_⟩
    · rw [hexec, Run.exec_bind, hreported]
      rfl
    · have hlt : live.key < u.contents.length := by
        simpa [World.contents] using lt_of_isOpen hopen
      rw [← modify_append hlt, ← hv, ← contents_of_channels hw, ← contents_posted]
      exact congrArg (List.map LiveChannel.contents) hposted

/-- A request that did not fail is answered with what came of it, and leaves the rest. -/
theorem exec_request_settled {replied : Bool}
    (hsend : (r.send (r.inquire payload u).message).exec (r.inquire payload u).world =
      some (.ok (), v))
    (hposted : v.channels = (r.inquire payload u).world.posted
      (if replied then (r.inquire payload u).queue else queue) ms)
    (hopen : queue.IsOpen u) (hquiet : v.Quiet runners) (hpatience : 0 < v.patience) :
    ∃ u', (Runner.request runners r payload).exec u =
        some (.ok (settlement replied queue ms u.contents).1, u') ∧
      u'.contents = (settlement replied queue ms u.contents).2 := by
  have hrequest : (Runner.request runners r payload).exec u =
      (receiveWithin runners (r.inquire payload u).queue
        r.flow.gatewaySpec.replyTimeout.timer).exec v := by
    rw [exec_request, hsend]
  rw [hrequest]
  cases replied with
  | true =>
    rw [if_pos rfl, posted_inquire_queue] at hposted
    exact exec_receiveWithin_last hposted rfl hquiet hpatience
  | false =>
    rw [if_neg Bool.false_ne_true, posted_inquire hopen] at hposted
    have hkey : (r.inquire payload u).queue.key = (u.posted queue ms).length := by
      simp [inquire, World.posted]
    obtain ⟨u', hexec, hcontents⟩ := exec_receiveWithin_last hposted hkey hquiet hpatience
    rw [contents_posted] at hcontents
    exact ⟨u', hexec, hcontents⟩

end Requests

/-- What a request to a line is answered with. -/
theorem exec_request_line {V E : Type} {view : Message → V} {blame : Failure → E}
    {f : FlowStage → V → Except E (List V)} {r : Runner} {out : ChannelRef} {queue : LiveRef}
    (hflow : r.flow.IsLine out) (hline : Line (some r.flow.input) r.flow.stages (some out))
    (hinput : r.flow.input.isLive = false)
    (hstages : ∀ stage ∈ r.flow.stages, stage.Plain view blame (f stage))
    (hqueue : r.channels.get out.name = some queue) (runners : List Runner) (payload : Payload)
    {u : World} (hopen : queue.IsOpen u) (hquiet : u.Quiet runners) (hpatience : 0 < u.patience) :
    match levels f r.flow.stages [view (r.inquire payload u).message] with
    | .error e => ∃ failure, blame failure = e ∧
        match r.flow.gatewaySpec.errorChannel with
        | none => ∃ u', (Runner.request runners r payload).exec u = some (.error failure, u') ∧
            u'.contents = u.contents ++ [[]]
        | some ref => ∀ live, r.channels.resolve ref = some live → live.IsOpen u →
            ∃ e u', e.payload = .of .failure failure ∧
              (Runner.request runners r payload).exec u = some (.ok none, u') ∧
              u'.contents = u.contents.modify live.key (· ++ [e]) ++ [[]]
    | .ok vs => ∃ ms u', ms.map view = vs ∧
        (Runner.request runners r payload).exec u =
          some (.ok (settlement r.flow.held.isAnonymous queue ms u.contents).1, u') ∧
        u'.contents = (settlement r.flow.held.isAnonymous queue ms u.contents).2 := by
  have hheldname : r.flow.held.name = out.name := name_reached hline
  have hheldlive : r.flow.held.isLive = false :=
    reached_induction hinput fun stage hstage => (hflow.symbolic.2 stage hstage).2
  -- Replies go to the queue of the request, and anything else to the queue of the output.
  have hlive : r.channels.resolve
      (if r.flow.held.isAnonymous then .live (r.inquire payload u).queue else r.flow.held) =
        some (if r.flow.held.isAnonymous then (r.inquire payload u).queue else queue) := by
    cases r.flow.held.isAnonymous with
    | true => rfl
    | false =>
      show r.channels.resolve r.flow.held = some queue
      rw [resolve_eq_get hheldlive, hheldname, hqueue]
  have hopen' : (if r.flow.held.isAnonymous then (r.inquire payload u).queue
      else queue).IsOpen (r.inquire payload u).world := by
    cases r.flow.held.isAnonymous with
    | true => exact ⟨.queue (r.inquire payload u).queue.name, by simp [inquire], rfl⟩
    | false => exact isOpen_inquire hopen
  have hsend := exec_send_line (m := (r.inquire payload u).message) hflow hline
    (fun stage hstage => (hstages stage hstage).computes _) rfl hlive hopen'
  cases hlevels : levels f r.flow.stages [view (r.inquire payload u).message] with
  | error e =>
    rw [hlevels] at hsend
    obtain ⟨failure, v, hexec, hblame, hchannels⟩ := hsend
    exact ⟨failure, hblame, exec_request_failed hexec hchannels⟩
  | ok vs =>
    rw [hlevels] at hsend
    obtain ⟨ms, v, hexec, hviews, hposted⟩ := hsend
    obtain ⟨hrunners, hpatience'⟩ : (r.inquire payload u).world.Steady v :=
      steady_of_exec (fun stage hstage => (hstages stage hstage).steady) hexec
    have hquiet' : v.Quiet runners := by
      have hbefore : (r.inquire payload u).world.Quiet runners := quiet_inquire hquiet
      unfold World.Quiet at hbefore ⊢
      rw [hrunners]
      exact hbefore
    obtain ⟨u', hrequest, hcontents⟩ :=
      exec_request_settled hexec hposted hopen hquiet' (hpatience' ▸ hpatience)
    exact ⟨ms, u', hviews, hrequest, hcontents⟩

end Runner

/-- What a request to a line is answered with, by any runner that was made for it, for any payload
and however long it may wait. If a stage fails the failure is returned, unless the gateway has an
error channel: then the answer is that there is no reply, and the failure is the one new message in
the error channel. Otherwise the stages together make messages of the request. If the last stage
refers to the output as an anonymous channel the answer is the first of them, and the output has
none of them; if it does not there is no reply, and all of them are at the end of the output. So the
answer is the one that the reported output promises if both references are anonymous or neither is,
or if no message came through, and in no other case. -/
theorem request_along_line {V E : Type} {view : Message → V} {blame : Failure → E}
    {f : FlowStage → V → Except E (List V)} {flow : Flow} {out : ChannelRef}
    {registry : ChannelRegistry} {w : World} (hflow : flow.IsLine out)
    (hline : Line (some flow.input) flow.stages (some out)) (hinput : flow.input.isLive = false)
    (hstages : ∀ stage ∈ flow.stages, stage.Plain view blame (f stage))
    (hqueue : ∀ queue, registry.get out.name = some queue → queue.IsOpen w) :
    ∃ r v queue, (Runner.create flow registry).exec w = some (.ok r, v) ∧
      (registry.get out.name = some queue ∧ r.output = none ∨
        registry.get out.name = none ∧ r.output = some queue) ∧
      queue.IsOpen v ∧
      ∀ runners payload u, queue.IsOpen u → u.Quiet runners → 0 < u.patience →
        match levels f flow.stages [view (r.inquire payload u).message] with
        | .error e => ∃ failure, blame failure = e ∧
            match flow.gatewaySpec.errorChannel with
            | none => ∃ u', (Runner.request runners r payload).exec u = some (.error failure, u') ∧
                u'.contents = u.contents ++ [[]]
            | some ref => ∀ live, r.channels.resolve ref = some live → live.IsOpen u →
                ∃ e u', e.payload = .of .failure failure ∧
                  (Runner.request runners r payload).exec u = some (.ok none, u') ∧
                  u'.contents = u.contents.modify live.key (· ++ [e]) ++ [[]]
        | .ok vs => through f flow.stages (view (r.inquire payload u).message) = .ok vs ∧
            ∃ ms u', ms.map view = vs ∧
              (Runner.request runners r payload).exec u =
                some (.ok (settlement flow.held.isAnonymous queue ms u.contents).1, u') ∧
              u'.contents = (settlement flow.held.isAnonymous queue ms u.contents).2 ∧
              (settlement flow.held.isAnonymous queue ms u.contents =
                  settlement out.isAnonymous queue ms u.contents ↔
                flow.held.isAnonymous = out.isAnonymous ∨ ms = []) := by
  obtain ⟨r, v, queue, hexec, rfl, hget, hopen, houtput⟩ := exec_create_line hflow hqueue
  refine ⟨r, v, queue, hexec, houtput, hopen, ?_⟩
  intro runners payload u hu hquiet hpatience
  have hrequest := Runner.exec_request_line hflow hline hinput hstages hget runners payload hu
    hquiet hpatience
  cases hlevels : levels f r.flow.stages [view (r.inquire payload u).message] with
  | error e =>
    rw [hlevels] at hrequest
    exact hrequest
  | ok vs =>
    rw [hlevels] at hrequest
    obtain ⟨ms, u', hviews, hrequest, hcontents⟩ := hrequest
    exact ⟨levels_singleton_eq_ok.1 hlevels, ms, u', hviews, hrequest, hcontents,
      settlement_eq_iff⟩

end

open Sample

/-- Advice that tries a stage again twice, and traces it. -/
def retrying : List (Advice × (Failure → Bool)) :=
  [(Advice.tracing, fun _ => false), ((ErrorStrategy.retry 2).advice, fun _ => false)]

/-- A gateway to the stages of `checkedNumbers`, each of them advised. Requests do not wait, and
their failures go to a channel. -/
def askedNumbers : Flow :=
  { checkedNumbers with
    source := .gateway .checker
      { GatewaySpec.standard with replyTimeout := ⟨0⟩, errorChannel := some (.named "errors") }
    stages := checkedNumbers.stages.map fun stage =>
      { stage with endpoint := { stage.endpoint with advice := retrying.map Prod.fst } } }

/-- What the stages of `askedNumbers` compute. -/
def askedOf (stage : FlowStage) : Payload × Headers → Faces :=
  retrying.foldr (fun a => spared a.2) (checksOf stage)

/-- The first of two numbers is the answer, and the second one is left. Three with negative ones
among them have no answer, and the first failure is reported. -/
theorem request_along_line_numbers :
    ∃ r v, (Runner.create askedNumbers ⟨[("errors", ⟨0, "errors"⟩)]⟩).exec
        { World.new 1 with channels := [.queue "errors"] } = some (.ok r, v) ∧
      (∃ first second u, (Runner.request [r] r (.of .numbers [1, 2])).exec v =
          some (.ok (some first), u) ∧
        first.payload = .of .number 1 ∧ second.payload = .of .number 2 ∧
        u.contents = v.contents ++ [[second]]) ∧
      ∃ e failure u, (Runner.request [r] r (.of .numbers [1, -1, -2])).exec v = some (.ok none, u) ∧
        e.payload = .of .failure failure ∧
        failure.face = .handler ⟨"check", .transform⟩ (.text "negative") ∧
        u.contents = v.contents.modify 0 (· ++ [e]) ++ [[]] := by
  have hflow : askedNumbers.IsLine (.anonymous "numbers.channel#0") :=
    ⟨rfl, ⟨some (.named "in"), rfl, rfl, rfl⟩, by decide, rfl, by
      simp [askedNumbers, checkedNumbers, ChannelRef.isLive]⟩
  have hline : Line (some askedNumbers.input) askedNumbers.stages
      (some (.anonymous "numbers.channel#0")) := ⟨rfl, rfl, rfl⟩
  have hadvice : ∀ a ∈ retrying, a.1.Spares a.2 ∧ a.1.Returns World.Steady := by
    simp only [retrying, List.forall_mem_cons]
    exact ⟨⟨spares_tracing, returns_tracing frame_steady⟩,
      ⟨spares_strategy (settles_retry 2),
        returns_strategy frame_steady (tires_retry frame_steady 2)⟩, by simp⟩
  let each : Factory := .split .numbers .number (fun ns => pure ns) .standard
  let check : Factory :=
    .transform .number .number (fun n => pure (checkedNumbers.checkedNumber n)) .standard
  have heach : each.Returns World.Steady := fun _ => returns_pure frame_steady trivial
  have hcheck : check.Returns World.Steady := fun _ => returns_pure frame_steady trivial
  have hstages : ∀ stage ∈ askedNumbers.stages,
      stage.Plain Message.face Failure.face (askedOf stage) := by
    intro stage hstage
    simp only [askedNumbers, checkedNumbers, List.map_cons, List.map_nil, List.mem_cons,
      List.not_mem_nil, or_false] at hstage
    rcases hstage with rfl | rfl
    · exact plain_of_advised rfl hadvice
        (fun _ => computesFor_split .numbers .number (amountsTo_pure _) true)
        (returns_of_request frame_steady rfl heach)
    · exact plain_of_advised rfl hadvice
        (fun _ => computesFor_transform .number .number (amountsTo_pure _))
        (returns_of_request frame_steady rfl hcheck)
  let registry : ChannelRegistry := ⟨[("errors", ⟨0, "errors"⟩)]⟩
  let w : World := { World.new 1 with channels := [.queue "errors"] }
  have hqueue : ∀ queue, registry.get "numbers.channel#0" = some queue → queue.IsOpen w :=
    fun queue hget => by cases hget
  obtain ⟨r, v, queue, hexec, -, hopen, hrequest⟩ :=
    request_along_line hflow hline rfl hstages hqueue
  let made : Runner := ⟨0, askedNumbers,
    ⟨[("errors", ⟨0, "errors"⟩), ("numbers.channel#0", ⟨1, "numbers.channel#0"⟩)]⟩,
    some ⟨1, "numbers.channel#0"⟩⟩
  let after : World := { w with
    channels := [.queue "errors", .queue "numbers.channel#0"]
    runners := [.new] }
  have hcreate : (Runner.create askedNumbers registry).exec w = some (.ok made, after) := rfl
  obtain ⟨rfl, rfl⟩ : r = made ∧ v = after := by
    rw [hcreate] at hexec
    obtain ⟨hrunner, hworld⟩ := Prod.mk.inj (Option.some.inj hexec)
    exact ⟨(Except.ok.inj hrunner).symm, hworld.symm⟩
  have hquiet : after.Quiet [made] := quiet_of_idle (by simp [after, RunnerState.new]) _
  have hgood := hrequest [made] (.of .numbers [1, 2]) after hopen hquiet Nat.one_pos
  have hbad := hrequest [made] (.of .numbers [1, -1, -2]) after hopen hquiet Nat.one_pos
  refine ⟨made, after, hcreate, ?_, ?_⟩
  · obtain ⟨-, ms, u, hviews, hexec', hcontents, -⟩ := hgood
    have hpayloads : ms.map Message.payload = [.of .number 1, .of .number 2] := by
      have hfaces := congrArg (List.map Prod.fst) hviews
      rwa [List.map_map] at hfaces
    obtain ⟨first, rest, rfl, hfirst, hrest⟩ := List.map_eq_cons_iff.1 hpayloads
    obtain ⟨second, rest, rfl, hsecond, hrest⟩ := List.map_eq_cons_iff.1 hrest
    cases List.map_eq_nil_iff.1 hrest
    exact ⟨first, second, u, hexec', hfirst, hsecond, hcontents⟩
  · obtain ⟨failure, hface, hreport⟩ := hbad
    obtain ⟨e, u, hpayload, hexec', hcontents⟩ :=
      hreport ⟨0, "errors"⟩ rfl ⟨.queue "errors", rfl, rfl⟩
    exact ⟨e, failure, u, hexec', hpayload, hface, hcontents⟩

/-- A gateway, and a bridge to a channel that was given by its name first and then as an anonymous
one. -/
def renamed : FlowDefinition :=
  (FlowDefinition.start "f" (.gateway .checker .standard)
    .standard).afterAll
      [.stage (.bridge .standard), .channel (.named "x"), .channel (.anonymous "x")]

/-- The bridge refers to its output by name, and the flow reports an anonymous one. -/
def renamedFlow : Flow :=
  { id := "f"
    source := .gateway .checker .standard
    input := .anonymous "f.channel#0"
    output := some (.anonymous "x")
    stages := [⟨.anonymous "f.channel#0",
      ⟨⟨"f.bridge#0", .bridge⟩, .payload, .bridge, [], none, some (.named "x")⟩⟩]
    components := renamed.components
    poller := .standard }

/-- What a request to this flow sends comes through to the anonymous output, and the request has no
reply. -/
theorem reply_withheld :
    (Composer.finish.exec renamed).1 = .ok renamedFlow ∧
    renamedFlow.IsLine (.anonymous "x") ∧
    Line (some renamedFlow.input) renamedFlow.stages (some (.anonymous "x")) ∧
    (∀ stage ∈ renamedFlow.stages,
      stage.Plain Message.face Failure.face fun face => .ok [face]) ∧
    ∃ r v m u, (Runner.create renamedFlow .empty).exec (.new 1) = some (.ok r, v) ∧
      v.contents = [[]] ∧ (Runner.request [r] r (.of .number 1)).exec v = some (.ok none, u) ∧
      m.payload = .of .number 1 ∧ u.contents = [[m], []] := by
  have hflow : renamedFlow.IsLine (.anonymous "x") :=
    ⟨rfl, ⟨some renamedFlow.input, rfl, rfl⟩, by decide, rfl, by
      simp [renamedFlow, ChannelRef.isLive]⟩
  have hline : Line (some renamedFlow.input) renamedFlow.stages (some (.anonymous "x")) :=
    ⟨rfl, rfl⟩
  have hstages : ∀ stage ∈ renamedFlow.stages,
      stage.Plain Message.face Failure.face fun face => .ok [face] := by
    intro stage hstage
    cases List.mem_singleton.1 hstage
    have hbridge : ∀ reply, ComputesFor Message.face Failure.face reply
        (Handler.bridge ⟨"f.bridge#0", .bridge⟩) fun face => .ok [face] :=
      fun _ => computesFor_bridge
    exact ⟨hbridge, fun m => returns_pure frame_steady trivial⟩
  let r : Runner := ⟨0, renamedFlow, ⟨[("x", ⟨0, "x"⟩)]⟩, some ⟨0, "x"⟩⟩
  let v : World := { World.new 1 with channels := [.queue "x"], runners := [.new] }
  have hcreate : (Runner.create renamedFlow .empty).exec (.new 1) = some (.ok r, v) := rfl
  have hquiet : v.Quiet [r] := quiet_of_idle (by simp [v, RunnerState.new]) _
  obtain ⟨ms, u, hviews, hexec, hcontents⟩ :=
    Runner.exec_request_line (r := r) (u := v) hflow hline rfl hstages rfl [r] (.of .number 1)
      ⟨.queue "x", rfl, rfl⟩ hquiet Nat.one_pos
  obtain ⟨m, rest, rfl, hface, hrest⟩ := List.map_eq_cons_iff.1 hviews
  cases List.map_eq_nil_iff.1 hrest
  exact ⟨rfl, hflow, hline, hstages, r, v, m, u, hcreate, rfl, hexec, congrArg Prod.fst hface,
    hcontents⟩

end MessageFlow
