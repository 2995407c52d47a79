import MessageFlow.Proofs.Composer.Outlet
import MessageFlow.Proofs.Dispatch.Acts
import MessageFlow.Proofs.Sample

/-!
# The output of a flow

A runner delivers what nobody consumes to the live channel that a reference stands for. References
are equal when their names are, but they may stand for different channels all the same: a live
channel stands for itself, and anything else for what is registered under its name.

The last stage of a flow and the flow itself may refer to the output in different ways. The live
channel that the output of the flow stands for is always there (`exec_create_of_free`); messages of
the last stage get to it exactly if both references are the same live channel, or neither is one
(`output_reached_iff`).
-/

namespace MessageFlow

section

variable [PayloadTypes]

namespace Runner

variable {r : Runner} {p : Parcel} {live : LiveRef}

/-- What nobody consumes is sent to a live channel if, and only if, this is the one that it is
addressed to in the end. -/
theorem visit_eq_send_iff (hfree : r.flow.consumers p.channel.name = []) :
    r.visit p = (do Run.send live p.message; return []) ↔
      r.channels.resolve (r.destination p) = some live := by
  rw [visit_of_free hfree]
  constructor
  · intro h
    have haccepts : ∀ w, r.accepts w p = live.accepts w p.message.payload.type := by
      intro w
      obtain ⟨u, hdeliver, -⟩ := exec_deliver_accepts r p w
      obtain ⟨v, hsend, -⟩ := exec_send_accepts live p.message w
      have hboth := congrArg (Run.exec · w) h
      simp only [Run.exec_bind, hdeliver, hsend] at hboth
      cases hfirst : r.accepts w p <;>
        cases hsecond : live.accepts w p.message.payload.type <;> simp_all
    unfold accepts at haccepts
    cases hresolve : r.channels.resolve (r.destination p) with
    | none =>
      have hfails := haccepts (.new 0)
      simp [hresolve, LiveRef.accepts, World.new] at hfails
    | some other =>
      simp only [hresolve] at haccepts
      rw [LiveRef.eq_of_accepts haccepts]
  · intro h
    rw [deliver_eq, Runner.resolve, h, pure_bind]

/-- The live channel that the output of a flow stands for, in a runner that was made with a
registry. -/
inductive Denotes (r : Runner) (registry : ChannelRegistry) : ChannelRef → LiveRef → Prop where
  /-- It is one itself. -/
  | itself (channel : LiveRef) : r.channels = registry → r.output = none →
      Denotes r registry (.live channel) channel
  /-- The registry has one. -/
  | registered (ref : ChannelRef) (live : LiveRef) : ref.asLive = none →
      registry.get ref.name = some live → r.channels = registry → r.output = none →
      Denotes r registry ref live
  /-- One was opened. -/
  | opened (ref : ChannelRef) (live : LiveRef) : ref.asLive = none →
      registry.get ref.name = none → r.channels.get ref.name = some live →
      r.output = some live → Denotes r registry ref live

theorem resolve_of_denotes {registry : ChannelRegistry} {ref : ChannelRef}
    (h : r.Denotes registry ref live) : r.channels.resolve ref = some live := by
  cases h with
  | itself => rfl
  | registered _ _ hlive hget hchannels =>
    rw [resolve_eq_get (isLive_of_asLive hlive), hchannels, hget]
  | opened _ _ hlive _ hget => rw [resolve_eq_get (isLive_of_asLive hlive), hget]

theorem denotes_of_asLive {registry : ChannelRegistry} {ref : ChannelRef} {channel : LiveRef}
    (h : r.Denotes registry ref live) (hlive : ref.asLive = some channel) :
    live = channel ∧ r.channels = registry := by
  cases h with
  | itself _ hchannels => exact ⟨Option.some.inj hlive, hchannels⟩
  | registered _ _ hnone =>
    rw [hnone] at hlive
    cases hlive
  | opened _ _ hnone =>
    rw [hnone] at hlive
    cases hlive

theorem denotes_of_get {registry : ChannelRegistry} {ref : ChannelRef} {entry : LiveRef}
    (h : r.Denotes registry ref live) (hlive : ref.asLive = none)
    (hget : registry.get ref.name = some entry) : live = entry ∧ r.channels = registry := by
  cases h with
  | itself => cases hlive
  | registered _ _ _ hget' hchannels =>
    rw [hget] at hget'
    exact ⟨(Option.some.inj hget').symm, hchannels⟩
  | opened _ _ _ hfree =>
    rw [hget] at hfree
    cases hfree

/-- Where nobody takes what a flow puts out there is a live channel for it. -/
theorem exec_create_of_free {flow : Flow} {out : ChannelRef} (hout : flow.output = some out)
    (hfree : flow.consumers out.name = []) (registry : ChannelRegistry) (w : World) :
    ∃ r v live, (Runner.create flow registry).exec w = some (.ok r, v) ∧ r.flow = flow ∧
      r.Denotes registry out live := by
  cases hlive : out.asLive with
  | some channel =>
    cases out <;> cases hlive
    refine ⟨⟨w.runners.length, flow, registry, none⟩, { w with runners := w.runners ++ [.new] },
      channel, ?_, rfl, .itself channel rfl rfl⟩
    simp [Runner.create, hout]
  | none =>
    rw [create_of_free hout (isLive_of_asLive hlive) hfree]
    cases hget : registry.get out.name with
    | some live =>
      exact ⟨⟨w.runners.length, flow, registry, none⟩, { w with runners := w.runners ++ [.new] },
        live, by simp [ChannelRegistry.contains, hget], rfl,
        .registered out live hlive hget rfl rfl⟩
    | none =>
      obtain ⟨live, registry', v, hexec, hopened, -⟩ :=
        exec_queue hget { w with runners := w.runners ++ [.new] }
      refine ⟨⟨w.runners.length, flow, registry', some live⟩, v, live, ?_, rfl,
        .opened out live hlive hget hopened rfl⟩
      simp [ChannelRegistry.contains, hget, hexec]

/-- What a stage puts out goes to a live channel, unless a reply is asked for. -/
def Sends (r : Runner) (stage : FlowStage) (live : LiveRef) : Prop :=
  ∀ m, m.headers.replyChannel = none → ∀ p ∈ stage.onward m,
    r.visit p = (do Run.send live p.message; return [])

theorem sends_iff {stage : FlowStage} {ref : ChannelRef} (hout : stage.endpoint.output = some ref)
    (hfree : r.flow.consumers ref.name = []) :
    r.Sends stage live ↔ r.channels.resolve ref = some live := by
  have hvisit : ∀ m, m.headers.replyChannel = none →
      (r.visit ⟨ref, m⟩ = (do Run.send live m; return []) ↔
        r.channels.resolve ref = some live) := by
    intro m hm
    have hiff : r.visit ⟨ref, m⟩ = (do Run.send live m; return []) ↔
        r.channels.resolve (r.destination ⟨ref, m⟩) = some live := visit_eq_send_iff hfree
    rwa [destination_of_unreplied hm] at hiff
  have honward : ∀ m, stage.onward m = [⟨ref, m⟩] := fun m => by rw [FlowStage.onward, hout]
  constructor
  · intro h
    let m : Message := ⟨.fresh 0, .of .string "", .at 0⟩
    exact (hvisit m rfl).1 (h m rfl ⟨ref, m⟩ (honward m ▸ List.mem_cons_self))
  · intro h m hm p hp
    rw [honward, List.mem_singleton] at hp
    subst hp
    exact (hvisit m hm).2 h

/-- All runners of a flow send what a stage puts out to what the output of the flow stands for if,
and only if, the output of the stage is the same live channel or neither is one. -/
theorem sends_output_iff {flow : Flow} {stage : FlowStage} {o : Outlet}
    (htip : flow.output = some o.tip) (hheld : stage.endpoint.output = some o.held)
    (hfree : flow.consumers o.tip.name = []) :
    (∀ registry w r v live, (Runner.create flow registry).exec w = some (.ok r, v) →
      r.Denotes registry o.tip live → r.Sends stage live) ↔ o.held.asLive = o.tip.asLive := by
  -- A runner resolves the reference of the stage in its registry.
  have hsends : ∀ registry w r v live, (Runner.create flow registry).exec w = some (.ok r, v) →
      (r.Sends stage live ↔ r.channels.resolve o.held = some live) := by
    intro registry w r v live hexec
    obtain ⟨r', v', live', hexec', hflow, -⟩ := exec_create_of_free htip hfree registry w
    rw [hexec] at hexec'
    cases hexec'
    refine sends_iff hheld ?_
    rw [hflow, o.same]
    exact hfree
  constructor
  · intro h
    cases htiplive : o.tip.asLive with
    | some channel =>
      obtain ⟨r, v, live, hexec, -, hdenotes⟩ := exec_create_of_free htip hfree .empty (.new 0)
      have hresolve := (hsends _ _ _ _ _ hexec).1 (h _ _ _ _ _ hexec hdenotes)
      obtain ⟨rfl, hchannels⟩ := denotes_of_asLive hdenotes htiplive
      rwa [hchannels, resolve_empty] at hresolve
    | none =>
      cases hheldlive : o.held.asLive with
      | none => rfl
      | some channel =>
        -- A registry with another channel under this name tells the two apart.
        let entry : LiveRef := ⟨channel.key + 1, o.tip.name⟩
        have hget : (⟨[(o.tip.name, entry)]⟩ : ChannelRegistry).get o.tip.name = some entry := by
          simp [ChannelRegistry.get]
        obtain ⟨r, v, live, hexec, -, hdenotes⟩ :=
          exec_create_of_free htip hfree ⟨[(o.tip.name, entry)]⟩ (.new 0)
        have hresolve := (hsends _ _ _ _ _ hexec).1 (h _ _ _ _ _ hexec hdenotes)
        rw [resolve_of_asLive hheldlive, (denotes_of_get hdenotes htiplive hget).1] at hresolve
        have hkey : channel.key = channel.key + 1 := congrArg LiveRef.key (Option.some.inj hresolve)
        omega
  · intro h registry w r v live hexec hdenotes
    rw [hsends registry w r v live hexec, resolve_congr o.same h]
    exact resolve_of_denotes hdenotes

end Runner

/-- A flow always has a live channel for what it puts out, if none of its stages takes it: the one
that its output is, or the one that is registered under the name of the output, or one that is
opened. What its last stage puts out gets there, in every runner of the flow, if and only if the
references that the calls gave first and last for this channel are the same live channel, or neither
is one. So it is enough that the calls give no two channels of one name. -/
theorem output_reached_iff (id : String) (source : Source) (config : FlowConfig) (cs : List Call)
    (hraw : ∀ c ∈ cs, c.isRaw = false) {flow : Flow}
    (hflow : (Composer.finish.exec ((FlowDefinition.start id source config).afterAll cs)).1 =
      .ok flow) {last : FlowStage} (hlast : flow.stages.getLast? = some last)
    (hfree : ∀ ref, last.endpoint.output = some ref → flow.consumers ref.name = []) :
    let calls := (FlowDefinition.start id source config).succeeded cs
    let given := source.channelRef.toList ++ calls.flatMap Call.gives
    ∃ o : Outlet, flow.output = some o.tip ∧ last.endpoint.output = some o.held ∧
      (Outlet.ofCalls source calls = some o ∨
        Outlet.ofCalls source calls = none ∧ ∃ name, o = .of (.anonymous name)) ∧
      (∀ registry w, ∃ r v live, (Runner.create flow registry).exec w = some (.ok r, v) ∧
        r.flow = flow ∧ r.Denotes registry o.tip live) ∧
      ((∀ registry w r v live, (Runner.create flow registry).exec w = some (.ok r, v) →
        r.Denotes registry o.tip live → r.Sends last live) ↔ o.held.asLive = o.tip.asLive) ∧
      ((∀ a ∈ given, ∀ b ∈ given, a.name = b.name → a.asLive = b.asLive) →
        o.held.asLive = o.tip.asLive) := by
  intro calls given
  obtain ⟨o, htip, hheld, hgiven⟩ := outlet_of_finished id source config cs hraw hflow
  have hfree' : flow.consumers o.tip.name = [] := o.same ▸ hfree o.held (hheld last hlast)
  refine ⟨o, htip, hheld last hlast, hgiven, Runner.exec_create_of_free htip hfree',
    Runner.sends_output_iff htip (hheld last hlast) hfree', fun hagree => ?_⟩
  rcases hgiven with hgiven | ⟨-, name, rfl⟩
  · obtain ⟨hheldmem, htipmem⟩ := Outlet.mem_ofCalls hgiven
    exact hagree o.held hheldmem o.tip htipmem o.same
  · rfl

end

open Sample

/-- A bridge to a channel that was given by name twice. -/
theorem output_reached_iff_named :
    let cs : List Call :=
      [.stage (.bridge .standard), .channel (.named "out"), .channel (.named "out")]
    ∃ flow last r v live,
      (Composer.finish.exec
        ((FlowDefinition.start "f" (.channel "in" false) .standard).afterAll cs)).1 = .ok flow ∧
      flow.stages.getLast? = some last ∧
      (Runner.create flow .empty).exec (.new 0) = some (.ok r, v) ∧ r.output = some live ∧
      r.Sends last live := by
  intro cs
  obtain ⟨o, -, -, hgiven, hcreate, hiff, -⟩ := output_reached_iff "f" (.channel "in" false)
    .standard cs (by simp [cs, Call.isRaw]) rfl rfl (fun ref href => by cases href; rfl)
  have ho : o = .of (.named "out") := by
    rcases hgiven with hgiven | ⟨hgiven, -⟩
    · exact (Option.some.inj hgiven).symm
    · cases hgiven
  subst ho
  obtain ⟨r, v, live, hexec, -, hdenotes⟩ := hcreate .empty (.new 0)
  refine ⟨_, _, r, v, live, rfl, rfl, hexec, ?_, hiff.2 rfl _ _ _ _ _ hexec hdenotes⟩
  cases hexec
  cases hdenotes with
  | registered _ _ _ hget => cases hget
  | opened _ _ _ _ _ houtput => exact houtput

/-- A bridge to a channel that was given by its name first, and then as a live channel. The flow
reports the live channel, but what the bridge sends is refused: nothing is registered under the
name. -/
theorem output_missed :
    let cs : List Call :=
      [.stage (.bridge .standard), .channel (.named "out"), .channel (.live ⟨0, "out"⟩)]
    let w : World := { World.new 0 with channels := [.queue "out"] }
    ∃ flow r v, (Composer.finish.exec
        ((FlowDefinition.start "f" (.channel "in" false) .standard).afterAll cs)).1 = .ok flow ∧
      (Runner.create flow .empty).exec w = some (.ok r, v) ∧
      r.Denotes .empty (.live ⟨0, "out"⟩) ⟨0, "out"⟩ ∧ flow.output = some (.live ⟨0, "out"⟩) ∧
      flow.consumers "out" = [] ∧
      ∀ m, ∃ u, (r.send m).exec v = some (.error (.destination "out"), u) := by
  intro cs w
  let flow : Flow :=
    { id := "f"
      source := .channel "in" false
      input := .named "in"
      output := some (.live ⟨0, "out"⟩)
      stages := [⟨.named "in",
        ⟨⟨"f.bridge#0", .bridge⟩, .payload, .bridge, [], none, some (.named "out")⟩⟩]
      components :=
        ((FlowDefinition.start "f" (.channel "in" false) .standard).afterAll cs).components
      poller := .standard }
  let r : Runner := ⟨0, flow, .empty, none⟩
  refine ⟨flow, r, { w with runners := [.new] }, rfl, rfl, .itself _ rfl rfl, rfl, rfl, fun m => ?_⟩
  refine ⟨{ w with runners := [.new] }, ?_⟩
  have hbridge : (r.visit ⟨.named "in", m⟩).exec { w with runners := [.new] } =
      some (.ok [⟨.named "out", m⟩], { w with runners := [.new] }) := rfl
  have hout : (r.visit ⟨.named "out", m⟩).exec { w with runners := [.new] } =
      some (.error (.destination "out"), { w with runners := [.new] }) := rfl
  show (Work.run r.visit [⟨.named "in", m⟩]).exec _ = _
  rw [Work.run_cons, Run.exec_bind, hbridge]
  show (Work.run r.visit [⟨.named "out", m⟩]).exec _ = _
  rw [Work.run_cons, Run.exec_bind, hout]

end MessageFlow
