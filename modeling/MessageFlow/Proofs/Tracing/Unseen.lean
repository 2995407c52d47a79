import MessageFlow.Proofs.Sample
import MessageFlow.Proofs.Tracing.Blind
import MessageFlow.Proofs.Tracing.Runners
import MessageFlow.Proofs.Tracing.Traced

/-!
# Tracing is unseen

A flow whose settings ask for tracing is composed by the same calls with the same results, and
differs from the flow without in nothing but one advice around each stage, bridges included.
Whatever is then asked of runners for the two, they answer alike and do alike: their worlds differ
in nothing but the lines of tracing (`tracing_unseen`). That holds for all functions and all advice
that do not read those lines, however often an advice goes on, and whatever fails.
-/

namespace MessageFlow

section

variable [PayloadTypes]

open Run

/-! ## Sessions -/

/-- What can be asked of a runner. -/
inductive Demand where
  | dispatch (ref : ChannelRef) (m : Message)
  | send (m : Message)
  | request (payload : Payload)
  | start
  | stop
  /-- Lets a number of milliseconds pass. -/
  | wait (ms : Nat)

/-- Does what is asked of a runner, and returns the reply to a request. -/
def Demand.meet (runners : List Runner) (r : Runner) : Demand → Run (Option Message)
  | dispatch ref m => do
    r.dispatch ref m
    return none
  | send m => do
    r.send m
    return none
  | request payload => Runner.request runners r payload
  | start => do
    r.start
    return none
  | stop => do
    Runner.stop runners r
    return none
  | wait ms => do
    elapse runners ms
    return none

/-- Creates a runner beside others, does what is asked of it, one demand after the other, and
returns how each of them ended. -/
def Flow.session (flow : Flow) (others : List Runner) (channels : ChannelRegistry)
    (demands : List Demand) : Run (List (Except Failure (Option Message))) := do
  let r ← Runner.create flow channels
  demands.mapM fun demand => Run.attempt (demand.meet (r :: others) r)

/-- A runner whose source and stages do not see what is traced. -/
structure Runner.Blind (r : Runner) : Prop where
  source : r.flow.source.Blind
  stages : ∀ stage ∈ r.flow.stages, ∀ m, (stage.endpoint.invoke m).Blind

section Sessions

variable {r r' : Runner} {runners runners' others : List Runner} {flow : Flow}

theorem Runner.Blind.alike (h : r.Blind) : r.Alike r := by
  refine Runner.Alike.mk (r := r) h.source (List.forall₂_same.2 fun stage hstage => ?_)
  exact ⟨rfl, rfl, rfl, h.stages stage hstage⟩

theorem alike_meet (hrunners : List.Forall₂ Runner.Alike runners runners') (h : r.Alike r')
    (demand : Demand) :
    (demand.meet runners r).Alike (· = ·) (demand.meet runners' r') := by
  cases demand with
  | dispatch ref m => exact alike_then (Runner.alike_dispatch h ref m) fun _ => alike_pure rfl
  | send m => exact alike_then (Runner.alike_send h m) fun _ => alike_pure rfl
  | request payload => exact Runner.alike_request hrunners h payload
  | start =>
    cases h with
    | mk hsource => exact alike_then (Runner.blind_start hsource) fun _ => alike_pure rfl
  | stop => exact alike_then (Runner.alike_stop hrunners h) fun _ => alike_pure rfl
  | wait ms => exact alike_then (alike_elapse hrunners ms) fun _ => alike_pure rfl

/-- Sessions with flows whose stages cannot be told apart. -/
theorem alike_session {stages : List FlowStage} (hsource : flow.source.Blind)
    (h : List.Forall₂ FlowStage.Alike flow.stages stages) (hothers : ∀ other ∈ others, other.Blind)
    (channels : ChannelRegistry) (demands : List Demand) :
    (flow.session others channels demands).Alike (· = ·)
      ((flow.withStages stages).session others channels demands) := by
  have hself : List.Forall₂ Runner.Alike others others :=
    List.forall₂_same.2 fun other hother => (hothers other hother).alike
  refine alike_bind (Runner.alike_create hsource h channels) fun r r' hr => ?_
  exact alike_mapM demands fun demand => alike_attempt (alike_meet (.cons hr hself) hr demand)

/-- A stage that does not see what is traced cannot be told from itself with tracing around it. -/
theorem alike_traced_stage {stage : FlowStage} (h : ∀ m, (stage.endpoint.invoke m).Blind) :
    stage.Alike stage.traced := by
  refine ⟨rfl, rfl, rfl, fun m => ?_⟩
  have htraced : stage.traced.endpoint.invoke m =
      Advice.tracing stage.endpoint.info m stage.endpoint.invoke := rfl
  rw [htraced]
  exact alike_tracing (h m)

end Sessions

/-- Whether a flow logs what enters and leaves its stages makes no difference to anybody who does
not read what is logged then. Its calls return the same; the flow is the same but for one advice
around each stage; and whatever is asked of a runner for it, beside whatever other runners, ends the
same and leaves the same world: the same messages in the same channels, and the same journal without
the lines of tracing, in which deliveries and the notes of functions stand in order. -/
theorem tracing_unseen (id : String) (source : Source) (config : FlowConfig) (cs : List Call)
    (hsource : source.Blind) (hcs : ∀ c ∈ cs, c.Blind) :
    let quiet := FlowDefinition.start id source { config with logStages := false }
    let loud := FlowDefinition.start id source { config with logStages := true }
    loud.results cs = quiet.results cs ∧
      (Composer.finish.exec (loud.afterAll cs)).1 =
        (Composer.finish.exec (quiet.afterAll cs)).1.map Flow.traced ∧
      ∀ flow, (Composer.finish.exec (quiet.afterAll cs)).1 = .ok flow →
        ∀ others, (∀ other ∈ others, other.Blind) → ∀ channels demands w,
          (flow.session others channels demands).seen w =
            (flow.traced.session others channels demands).seen w := by
  intro quiet loud
  have hquiet : quiet.components.Consistent := consistent_start _ _ _
  obtain ⟨hresults, hafter⟩ : loud.results cs = quiet.results cs ∧
      loud.afterAll cs = (quiet.afterAll cs).traced := FlowDefinition.traced_afterAll hquiet rfl cs
  refine ⟨hresults, ?_, fun flow hflow others hothers channels demands w => ?_⟩
  · have hstill : (quiet.afterAll cs).config.logStages = false :=
      congrArg (·.2.2.logStages) (origin_afterAll hquiet cs)
    rw [Composer.result_finish, Composer.result_finish, hafter,
      FlowDefinition.finished_traced hstill]
  · rw [Composer.result_finish] at hflow
    -- Every stage was made by one of the calls, or is a bridge that a channel call put in.
    have hmade : MadeOf Factory.Blind flow.stages := by
      refine FlowDefinition.madeOf_finished ?_ hflow
      refine FlowDefinition.madeOf_afterAll hquiet hasBridges_blind ?_ fun _ hstage =>
        nomatch hstage
      exact fun f hf => hcs _ hf f rfl
    have hblind : ∀ stage ∈ flow.stages, ∀ m, (stage.endpoint.invoke m).Blind := by
      intro stage hstage
      obtain ⟨f, hf, hcall⟩ := hmade stage hstage
      exact blind_invoke hf hcall
    have hsame : flow.source = source := (FlowDefinition.origin_of_finished hflow).1.trans
      (congrArg (·.2.1) (origin_afterAll hquiet cs))
    have hstages : List.Forall₂ FlowStage.Alike flow.stages (flow.stages.map FlowStage.traced) :=
      List.forall₂_map_right_iff.2
        (List.forall₂_same.2 fun stage hstage => alike_traced_stage (hblind stage hstage))
    exact alike_iff_seen.1
      (alike_session (hsame ▸ hsource) hstages hothers channels demands) w w rfl

/-- Advice of a user that goes on twice with the same message, unless the first time fails. -/
def Advice.repeating : Advice := fun _ m proceed => do
  let _ ← proceed m
  proceed m

/-- Advice of a user that does not go on. -/
def Advice.ending (result : Except Failure Outcome) : Advice := fun _ _ _ =>
  match result with
  | .ok outcome => pure outcome
  | .error failure => throw failure

theorem blind_repeating : Advice.repeating.Blind := fun _ m _ _ hproceed =>
  alike_then (hproceed m) fun _ => hproceed m

theorem blind_ending (result : Except Failure Outcome) : (Advice.ending result).Blind := by
  intro stage m proceed proceed' _
  cases result with
  | ok outcome => exact alike_pure rfl
  | error failure => exact alike_throw _

end

open Run Sample

/-- A function that is called twice for each message, a stage that fails and drops the message, and
one that consumes what it gets. -/
theorem tracing_unseen_advised :
    let f : Factory := .transform .number .number (fun x => return .ok (x + 1))
      { EndpointSpec.standard with advice := [Advice.repeating] }
    let refused : Advice := Advice.ending (.error (.channelClosed "c"))
    let g : Factory := .bridge
      { EndpointSpec.standard with advice := [ErrorStrategy.skip.advice, refused] }
    let h : Factory := .bridge { EndpointSpec.standard with advice := [Advice.ending (.ok .done)] }
    let cs : List Call := [.stage f, .stage g, .stage h, .channel (.named "out")]
    let quiet := FlowDefinition.start "f" (.channel "in" false)
      { FlowConfig.standard with logStages := false }
    let loud := FlowDefinition.start "f" (.channel "in" false)
      { FlowConfig.standard with logStages := true }
    (∀ c ∈ cs, c.Blind) ∧ loud.results cs = quiet.results cs ∧
      ∃ flow, (Composer.finish.exec (quiet.afterAll cs)).1 = .ok flow ∧
        (Composer.finish.exec (loud.afterAll cs)).1 = .ok flow.traced ∧
        flow.stages.map (·.endpoint.advice.length) = [1, 2, 1] ∧
        ∀ m w, (flow.session [] .empty [.send m, .request m.payload]).seen w =
          (flow.traced.session [] .empty [.send m, .request m.payload]).seen w := by
  intro f refused g h cs quiet loud
  have hf : f.Blind := by
    refine ⟨fun _ => alike_pure rfl, fun advice hadvice => ?_⟩
    obtain rfl : advice = Advice.repeating := List.mem_singleton.1 hadvice
    exact blind_repeating
  have hg : g.Blind := by
    refine ⟨trivial, fun advice hadvice => ?_⟩
    rcases List.mem_cons.1 hadvice with rfl | hlast
    · exact blind_strategy fun _ _ => alike_pure rfl
    · obtain rfl : advice = refused := List.mem_singleton.1 hlast
      exact blind_ending _
  have hh : h.Blind := by
    refine ⟨trivial, fun advice hadvice => ?_⟩
    obtain rfl : advice = Advice.ending (.ok .done) := List.mem_singleton.1 hadvice
    exact blind_ending _
  have hcs : ∀ c ∈ cs, c.Blind := by
    intro c hc f' hf'
    subst hf'
    simp only [cs, List.mem_cons, Call.stage.injEq, reduceCtorEq, List.not_mem_nil,
      or_false] at hc
    rcases hc with rfl | rfl | rfl
    · exact hf
    · exact hg
    · exact hh
  obtain ⟨hresults, hfinish, hunseen⟩ :=
    tracing_unseen "f" (.channel "in" false) .standard cs trivial hcs
  have hlengths : ((Composer.finish.exec (quiet.afterAll cs)).1.toOption.map fun flow =>
      flow.stages.map (·.endpoint.advice.length)) = some [1, 2, 1] := by
    decide +kernel
  cases hflow : (Composer.finish.exec (quiet.afterAll cs)).1 with
  | error failure =>
    rw [hflow] at hlengths
    cases hlengths
  | ok flow =>
    rw [hflow] at hfinish hlengths
    exact ⟨hcs, hresults, flow, rfl, hfinish, Option.some.inj hlengths,
      fun m w => hunseen flow hflow [] (List.forall_mem_nil _) .empty _ w⟩

end MessageFlow
