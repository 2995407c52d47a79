import MessageFlow.Proofs.Dispatch.Keeps
import MessageFlow.Pump

/-!
# Starting and stopping

A start is refused if the runner was stopped or is running; then nothing is asked of the source.
Otherwise the source is asked for what there is to pump (`Flow.draw`), and only when it has answered
does the state of the runner change (`exec_start`). A stop forbids every later start at once, and
says that the runner is no longer running when its pump has come to rest (`exec_stop`).

Stages and sources may do what they like as long as they leave alone what is not theirs: the
runners, time, and the stream of a publisher (`Flow.Considerate`).
-/

namespace MessageFlow

variable [PayloadTypes]

/-- What the functions of a flow leave alone: the runners, time, and the stream of its publisher. -/
structure World.Undisturbed (source : Source) (w v : World) : Prop where
  runners : v.runners = w.runners
  clock : v.clock = w.clock
  patience : v.patience = w.patience
  stream : ∀ counter feed, source = .publisher counter feed →
    v.counters[counter]? = w.counters[counter]?

/-- The functions of a flow leave alone what is not theirs, if they end. -/
structure Flow.Considerate (flow : Flow) : Prop where
  stages : ∀ stage ∈ flow.stages, ∀ m,
    (stage.endpoint.invoke m).Keeps (World.Undisturbed flow.source) fun _ => True
  receive : ∀ receive adapter, flow.source = .polling receive adapter →
    receive.Keeps (World.Undisturbed flow.source) fun _ => True
  subscribe : ∀ name subscribe, flow.source = .producer name subscribe →
    subscribe.Keeps (World.Undisturbed flow.source) fun _ => True

/-- What there is to pump in the source of a flow, if there is anything. -/
def Flow.draw (flow : Flow) : Run (Option PumpWork) :=
  match flow.source with
  | .polling .. => return some .poll
  | .publisher counter feed => do
    match ← (Source.publisher counter feed).takePublisher with
    | some feed => return some (.drain feed)
    | none => throw (.lifecycle (.publisherConsumed flow.id))
  | .producer _ subscribe => do return some (.drain (← subscribe))
  | .channel .. | .live _ | .gateway .. => return none

/-- The pump that a runner has when it begins with some work, or none that it did not have. -/
def World.pumping (w : World) (work : Option PumpWork) (pump : Option Pump) : Option Pump :=
  match work with
  | some work => some { work := work, due := some w.clock, turn := w.turns, armed := false }
  | none => pump

/-- The world after a runner was started. -/
def World.started (w : World) (r : Runner) (work : Option PumpWork) : World :=
  { w with
    runners := w.runners.modify r.slot fun state =>
      { state with running := true, pump := w.pumping work state.pump }
    turns := w.turns + work.toList.length
    journal := w.journal.push (.logged (.started r.flow.id r.flow.source.describe)) }

section Undisturbed

variable {source : Source}

theorem frame_undisturbed (source : Source) : Frame (World.Undisturbed source) where
  refl _ := ⟨rfl, rfl, rfl, fun _ _ _ => rfl⟩
  trans _ _ _ h h' := ⟨h'.runners.trans h.runners, h'.clock.trans h.clock,
    h'.patience.trans h.patience, fun counter feed hsource =>
      (h'.stream counter feed hsource).trans (h.stream counter feed hsource)⟩
  issued _ _ := ⟨rfl, rfl, rfl, fun _ _ _ => rfl⟩
  journal _ _ := ⟨rfl, rfl, rfl, fun _ _ _ => rfl⟩

theorem undisturbed_send (source : Source) (live : LiveRef) (m : Message) :
    (Run.send live m).Keeps (World.Undisturbed source) fun _ => True := by
  intro w result v hexec
  rw [exec_send_eq] at hexec
  cases hexec
  refine ⟨?_, fun _ _ => trivial⟩
  split
  · exact ⟨rfl, rfl, rfl, fun _ _ _ => rfl⟩
  · exact (frame_undisturbed source).refl w

/-- A message that is sent leaves alone what the stages leave alone. -/
theorem undisturbed_sendLogged {r : Runner} (hcode : r.flow.Considerate) (m : Message) :
    (r.sendLogged m).Keeps (World.Undisturbed r.flow.source) fun _ => True :=
  Runner.keeps_sendLogged (frame_undisturbed _) (undisturbed_send _) hcode.stages m

end Undisturbed

namespace Runner

variable {r : Runner} {w v : World}

theorem exec_begin (r : Runner) (work : PumpWork) (w : World) :
    (r.begin work).exec w = some (.ok (),
      { w with
        runners := w.runners.modify r.slot fun state =>
          { state with pump := w.pumping (some work) state.pump }
        turns := w.turns + 1 }) := rfl

/-- A pump that has begun, and a runner that is running: the runner was started. -/
theorem exec_begun (r : Runner) (work : PumpWork) (w : World) :
    (do
      r.begin work
      r.update fun state => { state with running := true }
      Run.log (.started r.flow.id r.flow.source.describe)).exec w =
        some (.ok (), w.started r (some work)) := by
  simp only [Run.exec_bind, exec_begin, Runner.update, Run.exec_modify, Run.exec_log,
    List.modify_modify_eq]
  rfl

/-- A start, as what it asks of the source and what it does then. -/
theorem exec_start (r : Runner) (w : World) :
    r.start.exec w =
      if (w.runners.getD r.slot .new).stopped then
        some (.error (.lifecycle (.stopped r.flow.id)), w)
      else if (w.runners.getD r.slot .new).running then
        some (.error (.lifecycle (.running r.flow.id)), w)
      else
        match r.flow.draw.exec w with
        | some (.ok work, u) => some (.ok (), u.started r work)
        | some (.error failure, u) => some (.error failure, u)
        | none => none := by
  simp only [start, Runner.state, Run.exec_bind, Run.exec_look]
  cases (w.runners.getD r.slot .new).stopped with
  | true => rfl
  | false =>
    cases (w.runners.getD r.slot .new).running with
    | true => rfl
    | false =>
      simp only [Bool.false_eq_true, if_false]
      have hbegun := exec_begun r
      unfold Flow.draw
      cases hsource : r.flow.source with
      | polling receive adapter =>
        rw [hsource] at hbegun
        exact hbegun .poll w
      | publisher counter feed =>
        rw [hsource] at hbegun
        rw [Run.exec_bind, Run.exec_bind]
        rcases (Source.publisher counter feed).takePublisher.exec w with
          _ | ⟨failure | taken, u⟩
        · rfl
        · rfl
        · cases taken with
          | none => rfl
          | some feed => exact hbegun (.drain feed) u
      | producer name subscribe =>
        rw [hsource] at hbegun
        rw [Run.exec_bind, Run.exec_bind]
        rcases subscribe.exec w with _ | ⟨failure | feed, u⟩
        · rfl
        · rfl
        · exact hbegun (.drain feed) u
      | channel | live | gateway => simp [Runner.update, World.started, World.pumping, hsource]

/-- What there is to do when a runner stops, if it has a pump. -/
def windUp (runners : List Runner) (r : Runner) (pump : Option Pump) : Run Unit :=
  if pump.isSome then outlast runners r else return ()

/-- The world when a runner is about to stop. -/
def stopping (r : Runner) (w : World) : World :=
  { w with runners := w.runners.modify r.slot fun state => { state with stopped := true } }

/-- The world when a runner has stopped. -/
def stopped (r : Runner) (w : World) : World :=
  { w with
    runners := w.runners.modify r.slot fun state => { state with running := false }
    journal := w.journal.push (.logged (.stopped r.flow.id)) }

/-- A stop, as what is done at once, what there is to do for the pump, and what is done last. -/
theorem exec_stop (runners : List Runner) (r : Runner) (w : World) :
    (Runner.stop runners r).exec w =
      match (r.windUp runners (w.runners.getD r.slot .new).pump).exec (r.stopping w) with
      | some (.ok (), u) => some (.ok (), r.stopped u)
      | some (.error failure, u) => some (.error failure, u)
      | none => none := by
  have heq : Runner.stop runners r = (do
      let state ← r.state
      r.update fun state => { state with stopped := true }
      r.windUp runners state.pump
      r.update fun state => { state with running := false }
      Run.log (.stopped r.flow.id)) := by
    unfold Runner.stop
    refine bind_congr fun state => bind_congr fun _ => ?_
    unfold windUp
    cases state.pump.isSome <;> rfl
  rw [heq]
  simp only [Runner.state, Runner.update, Run.exec_bind, Run.exec_look, Run.exec_modify]
  unfold stopping
  rcases (r.windUp runners _).exec _ with _ | ⟨failure | ⟨⟨⟩⟩, u⟩ <;> rfl

/-! ## What is asked of a source -/

/-- A publisher gives its stream to who asks first, and remembers that it was asked. -/
theorem exec_draw_publisher {counter : Nat} {feed : Feed}
    (hsource : r.flow.source = .publisher counter feed) (w : World) :
    r.flow.draw.exec w =
      some (if w.counters.getD counter 0 = 0 then .ok (some (.drain feed))
        else .error (.lifecycle (.publisherConsumed r.flow.id)),
        { w with counters := w.counters.set counter (w.counters.getD counter 0 + 1) }) := by
  unfold Flow.draw
  rw [hsource]
  simp only [Source.takePublisher, Run.count, Run.exec_bind, Run.exec_get, Run.exec_set,
    Run.exec_pure]
  cases w.counters.getD counter 0 with
  | zero => rfl
  | succ n => rfl

/-- Any other source leaves alone what is not its own. -/
theorem keeps_draw (hcode : r.flow.Considerate)
    (hsource : ∀ counter feed, r.flow.source ≠ .publisher counter feed) :
    r.flow.draw.Keeps (World.Undisturbed r.flow.source) fun _ => True := by
  have hframe := frame_undisturbed r.flow.source
  unfold Flow.draw
  cases hflow : r.flow.source with
  | publisher counter feed => exact absurd hflow (hsource counter feed)
  | producer name subscribe =>
    exact keeps_bind (hflow ▸ hframe) (hflow ▸ hcode.subscribe name subscribe hflow)
      fun _ _ => keeps_pure (hflow ▸ hframe) trivial
  | polling | channel | live | gateway => exact keeps_pure (hflow ▸ hframe) trivial

/-- Whatever there is to pump, no runner is changed until the source has said so. -/
theorem runners_draw (hcode : r.flow.Considerate) {answer : Except Failure (Option PumpWork)}
    (h : r.flow.draw.exec w = some (answer, v)) : v.runners = w.runners := by
  by_cases hsource : ∃ counter feed, r.flow.source = .publisher counter feed
  · obtain ⟨counter, feed, hsource⟩ := hsource
    rw [exec_draw_publisher hsource] at h
    cases h
    rfl
  · have hother : ∀ counter feed, r.flow.source ≠ .publisher counter feed :=
      fun counter feed heq => hsource ⟨counter, feed, heq⟩
    exact (keeps_draw hcode hother w answer v h).1.runners

end Runner

end MessageFlow
