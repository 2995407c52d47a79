import MessageFlow.Proofs.Pumps.Passing
import MessageFlow.Proofs.Sample

/-!
# Pumps in order

A runner was started. Time passes, the pump takes turns, other things happen in between, and at some
moment the runner is stopped. Until then its pump does all that is due and nothing else
(`leadsTo_live`). When the runner is stopped its pump may take some of the turns that are due just
then, and afterwards it does nothing any more (`leadsTo_stop`). So what is dispatched is what the
source gave, in the same order, and each message once (`pumps_in_order`).

Polls are as far apart as a timer takes for the delay of the poller. For whole milliseconds that is
the delay, and otherwise it is more. A stream is dispatched as far as it has become ready, also if
the runner is not stopped (`pumps_come_late`).
-/

namespace MessageFlow

section

variable [PayloadTypes]

/-- Something that happens while a runner has a pump. -/
inductive Happening where
  /-- Time passes. -/
  | wait (ms : Nat)
  /-- The pump takes some turns that are due, and others may still be due then. -/
  | proceed (count : Nat)
  /-- Something that has nothing to do with the pump, whether it fails or not. -/
  | other (run : Run Unit)

/-- How much time passes in all. -/
def waited : List Happening → Nat
  | [] => 0
  | .wait ms :: rest => ms + waited rest
  | .proceed _ :: rest | .other _ :: rest => waited rest

namespace Runner

/-- One thing happens after the other. -/
def live (r : Runner) : List Happening → Run Unit
  | [] => return ()
  | .wait ms :: rest => do
    elapse [r] ms
    r.live rest
  | .proceed count :: rest => do
    r.proceed count
    r.live rest
  | .other run :: rest => do
    let _ ← Run.attempt run
    r.live rest

/-- The turns that the pump took while things happened. -/
inductive Lived (r : Runner) : World → List Happening → List Turn → World → Prop where
  | nothing (w : World) : Lived r w [] [] w
  | wait (ms : Nat) (rest : List Happening) (turns turns' : List Turn) (w u v : World) :
      (elapse [r] ms).exec w = some (.ok (), u) → r.Course w turns u → Lived r u rest turns' v →
      Lived r w (.wait ms :: rest) (turns ++ turns') v
  | proceed (count : Nat) (rest : List Happening) (turns turns' : List Turn) (w u v : World) :
      (r.proceed count).exec w = some (.ok (), u) → r.Course w turns u →
      Lived r u rest turns' v → Lived r w (.proceed count :: rest) (turns ++ turns') v
  | other (run : Run Unit) (result : Except Failure Unit) (rest : List Happening)
      (turns : List Turn) (w u v : World) : run.exec w = some (result, u) →
      Lived r u rest turns v → Lived r w (.other run :: rest) turns v

/-- What has nothing to do with the pump of a runner. -/
structure Aloof (r : Runner) (w v : World) : Prop where
  pump : r.pumpOf v = r.pumpOf w
  clock : v.clock = w.clock
  patience : v.patience = w.patience

/-- Why it may be that things do not come to an end. -/
inductive Endless (r : Runner) (w : World) (happenings : List Happening) : Prop where
  /-- When some things had happened the pump dispatched a message, and that goes on for ever. -/
  | dispatch (before after : List Happening) (turns : List Turn) (u : World) :
      happenings = before ++ after → r.Lived w before turns u → r.Stuck u → Endless r w happenings
  /-- One of the other things goes on for ever. -/
  | other (before after : List Happening) (run : Run Unit) (turns : List Turn) (u : World) :
      happenings = before ++ .other run :: after → r.Lived w before turns u →
      run.exec u = none → Endless r w happenings
  /-- The pump has more turns to take than anybody has patience for. -/
  | patience : r.Busy (w.clock + waited happenings) w.patience (r.pumpOf w) →
      Endless r w happenings

/-- What the pump of a runner did in its turns, from one time up to another: it polled the source at
intervals, or it drained the stream that the source gave when the runner was started. -/
def InOrder (r : Runner) (w₀ : World) (start finish : Nat) (turns : List Turn) : Prop :=
  match r.flow.source with
  | .polling .. => r.flow.poller.Polls start finish turns
  | .publisher _ feed => feed.Drains start finish turns
  | .producer _ subscribe =>
    ∃ feed u, subscribe.exec w₀ = some (.ok feed, u) ∧ feed.Drains start finish turns
  | .channel .. | .live _ | .gateway .. => turns = []

variable {r : Runner} {w₀ w u v : World} {turns : List Turn} {p : Pump}

/-- The pump is not changed by whether its runner is running, or was stopped. -/
theorem pumpOf_of_runners {f : RunnerState → RunnerState}
    (hf : ∀ state, (f state).pump = state.pump) (h : v.runners = w.runners.modify r.slot f) :
    r.pumpOf v = r.pumpOf w := by
  rw [pumpOf, h, List.getElem?_modify_eq, pumpOf]
  cases w.runners[r.slot]? with
  | none => rfl
  | some state => exact hf state

theorem exec_goOn_idle (h : r.pumpOf w = none) (time : Nat) {rounds : Nat} (hrounds : 0 < rounds) :
    (goOn [r] time rounds).exec w = some (.ok (), w) := by
  obtain ⟨rounds, rfl⟩ := Nat.exists_eq_add_of_lt hrounds
  rw [goOn, Run.exec_bind, exec_pumps_singleton, h]
  rfl

/-! ## While the runner is running -/

/-- The pump took all of its turns that were due while things happened. -/
structure Throughout (r : Runner) (w : World) (happenings : List Happening) (turns : List Turn)
    (v : World) : Prop where
  lived : r.Lived w happenings turns v
  schedule : r.Schedule (r.pumpOf w) turns (r.pumpOf v)
  onTime : r.OnTime v
  clock : v.clock = w.clock + waited happenings
  earlier : ∀ turn ∈ turns, turn.time ≤ v.clock

/-- The pump took some turns first, while some time passed or none. -/
theorem throughout_passed {first : Happening} {rest : List Happening} {turns' : List Turn}
    (hpassed : r.Passed w turns u) (hclock : u.clock = w.clock + waited [first])
    (hturns : ∀ turn ∈ turns, turn.time ≤ u.clock)
    (hlived : r.Lived w (first :: rest) (turns ++ turns') v) (h : r.Throughout u rest turns' v) :
    r.Throughout w (first :: rest) (turns ++ turns') v where
  lived := hlived
  schedule := schedule_append hpassed.schedule h.schedule
  onTime := h.onTime
  clock := by
    rw [h.clock, hclock, Nat.add_assoc]
    cases first <;> simp [waited]
  earlier turn hturn := by
    refine (List.mem_append.1 hturn).elim (fun hmem => ?_) (h.earlier turn)
    rw [h.clock]
    exact Nat.le_trans (hturns turn hmem) (Nat.le_add_right _ _)

/-- Something else happens first. -/
theorem throughout_other {run : Run Unit} {result : Except Failure Unit} {rest : List Happening}
    (hexec : run.exec w = some (result, u)) (haloof : r.Aloof w u)
    (h : r.Throughout u rest turns v) : r.Throughout w (.other run :: rest) turns v where
  lived := .other run result rest turns w u v hexec h.lived
  schedule := haloof.pump ▸ h.schedule
  onTime := h.onTime
  clock := h.clock.trans (congrArg (· + waited rest) haloof.clock)
  earlier := h.earlier

/-- What does not come to an end later on does not come to an end, if the turns that were taken
before are not to be taken again. -/
theorem endless_cons {first : Happening} {rest : List Happening}
    (hlived : ∀ before turns' v, r.Lived u before turns' v →
      ∃ turns, r.Lived w (first :: before) turns v)
    (hbusy : r.Busy (u.clock + waited rest) u.patience (r.pumpOf u) →
      r.Busy (w.clock + waited (first :: rest)) w.patience (r.pumpOf w))
    (h : r.Endless u rest) : r.Endless w (first :: rest) := by
  cases h with
  | dispatch before after turns v hrest hbefore hstuck =>
    obtain ⟨turns', hbefore'⟩ := hlived before turns v hbefore
    exact .dispatch (first :: before) after turns' v (by rw [hrest]; rfl) hbefore' hstuck
  | other before after run turns v hrest hbefore hnone =>
    obtain ⟨turns', hbefore'⟩ := hlived before turns v hbefore
    exact .other (first :: before) after run turns' v (by rw [hrest]; rfl) hbefore' hnone
  | patience hlate => exact .patience (hbusy hlate)

/-- The turns that were taken meanwhile are not to be taken again. -/
theorem busy_of_passed {first : Happening} {rest : List Happening} (hpassed : r.Passed w turns u)
    (hclock : u.clock = w.clock + waited [first])
    (hturns : ∀ turn ∈ turns, turn.time < u.clock + waited rest)
    (h : r.Busy (u.clock + waited rest) u.patience (r.pumpOf u)) :
    r.Busy (w.clock + waited (first :: rest)) w.patience (r.pumpOf w) := by
  have hfinish : u.clock + waited rest = w.clock + waited (first :: rest) := by
    rw [hclock, Nat.add_assoc]
    cases first <;> simp [waited]
  have hall := busy_of_schedule hpassed.schedule hturns h
  rw [hfinish, hpassed.patience] at hall
  exact busy_of_le (Nat.le_add_right _ _) hall

/-- Turns that were taken now leave no fewer of them before a later time, and before now there are
none. -/
theorem busy_of_now {count : Nat} {rest : List Happening} (hpassed : r.Passed w turns u)
    (hclock : u.clock = w.clock) (hturns : ∀ turn ∈ turns, turn.time = w.clock)
    (h : r.Busy (u.clock + waited rest) u.patience (r.pumpOf u)) :
    r.Busy (w.clock + waited (.proceed count :: rest)) w.patience (r.pumpOf w) := by
  rcases Nat.eq_zero_or_pos (waited rest) with hzero | hpositive
  · have hnone : u.patience = 0 := by
      rw [hzero] at h
      cases hpatience : u.patience with
      | zero => rfl
      | succ n =>
        rw [hpatience] at h
        cases hpump : r.pumpOf u with
        | none =>
          rw [hpump] at h
          exact h.elim
        | some p =>
          rw [hpump] at h
          obtain ⟨time, turn, hdue, hsoon, -⟩ := h
          have hlater := (hpassed.onTime p hpump).later time hdue
          omega
    rw [← hpassed.patience, hnone]
    trivial
  · refine busy_of_passed hpassed hclock (fun turn hturn => ?_) h
    have htime := hturns turn hturn
    omega

section Running

variable (hcode : r.flow.Considerate) (hreceive : r.flow.source.Answers)

include hcode hreceive

/-- Whatever happens, the pump takes the turns that are due. -/
theorem leadsTo_live {happenings : List Happening}
    (hothers : ∀ run, .other run ∈ happenings → run.Keeps r.Aloof fun _ => True)
    (hon : r.OnTime w) :
    (r.live happenings).LeadsTo (r.Endless w happenings) w fun _ v =>
      ∃ turns, r.Throughout w happenings turns v := by
  induction happenings generalizing w with
  | nil => exact leadsTo_pure ⟨[], .nothing w, .nothing _, hon, rfl, by simp⟩
  | cons first rest ih =>
    have hrest : ∀ run, .other run ∈ rest → run.Keeps r.Aloof fun _ => True :=
      fun run hrun => hothers run (List.mem_cons_of_mem first hrun)
    cases first with
    | wait ms =>
      have helapse := leadsTo_self (leadsTo_elapse hcode hreceive ms hon)
      refine leadsTo_bind (leadsTo_mono helapse ?_ fun _ _ => id) fun _ u hu => ?_
      · rintro (hstuck | hbusy)
        · exact .dispatch [] _ [] w rfl (.nothing w) hstuck
        · refine .patience (busy_mono ?_ hbusy)
          exact Nat.add_le_add_left (Nat.le_add_right ms _) w.clock
      · obtain ⟨hexec, turns, hpassed, hclock, hturns⟩ := hu
        have hlived : ∀ before turns' v, r.Lived u before turns' v →
            r.Lived w (.wait ms :: before) (turns ++ turns') v := fun before turns' v hv =>
          .wait ms before turns turns' w u v hexec hpassed.course hv
        refine leadsTo_mono (ih hrest hpassed.onTime) (endless_cons
          (fun before turns' v hv => ⟨_, hlived before turns' v hv⟩)
          (busy_of_passed hpassed hclock fun turn hturn => ?_)) fun _ v hv => ?_
        · exact Nat.lt_of_lt_of_le (hturns turn hturn) (Nat.le_add_right _ _)
        · obtain ⟨turns', hv⟩ := hv
          exact ⟨turns ++ turns', throughout_passed hpassed hclock
            (fun turn hturn => Nat.le_of_lt (hturns turn hturn)) (hlived _ _ _ hv.lived) hv⟩
    | proceed count =>
      have hproceed := leadsTo_self (leadsTo_proceed hcode hreceive count hon)
      refine leadsTo_bind (leadsTo_mono hproceed
        (fun hstuck => .dispatch [] _ [] w rfl (.nothing w) hstuck) fun _ _ => id) fun _ u hu => ?_
      obtain ⟨hexec, turns, hpassed, hclock, hturns⟩ := hu
      have hlived : ∀ before turns' v, r.Lived u before turns' v →
          r.Lived w (.proceed count :: before) (turns ++ turns') v := fun before turns' v hv =>
        .proceed count before turns turns' w u v hexec hpassed.course hv
      refine leadsTo_mono (ih hrest hpassed.onTime) (endless_cons
        (fun before turns' v hv => ⟨_, hlived before turns' v hv⟩)
        (busy_of_now hpassed hclock hturns)) fun _ v hv => ?_
      obtain ⟨turns', hv⟩ := hv
      exact ⟨turns ++ turns', throughout_passed hpassed hclock
        (fun turn hturn => Nat.le_of_eq ((hturns turn hturn).trans hclock.symm))
        (hlived _ _ _ hv.lived) hv⟩
    | other run =>
      cases hrun : run.exec w with
      | none => exact .inr ⟨by simp [live, hrun], .other [] rest run [] w rfl (.nothing w) hrun⟩
      | some ended =>
        obtain ⟨result, u⟩ := ended
        have hattempt : (Run.attempt run).exec w = some (.ok result, u) := by simp [hrun]
        obtain ⟨haloof, -⟩ := hothers run List.mem_cons_self w result u hrun
        have hon' : r.OnTime u := by
          intro q hq
          obtain ⟨hlater, hfresh, hfits⟩ := hon q (haloof.pump ▸ hq)
          rw [← haloof.clock] at hlater hfresh
          exact ⟨hlater, hfresh, hfits⟩
        refine leadsTo_of_exec hattempt (leadsTo_mono (ih hrest hon') (endless_cons
          (fun before turns v hv => ⟨turns, .other run result before turns w u v hrun hv⟩)
          fun hbusy => ?_) fun _ v hv => ?_)
        · rw [haloof.clock, haloof.patience, haloof.pump] at hbusy
          exact hbusy
        · obtain ⟨turns, hv⟩ := hv
          exact ⟨turns, throughout_other hrun haloof hv⟩

end Running

/-! ## When it is stopped -/

section Stopping

variable (hcode : r.flow.Considerate) (hreceive : r.flow.source.Answers)

include hcode hreceive

/-- What there is to do for the pump of a runner that stops. -/
theorem leadsTo_windUp (hon : r.OnTime w) :
    (r.windUp [r] (r.pumpOf w)).LeadsTo
      (r.Stuck w ∨ r.Busy (w.clock + 1) w.patience (r.pumpOf w)) w fun _ v => r.pumpOf v = none ∧
        ∃ turns u, r.Passed w turns u ∧ u.Aside v ∧ u.clock = w.clock ∧
          ∀ turn ∈ turns, turn.time = w.clock := by
  unfold windUp
  cases hpump : r.pumpOf w with
  | none =>
    exact leadsTo_pure ⟨hpump, [], w, passed_of_aside (aside_refl w) rfl hon rfl, aside_refl w, rfl,
      by simp⟩
  | some p =>
    have hdown := leadsTo_windDown hcode hreceive w.patience hon
    rw [hpump] at hdown
    show (outlast [r] r).LeadsTo _ w _
    refine leadsTo_of_exec (Run.exec_look _ w) ?_
    rcases Nat.eq_zero_or_pos w.patience with hzero | hpositive
    · refine .inr ⟨?_, .inr (by rw [hzero]; trivial)⟩
      rw [hzero]
      rfl
    · refine leadsTo_bind hdown fun _ v hv => ?_
      obtain ⟨hnone, -, hpatience, hturns⟩ := hv
      refine leadsTo_of_exec (Run.exec_look _ v) (leadsTo_of_exec (Run.exec_look _ v) ?_)
      rw [hpatience]
      exact .inl ⟨(), v, exec_goOn_idle hnone _ hpositive, hnone, hturns⟩

/-- A runner that was stopped has no pump. It may have taken some more turns that were due. -/
theorem leadsTo_stop (hon : r.OnTime w) :
    (Runner.stop [r] r).LeadsTo
      (r.Stuck w ∨ r.Busy (w.clock + 1) w.patience (r.pumpOf w)) w fun _ v => r.pumpOf v = none ∧
        ∃ last middle, r.Course w last v ∧ r.Schedule (r.pumpOf w) last middle ∧
          (∀ q due, middle = some q → q.due = some due → w.clock ≤ due) ∧
          ∀ turn ∈ last, turn.time = w.clock := by
  let u : World := r.stopping w
  have hsame : r.pumpOf u = r.pumpOf w :=
    pumpOf_of_runners (f := fun state => { state with stopped := true }) (fun _ => rfl) rfl
  have hu : r.Passed w [] u := by
    refine passed_of_aside ⟨rfl, rfl, rfl, rfl, rfl⟩ hsame (fun q hq => ?_) rfl
    obtain ⟨hlater, hfresh, hfits⟩ := hon q (hsame ▸ hq)
    exact ⟨hlater, hfresh, hfits⟩
  unfold Run.LeadsTo
  rw [exec_stop, pump_getD, ← hsame]
  rcases leadsTo_windUp hcode hreceive hu.onTime with
    ⟨⟨⟩, v, hexec, hpump, turns, t, hpassed, haside, ht, hturns⟩ | ⟨hnone, hwhy⟩
  · rw [hexec]
    have hstopped : v.Aside (r.stopped v) := ⟨rfl, rfl, rfl, rfl, errors_push rfl⟩
    have hpump' : r.pumpOf (r.stopped v) = none :=
      (pumpOf_of_runners (f := fun state => { state with running := false }) (fun _ => rfl)
        rfl).trans hpump
    have hall := passed_trans hu hpassed
    have hend : r.Course t [] (r.stopped v) := .aside t _ (aside_trans haside hstopped)
    have hcourse := course_append hall.course hend
    rw [List.append_nil] at hcourse
    refine .inl ⟨(), r.stopped v, rfl, hpump', turns, r.pumpOf t, hcourse, ?_, ?_, hturns⟩
    · rw [hsame]
      exact hall.schedule
    · intro q due hq hdue
      have hlater := (hall.onTime q hq).later due hdue
      exact ht ▸ hlater
  · rw [hnone]
    exact .inr ⟨rfl, hwhy.imp_left (stuck_of_passed hu)⟩

end Stopping

/-! ## When it is started -/

/-- The pump of a runner that was just started. -/
def Begins (r : Runner) (work : PumpWork) (w : World) : Prop :=
  ∃ turn, r.pumpOf w = some { work := work, due := w.clock, turn := turn, armed := false }

theorem begins_of_started {work : PumpWork} (hslot : r.slot < w.runners.length) :
    r.Begins work (w.started r (some work)) := by
  refine ⟨w.turns, ?_⟩
  rw [pumpOf, World.started, List.getElem?_modify_eq, List.getElem?_eq_getElem hslot]
  rfl

/-- What a source that answers gives to pump. -/
theorem work_of_draw {work : Option PumpWork}
    (h : r.flow.draw.exec w = some (.ok work, u)) :
    match r.flow.source with
    | .polling .. => work = some .poll
    | .publisher _ feed => work = some (.drain feed)
    | .producer _ subscribe =>
      ∃ feed, subscribe.exec w = some (.ok feed, u) ∧ work = some (.drain feed)
    | .channel .. | .live _ | .gateway .. => work = none ∧ u = w := by
  cases hsource : r.flow.source with
  | publisher counter feed =>
    rw [exec_draw_publisher hsource] at h
    split at h
    · cases h
      rfl
    · cases h
  | producer name subscribe =>
    simp only [Flow.draw, hsource, Run.exec_bind] at h
    split at h
    · next feed u hsubscribe =>
      cases h
      exact ⟨feed, hsubscribe, rfl⟩
    · cases h
    · cases h
  | polling receive adapter =>
    simp only [Flow.draw, hsource] at h
    cases h
    rfl
  | channel | live | gateway =>
    simp only [Flow.draw, hsource] at h
    cases h
    exact ⟨rfl, rfl⟩

/-- A start that succeeds has asked the source what there is to pump. -/
theorem draw_of_start (h : r.start.exec w₀ = some (.ok (), w)) :
    ∃ work u, r.flow.draw.exec w₀ = some (.ok work, u) ∧ w = u.started r work := by
  rw [exec_start] at h
  split at h
  · cases h
  · split at h
    · cases h
    · split at h
      · next work u hdraw =>
        cases h
        exact ⟨work, u, hdraw, rfl⟩
      · cases h
      · cases h

/-- What the pump of a runner has to do that was just started. -/
theorem pump_of_start (hcode : r.flow.Considerate) (hslot : r.slot < w₀.runners.length)
    (hidle : r.pumpOf w₀ = none) (h : r.start.exec w₀ = some (.ok (), w)) :
    match r.flow.source with
    | .polling .. => r.Begins .poll w
    | .publisher _ feed => r.Begins (.drain feed) w
    | .producer _ subscribe =>
      ∃ feed u, subscribe.exec w₀ = some (.ok feed, u) ∧ r.Begins (.drain feed) w
    | .channel .. | .live _ | .gateway .. => r.pumpOf w = none := by
  obtain ⟨work, u, hdraw, rfl⟩ := draw_of_start h
  have hslot' : r.slot < u.runners.length := runners_draw hcode hdraw ▸ hslot
  have hwork := work_of_draw hdraw
  have hnone : work = none ∧ u = w₀ → r.pumpOf (u.started r work) = none := by
    rintro ⟨rfl, rfl⟩
    exact (pumpOf_of_runners (f := fun state => { state with running := true }) (fun _ => rfl)
      rfl).trans hidle
  cases hsource : r.flow.source with
  | polling | publisher =>
    rw [hsource] at hwork
    exact hwork ▸ begins_of_started hslot'
  | producer name subscribe =>
    rw [hsource] at hwork
    obtain ⟨feed, hsubscribe, rfl⟩ := hwork
    exact ⟨feed, u, hsubscribe, begins_of_started hslot'⟩
  | channel | live | gateway =>
    rw [hsource] at hwork
    exact hnone hwork

theorem onTime_of_begins {work : PumpWork} (h : r.Begins work w)
    (hfits : work = .poll → ∃ receive adapter, r.flow.source = .polling receive adapter) :
    r.OnTime w := by
  obtain ⟨turn, hpump⟩ := h
  intro q hq
  cases hpump.symm.trans hq
  refine ⟨fun time htime => ?_, fun _ => rfl, hfits⟩
  cases htime
  exact Nat.le_refl _

/-- The pump of a runner that was started does its work in order. -/
theorem inOrder_of_start (hcode : r.flow.Considerate) (hslot : r.slot < w₀.runners.length)
    (hidle : r.pumpOf w₀ = none) (h : r.start.exec w₀ = some (.ok (), w)) :
    r.OnTime w ∧ ∀ turns last finish, r.Schedule (r.pumpOf w) turns last →
      (∀ turn ∈ turns, turn.time ≤ finish) →
        (∀ q due, last = some q → q.due = some due → finish ≤ due) →
          r.InOrder w₀ w.clock finish turns := by
  have hpump := pump_of_start hcode hslot hidle h
  unfold InOrder
  cases hsource : r.flow.source with
  | polling receive adapter =>
    rw [hsource] at hpump
    refine ⟨onTime_of_begins hpump fun _ => ⟨receive, adapter, hsource⟩, ?_⟩
    obtain ⟨turn, hp⟩ := hpump
    intro turns last finish hschedule
    exact polls_of_schedule (hp ▸ hschedule) rfl rfl
  | publisher counter feed =>
    rw [hsource] at hpump
    refine ⟨onTime_of_begins hpump (fun hpoll => nomatch hpoll), ?_⟩
    obtain ⟨turn, hp⟩ := hpump
    intro turns last finish hschedule
    exact drains_of_schedule (hp ▸ hschedule) rfl rfl rfl
  | producer name subscribe =>
    rw [hsource] at hpump
    obtain ⟨feed, u, hsubscribe, hbegins⟩ := hpump
    refine ⟨onTime_of_begins hbegins (fun hpoll => nomatch hpoll), ?_⟩
    obtain ⟨turn, hp⟩ := hbegins
    intro turns last finish hschedule hturns hlast
    exact ⟨feed, u, hsubscribe, drains_of_schedule (hp ▸ hschedule) rfl rfl rfl hturns hlast⟩
  | channel | live | gateway =>
    rw [hsource] at hpump
    refine ⟨fun q hq => ?_, fun turns last finish hschedule _ _ => ?_⟩
    · cases hpump.symm.trans hq
    · exact (schedule_none (hpump ▸ hschedule)).1

end Runner

/-- Pumps neither lose, repeat nor reorder messages. A runner was started, time passes, and other
things happen in between. Unless something goes on for ever, the pump has then done this. A source
that is polled was polled at equal intervals, as long as a timer takes for the delay, and each time
until it had no message or was asked often enough. Of a stream the first messages were taken, each
when it became ready, and none was left out that was ready earlier. What was dispatched are the
messages that the source gave, in order and each of them once, and for each dispatch that failed,
and for no other one, an error was logged. When the runner is stopped the pump may take some more
turns that are due just then, and all that it did is still in order. Nothing is done later on. -/
theorem pumps_in_order {r : Runner} {w₀ w : World} {happenings : List Happening}
    (hcode : r.flow.Considerate) (hreceive : r.flow.source.Answers)
    (hslot : r.slot < w₀.runners.length) (hidle : r.pumpOf w₀ = none)
    (hstart : r.start.exec w₀ = some (.ok (), w))
    (hothers : ∀ run, .other run ∈ happenings → run.Keeps r.Aloof fun _ => True) :
    (r.live happenings).LeadsTo (r.Endless w happenings) w fun _ v =>
      v.clock = w.clock + waited happenings ∧ ∃ turns, r.Lived w happenings turns v ∧
        r.InOrder w₀ w.clock v.clock turns ∧
        (Runner.stop [r] r).LeadsTo
          (r.Stuck v ∨ r.Busy (v.clock + 1) v.patience (r.pumpOf v)) v fun _ u =>
            (∃ last, r.Course v last u ∧ (∀ turn ∈ last, turn.time = v.clock) ∧
              r.InOrder w₀ w.clock v.clock (turns ++ last)) ∧
            ∀ later : List Happening,
              (∀ run, .other run ∈ later → run.Keeps r.Aloof fun _ => True) →
                (r.live later).LeadsTo (r.Endless u later) u fun _ u' => r.Lived u later [] u' := by
  obtain ⟨hon, horder⟩ := Runner.inOrder_of_start hcode hslot hidle hstart
  refine leadsTo_mono (Runner.leadsTo_live hcode hreceive hothers hon) id fun _ v hv => ?_
  obtain ⟨turns, hv⟩ := hv
  refine ⟨hv.clock, turns, hv.lived, ?_, ?_⟩
  · exact horder turns _ v.clock hv.schedule hv.earlier fun q due hq => (hv.onTime q hq).later due
  · refine leadsTo_mono (Runner.leadsTo_stop hcode hreceive hv.onTime) id fun _ u hu => ?_
    obtain ⟨hnone, last, middle, hcourse, hschedule, hmiddle, hlast⟩ := hu
    have hall := Runner.schedule_append hv.schedule hschedule
    have hearlier : ∀ turn ∈ turns ++ last, turn.time ≤ v.clock := fun turn hturn =>
      (List.mem_append.1 hturn).elim (hv.earlier turn) fun hmem => Nat.le_of_eq (hlast turn hmem)
    refine ⟨⟨last, hcourse, hlast, horder _ middle v.clock hall hearlier hmiddle⟩,
      fun later hlater => ?_⟩
    have hlate : r.OnTime u := fun q hq => nomatch hnone.symm.trans hq
    refine leadsTo_mono (Runner.leadsTo_live hcode hreceive hlater hlate) id fun _ u' hu' => ?_
    obtain ⟨turns', hu'⟩ := hu'
    obtain ⟨rfl, -⟩ := Runner.schedule_none (hnone ▸ hu'.schedule)
    exact hu'.lived

end

/-! ## Polls for example -/

open Sample

/-- A source that gives two messages when it is polled, and then none. -/
def twoMessages (delay : Span) : Source :=
  let items : List Message := [⟨.fresh 0, .of .number 1, .at 0⟩, ⟨.fresh 1, .of .number 2, .at 0⟩]
  let receive : Run (Option Message) := do
    let taken ← Run.count 0
    return items[taken]?
  .polling receive ⟨none, some (Poller.withDelay delay)⟩

/-- A bridge from this source to a channel. -/
def polledEvery (delay : Span) : FlowDefinition :=
  (FlowDefinition.start "f" (twoMessages delay) .standard).afterAll
    [.stage (.bridge .standard), .channel (.named "out")]

/-- A runner that polls the source. There is no channel for what it dispatches. -/
structure PollsInVain (delay : Span) (r : Runner) : Prop where
  slot : r.slot = 0
  source : r.flow.source = twoMessages delay
  poller : r.flow.poller = .withDelay delay
  stages : ∀ stage ∈ r.flow.stages, ∀ m, stage.endpoint.invoke m = pure (.reply m)
  first : ∀ m w, (r.visit ⟨r.flow.input, m⟩).exec w = some (.ok [⟨.named "out", m⟩], w)
  second : ∀ m w, (r.visit ⟨.named "out", m⟩).exec w = some (.error (.destination "out"), w)

section Polls

variable {delay : Span} {r : Runner} {w : World} (h : PollsInVain delay r)

include h

/-- The functions of its flow touch nothing, and the source always has an answer. -/
theorem considerate_of_inVain : r.flow.Considerate ∧ r.flow.source.Answers := by
  have hframe := frame_undisturbed r.flow.source
  refine ⟨⟨?_, ?_, ?_⟩, ?_⟩
  · intro stage hstage m
    rw [h.stages stage hstage m]
    exact keeps_pure hframe trivial
  · intro receive adapter hsource w result v hexec
    rw [h.source] at hsource ⊢
    cases hsource
    cases hexec
    exact ⟨⟨rfl, rfl, rfl, nofun⟩, fun _ _ => trivial⟩
  · intro name subscribe hsource
    rw [h.source] at hsource
    cases hsource
  · intro receive adapter hsource w
    rw [h.source] at hsource
    cases hsource
    exact ⟨_, _, rfl⟩

/-- Every dispatch fails. -/
theorem exec_send_inVain (m : Message) (w : World) :
    (r.send m).exec w = some (.error (.destination "out"), w) := by
  rw [Runner.send, Runner.dispatch, Work.run_cons, Run.exec_bind, h.first]
  simp [Work.run_cons, h.second]

/-- A start begins to poll at once. -/
theorem start_inVain :
    ∃ w, r.start.exec { World.new 30 with runners := [.new], counters := [0] } = some (.ok (), w) ∧
      w.clock = 0 ∧ w.patience = 30 ∧ r.pumpOf w = some ⟨.poll, some 0, 0, false⟩ := by
  let w₀ : World := { World.new 30 with runners := [.new], counters := [0] }
  have hdraw : r.flow.draw.exec w₀ = some (.ok (some .poll), w₀) := by
    rw [Flow.draw, h.source]
    rfl
  refine ⟨w₀.started r (some .poll), ?_, rfl, rfl, ?_⟩
  · rw [Runner.exec_start, hdraw, h.slot]
    rfl
  · rw [Runner.pumpOf, World.started, h.slot]
    rfl

/-- Where nothing else happens that goes on for ever, thirty turns are enough for a while. -/
theorem not_endless_inVain {happenings : List Happening}
    (hothers : ∀ run, .other run ∈ happenings → run = pure ())
    (hpatience : w.patience = 30) (hclock : w.clock = 0)
    (hpump : r.pumpOf w = some ⟨.poll, some 0, 0, false⟩)
    (hwaited : waited happenings ≤ 29 * r.flow.poller.fixedDelay.timer) :
    ¬ r.Endless w happenings := by
  intro hendless
  cases hendless with
  | dispatch before after turns u _ _ hstuck =>
    obtain ⟨-, -, -, -, v, m, -, hnone⟩ := hstuck
    rw [exec_send_inVain h] at hnone
    cases hnone
  | other before after run turns u hsplit _ hnone =>
    obtain rfl := hothers run (by simp [hsplit])
    cases hnone
  | patience hbusy =>
    rw [hpatience, hclock, hpump] at hbusy
    have htime := Runner.time_of_busy hbusy rfl rfl
    omega

end Polls

/-- When a source was polled. -/
theorem times_of_polls {poller : Poller} {start finish : Nat} {turns : List Turn}
    (h : poller.Polls start finish turns) :
    turns.map Turn.time =
      (List.range turns.length).map fun k => start + k * poller.fixedDelay.timer := by
  refine List.ext_getElem (by simp) fun k hk _ => ?_
  have hlt : k < turns.length := by simpa using hk
  simpa using (h.each k turns[k] (List.getElem?_eq_getElem hlt)).1

/-- How often a source was polled, if no poll was due at the end. -/
theorem length_of_polls {poller : Poller} {start finish n : Nat} {turns : List Turn}
    (h : poller.Polls start finish turns)
    (hlast : start + (n - 1) * poller.fixedDelay.timer < finish)
    (hnext : finish < start + n * poller.fixedDelay.timer) : turns.length = n := by
  have hsome := h.all (n - 1) hlast
  refine Nat.le_antisymm (Nat.le_of_not_lt fun hlt => ?_) (by omega)
  obtain ⟨htime, hle, -⟩ := h.each n turns[n] (List.getElem?_eq_getElem hlt)
  omega

/-- In 25 milliseconds the source is polled three times, and for each message that it gave an error
is logged. -/
theorem pumps_in_order_polled :
    ∃ (r : Runner) (w v : World) (turns : List Turn),
      (Composer.finish.exec (polledEvery (.ofMillis 10))).1 = .ok r.flow ∧
      r.start.exec { World.new 30 with runners := [.new], counters := [0] } = some (.ok (), w) ∧
      (r.live [.wait 15, .other (pure ()), .proceed 2, .wait 10]).exec w = some (.ok (), v) ∧
      r.Lived w [.wait 15, .other (pure ()), .proceed 2, .wait 10] turns v ∧
      turns.map Turn.time = [0, 10, 20] ∧
      Deeds.dispatched (Turn.all turns) = Deeds.received (Turn.all turns) ∧
      Deeds.reported (Turn.all turns) = Deeds.failed (Turn.all turns) := by
  have hfinish : ∃ flow, (Composer.finish.exec (polledEvery (.ofMillis 10))).1 = .ok flow :=
    ⟨_, rfl⟩
  obtain ⟨flow, hflow⟩ := hfinish
  let r : Runner := ⟨0, flow, .empty, none⟩
  have hr : PollsInVain (.ofMillis 10) r := by
    cases hflow
    refine ⟨rfl, rfl, rfl, fun stage hstage m => ?_, fun _ _ => rfl, fun _ _ => rfl⟩
    cases List.mem_singleton.1 hstage
    rfl
  let happenings : List Happening := [.wait 15, .other (pure ()), .proceed 2, .wait 10]
  obtain ⟨hcode, hreceive⟩ := considerate_of_inVain hr
  obtain ⟨w, hstart, hclock, hpatience, hpump⟩ := start_inVain hr
  have hdelay : r.flow.poller.fixedDelay.timer = 10 := by rw [hr.poller]; rfl
  have honly : ∀ run, .other run ∈ happenings → run = pure () := by
    intro run hrun
    simpa [happenings] using hrun
  have hothers : ∀ run, .other run ∈ happenings → run.Keeps r.Aloof fun _ => True := by
    intro run hrun w result v hexec
    cases honly run hrun
    cases hexec
    exact ⟨⟨rfl, rfl, rfl⟩, fun _ _ => trivial⟩
  have hends : ¬ r.Endless w happenings :=
    not_endless_inVain hr honly hpatience hclock hpump (by rw [hdelay]; decide)
  rcases pumps_in_order hcode hreceive (by exact Nat.one_pos) rfl hstart hothers with
    ⟨⟨⟩, v, hlive, hclock', turns, hlived, horder, -⟩ | ⟨-, hendless⟩
  · have hpolls : r.flow.poller.Polls 0 25 turns := by
      rw [Runner.InOrder, hr.source, hclock', hclock] at horder
      exact horder
    have hlength : turns.length = 3 :=
      length_of_polls hpolls (by rw [hdelay]; decide) (by rw [hdelay]; decide)
    refine ⟨r, w, v, turns, hflow, hstart, hlive, hlived, ?_, hpolls.dispatched, hpolls.reported⟩
    rw [times_of_polls hpolls, hlength, hdelay]
    rfl
  · exact absurd hendless hends

/-! ## Pumps that come late -/

/-- What comes of a flow when its runner is started and some time passes: the runner, and the turns
that its pump took. -/
def FlowDefinition.Pumps (definition : FlowDefinition) (ms : Nat) (r : Runner)
    (turns : List Turn) : Prop :=
  (Composer.finish.exec definition).1 = .ok r.flow ∧
  ∃ w v, r.start.exec { World.new 30 with runners := [.new], counters := [0] } =
      some (.ok (), w) ∧
    w.clock = 0 ∧ (r.live [.wait ms]).exec w = some (.ok (), v) ∧ r.Lived w [.wait ms] turns v

/-- While some time passes the source is polled as the delay has it. -/
theorem pumps_inVain {delay : Span} {r : Runner} {ms : Nat} (h : PollsInVain delay r)
    (hflow : (Composer.finish.exec (polledEvery delay)).1 = .ok r.flow)
    (hms : ms ≤ 29 * delay.timer) :
    ∃ turns, (polledEvery delay).Pumps ms r turns ∧ r.flow.poller.Polls 0 ms turns := by
  obtain ⟨hcode, hreceive⟩ := considerate_of_inVain h
  obtain ⟨w, hstart, hclock, hpatience, hpump⟩ := start_inVain h
  have hends : ¬ r.Endless w [.wait ms] :=
    not_endless_inVain h (by simp) hpatience hclock hpump (by rw [h.poller]; exact hms)
  let w₀ : World := { World.new 30 with runners := [.new], counters := [0] }
  have hslot : r.slot < w₀.runners.length := by rw [h.slot]; exact Nat.one_pos
  have hidle : r.pumpOf w₀ = none := by rw [Runner.pumpOf, h.slot]; rfl
  obtain ⟨hon, horder⟩ := Runner.inOrder_of_start hcode hslot hidle hstart
  have hothers : ∀ run, .other run ∈ [Happening.wait ms] → run.Keeps r.Aloof fun _ => True := by
    simp
  rcases Runner.leadsTo_live hcode hreceive hothers hon with
    ⟨⟨⟩, v, hlive, turns, hv⟩ | ⟨-, hendless⟩
  · have hinOrder := horder turns _ v.clock hv.schedule hv.earlier fun q due hq =>
      (hv.onTime q hq).later due
    have hv' : v.clock = ms := by simpa [waited, hclock] using hv.clock
    rw [Runner.InOrder, h.source, hv', hclock] at hinOrder
    exact ⟨turns, ⟨hflow, w, v, hstart, hclock, hlive, hv.lived⟩, hinOrder⟩
  · exact absurd hendless hends

/-- A bridge from a stream whose only message takes ten milliseconds. -/
def streamedLate : FlowDefinition :=
  (FlowDefinition.start "f" (.publisher 0 (.spaced 10 [⟨.fresh 0, .of .number 1, .at 0⟩]))
    .standard).afterAll [.stage (.bridge .standard), .channel (.named "out")]

/-- In five milliseconds nothing comes of the stream. -/
theorem exists_pumps_streamedLate :
    ∃ r, streamedLate.Pumps 5 r [] ∧ r.flow.source = streamedLate.source := by
  have hfinish : ∃ flow, (Composer.finish.exec streamedLate).1 = .ok flow := ⟨_, rfl⟩
  obtain ⟨flow, hflow⟩ := hfinish
  let r : Runner := ⟨0, flow, .empty, none⟩
  have hstart : ∃ w, r.start.exec { World.new 30 with runners := [.new], counters := [0] } =
      some (.ok (), w) := by
    cases hflow
    exact ⟨_, rfl⟩
  obtain ⟨w, hstart⟩ := hstart
  have hwait : w.clock = 0 ∧ ∃ v, (elapse [r] 5).exec w = some (.ok (), v) ∧ w.Aside v := by
    cases hflow
    cases hstart
    exact ⟨rfl, _, rfl, rfl, rfl, rfl, rfl, rfl⟩
  obtain ⟨hclock, v, hwait, haside⟩ := hwait
  have hlive : (r.live [.wait 5]).exec w = some (.ok (), v) := by
    rw [Runner.live, Run.exec_bind, hwait]
    rfl
  have hlived : r.Lived w [.wait 5] [] v :=
    .wait 5 [] [] [] w v v hwait (.aside w v haside) (.nothing v)
  have hsource : r.flow.source = streamedLate.source := by
    cases hflow
    rfl
  exact ⟨r, ⟨hflow, w, v, hstart, hclock, hlive, hlived⟩, hsource⟩

/-- A delay of one and a half milliseconds takes two each time, so that the polls come late. And as
long as the message of a stream takes time nothing of the stream is dispatched, though the runner
was not stopped. -/
theorem pumps_come_late :
    (∃ r turns, (polledEvery ⟨1500000⟩).Pumps 5 r turns ∧
      r.flow.poller.fixedDelay = ⟨1500000⟩ ∧ turns.map Turn.time = [0, 2, 4] ∧
      ¬ ∀ (k : Nat) (turn : Turn), turns[k]? = some turn →
        Span.ofMillis turn.time = ⟨k * r.flow.poller.fixedDelay.nanos⟩) ∧
    ∃ r turns counter feed, streamedLate.Pumps 5 r turns ∧
      r.flow.source = .publisher counter feed ∧
      Deeds.dispatched (Turn.all turns) = [] ∧ (feed.messages 1).length = 1 := by
  constructor
  · have hfinish : ∃ flow, (Composer.finish.exec (polledEvery ⟨1500000⟩)).1 = .ok flow :=
      ⟨_, rfl⟩
    obtain ⟨flow, hflow⟩ := hfinish
    let r : Runner := ⟨0, flow, .empty, none⟩
    have hr : PollsInVain ⟨1500000⟩ r := by
      cases hflow
      refine ⟨rfl, rfl, rfl, fun stage hstage m => ?_, fun _ _ => rfl, fun _ _ => rfl⟩
      cases List.mem_singleton.1 hstage
      rfl
    have hfew : 5 ≤ 29 * (⟨1500000⟩ : Span).timer := by decide
    obtain ⟨turns, hpumps, hpolls⟩ := pumps_inVain hr hflow hfew
    have hdelay : r.flow.poller.fixedDelay = ⟨1500000⟩ := congrArg _ hr.poller
    have hlength : turns.length = 3 :=
      length_of_polls hpolls (by rw [hdelay]; decide) (by rw [hdelay]; decide)
    have htimes : turns.map Turn.time = [0, 2, 4] := by
      rw [times_of_polls hpolls, hlength, hdelay]
      rfl
    refine ⟨r, turns, hpumps, hdelay, htimes, fun hclaim => ?_⟩
    have hone : 1 < turns.length := by rw [hlength]; decide
    have htime : turns[1].time = 2 := by
      have hget : (turns.map Turn.time)[1]? = some 2 := by rw [htimes]; rfl
      simpa [hone] using hget
    have hfirst := hclaim 1 turns[1] (List.getElem?_eq_getElem hone)
    rw [htime, hdelay] at hfirst
    exact absurd hfirst (by decide)
  · obtain ⟨r, hpumps, hsource⟩ := exists_pumps_streamedLate
    exact ⟨r, [], 0, _, hpumps, hsource, rfl, rfl⟩

end MessageFlow
