import MessageFlow.Proofs.Pumps.Schedules

/-!
# Time that passes

While time passes the pump of a runner takes its turns, each of them when it is due
(`leadsTo_elapse`): the clock is set to the time of the next turn, and no turn is left out or comes
late. Nothing happens besides the turns (`Course`). When the runner is stopped the pump may take
some more turns, all of them at once (`leadsTo_windDown`). All this comes to an end unless a
dispatch hangs, or there are more turns to take than somebody has patience for.
-/

namespace MessageFlow

variable [PayloadTypes]

/-- A run that was taken apart into the turns of a pump, and nothing else. -/
inductive Runner.Course (r : Runner) : World → List Turn → World → Prop where
  | aside (w v : World) : w.Aside v → Course r w [] v
  | turn (deeds : List Deed) (turns : List Turn) (w u u' v : World) : w.Aside u →
      r.Did u deeds u' → Course r u' turns v → Course r w (⟨u.clock, deeds⟩ :: turns) v

namespace Runner

/-- A pump is not late, and takes its first turn when it was started. -/
structure Timely (r : Runner) (w : World) (p : Pump) : Prop where
  later : ∀ time, p.due = some time → w.clock ≤ time
  fresh : p.armed = false → p.due = some w.clock
  fits : r.Fits p

/-- If a runner has a pump it is not late. -/
def OnTime (r : Runner) (w : World) : Prop :=
  ∀ p, r.pumpOf w = some p → r.Timely w p

/-- The pump of a runner took some turns. -/
structure Passed (r : Runner) (w : World) (turns : List Turn) (v : World) : Prop where
  course : r.Course w turns v
  schedule : r.Schedule (r.pumpOf w) turns (r.pumpOf v)
  onTime : r.OnTime v
  patience : v.patience = w.patience

/-- After some turns of the pump a dispatch goes on for ever. -/
def Stuck (r : Runner) (w : World) : Prop :=
  ∃ turns u, r.Course w turns u ∧ r.Hangs u

variable {r : Runner} {w u v : World} {turns turns' : List Turn} {p : Pump} {deeds : List Deed}

theorem course_of_aside (h : w.Aside u) (h' : r.Course u turns v) : r.Course w turns v := by
  cases h' with
  | aside _ _ hu => exact .aside w v (aside_trans h hu)
  | turn deeds turns _ u' u'' _ hu hdid hrest =>
    exact .turn deeds turns w u' u'' v (aside_trans h hu) hdid hrest

theorem course_append (h : r.Course w turns u) (h' : r.Course u turns' v) :
    r.Course w (turns ++ turns') v := by
  induction h with
  | aside w u hu => exact course_of_aside hu h'
  | turn deeds turns w u u' _ hu hdid _ ih => exact .turn deeds _ w u u' v hu hdid (ih h')

theorem passed_trans (h : r.Passed w turns u) (h' : r.Passed u turns' v) :
    r.Passed w (turns ++ turns') v where
  course := course_append h.course h'.course
  schedule := schedule_append h.schedule h'.schedule
  onTime := h'.onTime
  patience := h'.patience.trans h.patience

/-- Nothing was done, and the pump is the same. -/
theorem passed_of_aside (haside : w.Aside v) (hpump : r.pumpOf v = r.pumpOf w)
    (hon : r.OnTime v) (hpatience : v.patience = w.patience) : r.Passed w [] v where
  course := .aside w v haside
  schedule := hpump ▸ .nothing _
  onTime := hon
  patience := hpatience

/-- Who gets stuck after some turns gets stuck. -/
theorem stuck_of_passed (h : r.Passed w turns u) (hu : r.Stuck u) : r.Stuck w := by
  obtain ⟨turns', v, hcourse, hhangs⟩ := hu
  exact ⟨turns ++ turns', v, course_append h.course hcourse, hhangs⟩

theorem stuck_of_hangs (h : r.Hangs w) : r.Stuck w :=
  ⟨[], w, .aside w w (aside_refl w), h⟩

/-- Receivers are served and the clock is set, and the pump is still not late. -/
theorem passed_of_clock (hon : r.OnTime w) {time : Nat} (hnow : w.clock ≤ time)
    (hlater : ∀ q due, r.pumpOf w = some q → q.due = some due → time ≤ due) :
    r.Passed w [] { w.served with clock := time } := by
  have hserved : w.Aside w.served :=
    ⟨contents_served w, by simp [World.gates, World.served], rfl, rfl, rfl⟩
  refine passed_of_aside (aside_trans hserved ⟨rfl, rfl, rfl, rfl, rfl⟩) rfl ?_ rfl
  intro q hq
  refine ⟨fun due hdue => hlater q due hq hdue, fun hfresh => ?_, (hon q hq).fits⟩
  have hdue := (hon q hq).fresh hfresh
  rw [hdue, Option.some_inj]
  exact Nat.le_antisymm hnow (hlater q _ hq hdue)

theorem fits_of_goes (h : r.Goes p deeds) {next : PumpWork × Option Nat}
    (hahead : r.ahead p = some next) (time turn : Nat) : r.Fits (Pump.waiting time turn next) := by
  intro hpoll
  replace hpoll : next.1 = .poll := hpoll
  cases h with
  | polled receive adapter deeds _ hsource => exact ⟨receive, adapter, hsource⟩
  | asked feed hdrain hbegins =>
    simp only [ahead, hdrain, hbegins] at hahead
    cases hahead
    cases hpoll
  | taken feed m result hdrain hwaits hnext =>
    simp only [ahead, hdrain, hwaits, hnext] at hahead
    cases hahead
    cases hpoll
  | ended feed hdrain hwaits hnext =>
    simp only [ahead, hdrain, hwaits, hnext] at hahead
    cases hahead

/-- A pump that can go on now and is not late is due now. -/
theorem due_of_isDue (h : r.Timely w p) (hdue : p.isDue w.clock = true) :
    p.due = some w.clock := by
  unfold Pump.isDue at hdue
  cases hp : p.due with
  | none =>
    rw [hp] at hdue
    cases hdue
  | some time =>
    rw [hp] at hdue
    rw [Option.some_inj]
    exact Nat.le_antisymm (by simpa using hdue) (h.later time hp)

/-- A pump that cannot go on now is due later, if ever. -/
theorem lt_of_not_isDue {time due : Nat} (h : p.isDue time = false) (hdue : p.due = some due) :
    time < due := by
  unfold Pump.isDue at h
  rw [hdue] at h
  simpa using h

/-- One turn, taken when it is due. -/
theorem passed_of_took (h : r.Took p w deeds v) (hpump : r.pumpOf w = some p)
    (hdue : p.due = some w.clock) : r.Passed w [⟨w.clock, deeds⟩] v ∧ v.clock = w.clock := by
  obtain ⟨u, hdid, hu, ⟨turn, hnext⟩, haside, hclock, hpatience⟩ := h.did
  have hclock' : v.clock = w.clock := hclock.trans hu.clock
  rw [hu.clock] at hnext
  refine ⟨⟨?_, ?_, ?_, hpatience.trans hu.patience⟩, hclock'⟩
  · exact .turn deeds [] w w u v (aside_refl w) hdid (.aside u v haside)
  · rw [hpump, hnext]
    exact .turn p w.clock deeds turn [] _ hdue h.goes (.nothing _)
  · intro q hq
    rw [hnext, Option.map_eq_some_iff] at hq
    obtain ⟨next, hahead, rfl⟩ := hq
    refine ⟨fun time htime => ?_, nofun, fits_of_goes h.goes hahead _ _⟩
    obtain ⟨gap, -, rfl⟩ := Option.map_eq_some_iff.1 htime
    rw [hclock']
    exact Nat.le_add_right _ _

theorem exec_pumps_singleton (r : Runner) (w : World) :
    (pumps [r]).exec w = some (.ok ((r.pumpOf w).map fun p => (r, p)).toList, w) := by
  have hpump : r.pumpOf w = w.runners[r.slot]?.bind (·.pump) := rfl
  simp only [pumps, Run.exec_bind, Run.exec_look, Run.exec_pure, List.filterMap_cons,
    List.filterMap_nil, ← hpump]
  cases r.pumpOf w <;> rfl

/-- The first of the pumps that are due, where there is one runner. -/
theorem firstPump?_singleton (r : Runner) (pump : Option Pump) (due : Pump → Bool) :
    firstPump? ((pump.map fun p => (r, p)).toList.filter fun entry => due entry.2) =
      (pump.filter due).map fun p => (r, p) := by
  cases pump with
  | none => rfl
  | some p => cases hdue : due p <;> simp [Option.filter, hdue, firstPump?]

/-- What the runner is doing, as far as its pump is concerned. -/
theorem pump_getD (r : Runner) (w : World) :
    (w.runners.getD r.slot .new).pump = r.pumpOf w := by
  rw [List.getD_eq_getElem?_getD, pumpOf]
  cases w.runners[r.slot]? <;> rfl

theorem exec_state (r : Runner) (w : World) :
    r.state.exec w = some (.ok (w.runners.getD r.slot .new), w) := rfl

/-- Whether a pump goes on though its runner is to stop may be left to chance, but it never does if
it waits and is not due. -/
theorem exec_persists (p : Pump) (w : World) :
    ∃ persists drawn, p.persists.exec w = some (.ok persists, { w with drawn := drawn }) ∧
      (persists = true → p.armed = false ∨ p.isDue w.clock = true) := by
  unfold Pump.persists
  cases harmed : p.armed with
  | false => exact ⟨true, w.drawn, rfl, fun _ => .inl rfl⟩
  | true =>
    cases hdue : p.isDue w.clock with
    | false => exact ⟨false, w.drawn, by simp [hdue], nofun⟩
    | true => exact ⟨w.lots w.drawn, w.drawn + 1, by simp [hdue, Run.draw], fun _ => .inr rfl⟩

/-- Lets the pump of a runner take a number of turns at most, all of them now. -/
def proceed (r : Runner) : (count : Nat) → Run Unit
  | 0 => return ()
  | count + 1 => do
    let now ← Run.look (·.clock)
    let state ← r.state
    match state.pump with
    | some p =>
      if p.isDue now then do
        r.pump p
        r.proceed count
      else return ()
    | none => return ()

section Turns

variable (hcode : r.flow.Considerate) (hreceive : r.flow.source.Answers)

include hcode hreceive

/-- A pump that can go on now takes its turn. -/
theorem leadsTo_turn (hpump : r.pumpOf w = some p) (hon : r.OnTime w)
    (hdue : p.due = some w.clock) :
    (r.pump p).LeadsTo (r.Stuck w) w fun _ v =>
      ∃ deeds, r.Passed w [⟨w.clock, deeds⟩] v ∧ v.clock = w.clock := by
  have hpumped := leadsTo_pump hcode hreceive (hon p hpump).fits (slot_lt_of_pumpOf hpump)
  refine leadsTo_mono hpumped stuck_of_hangs fun _ v htook => ?_
  obtain ⟨deeds, htook⟩ := htook
  exact ⟨deeds, passed_of_took htook hpump hdue⟩

/-- The pump goes on as long as it is due at this moment. -/
theorem leadsTo_goOn (rounds : Nat) (hon : r.OnTime w) :
    (goOn [r] w.clock rounds).LeadsTo
      (r.Stuck w ∨ r.Busy (w.clock + 1) rounds (r.pumpOf w)) w fun _ v =>
        ∃ turns, r.Passed w turns v ∧ v.clock = w.clock ∧
          (∀ q due, r.pumpOf v = some q → q.due = some due → w.clock < due) ∧
            ∀ turn ∈ turns, turn.time = w.clock := by
  induction rounds generalizing w with
  | zero => exact .inr ⟨rfl, .inr trivial⟩
  | succ rounds ih =>
    refine leadsTo_of_exec (exec_pumps_singleton r w) ?_
    rw [firstPump?_singleton r _ fun p => p.isDue w.clock]
    -- The pump rests if there is none, or if it is not due yet.
    have hrests : (∀ q due, r.pumpOf w = some q → q.due = some due → w.clock < due) →
        (pure () : Run Unit).LeadsTo
          (r.Stuck w ∨ r.Busy (w.clock + 1) (rounds + 1) (r.pumpOf w)) w fun _ u =>
            ∃ turns, r.Passed w turns u ∧ u.clock = w.clock ∧
              (∀ q due, r.pumpOf u = some q → q.due = some due → w.clock < due) ∧
                ∀ turn ∈ turns, turn.time = w.clock :=
      fun hlater => leadsTo_pure
        ⟨[], passed_of_aside (aside_refl w) rfl hon rfl, rfl, hlater, by simp⟩
    cases hpump : r.pumpOf w with
    | none =>
      rw [hpump] at hrests
      exact hrests nofun
    | some p =>
      cases hdue : p.isDue w.clock with
      | false =>
        rw [Option.filter_some_neg (by simp [hdue])]
        rw [hpump] at hrests
        refine hrests fun q due hq hqdue => ?_
        cases hq
        exact lt_of_not_isDue hdue hqdue
      | true =>
        have hnow := due_of_isDue (hon p hpump) hdue
        rw [Option.filter_some_pos (by simpa using hdue)]
        refine leadsTo_bind (leadsTo_mono (leadsTo_turn hcode hreceive hpump hon hnow) .inl
          fun _ _ => id) fun _ u hu => ?_
        obtain ⟨deeds, hpassed, hclock⟩ := hu
        have hrest := ih hpassed.onTime
        rw [hclock] at hrest
        refine leadsTo_mono hrest (Or.imp (stuck_of_passed hpassed) fun hbusy => ?_)
          fun _ v hv => ?_
        · have hschedule := hpassed.schedule
          rw [hpump] at hschedule
          exact busy_of_schedule hschedule (by simp) hbusy
        · obtain ⟨turns, hpassed', hclock', hlater, hturns⟩ := hv
          refine ⟨_, passed_trans hpassed hpassed', hclock', hlater, ?_⟩
          exact List.forall_mem_cons.2 ⟨rfl, hturns⟩

/-- A pump that is due before a certain time takes at least one turn before it. -/
theorem leadsTo_due {deadline : Nat} (hpump : r.pumpOf w = some p) (hon : r.OnTime w)
    (hdue : p.due = some w.clock) (hsoon : w.clock < deadline) :
    (goOn [r] w.clock w.patience).LeadsTo
      (r.Stuck w ∨ r.Busy deadline w.patience (r.pumpOf w)) w fun _ v =>
        ∃ turns, r.Passed w turns v ∧ v.clock = w.clock ∧ 0 < turns.length ∧
          ∀ turn ∈ turns, turn.time < deadline := by
  refine leadsTo_mono (leadsTo_goOn hcode hreceive w.patience hon)
    (Or.imp_right (busy_mono hsoon)) fun _ v hv => ?_
  obtain ⟨turns, hpassed, hclock, hlater, hturns⟩ := hv
  refine ⟨turns, hpassed, hclock, List.length_pos_iff.2 fun hnil => ?_, fun turn hturn => ?_⟩
  · -- Without a turn the pump would be the same, and still due.
    subst hnil
    have hsame := schedule_nil hpassed.schedule
    exact Nat.lt_irrefl _ (hlater p w.clock (hsame ▸ hpump) hdue)
  · exact hturns turn hturn ▸ hsoon

/-- The pump of a runner takes all of its turns that are due before a certain time. -/
theorem leadsTo_passUntil {deadline : Nat} (rounds : Nat) (hon : r.OnTime w)
    (hnow : w.clock ≤ deadline) :
    (passUntil (α := Unit) [r] deadline (return none) rounds).LeadsTo
      (r.Stuck w ∨ r.Busy deadline (min rounds w.patience) (r.pumpOf w)) w fun _ v =>
        ∃ turns, r.Passed w turns v ∧ v.clock = deadline ∧
          ∀ turn ∈ turns, turn.time < deadline := by
  induction rounds generalizing w with
  | zero =>
    refine .inr ⟨rfl, .inr ?_⟩
    rw [Nat.zero_min]
    trivial
  | succ rounds ih =>
    refine leadsTo_of_exec (v := w.served) rfl ?_
    rw [pure_bind]
    refine leadsTo_of_exec (exec_pumps_singleton r w.served) ?_
    rw [firstPump?_singleton r _ fun p => p.isDueBefore deadline]
    cases hnext : (r.pumpOf w.served).filter fun p => p.isDueBefore deadline with
    | none =>
      refine leadsTo_of_exec (v := { w.served with clock := deadline }) rfl (leadsTo_pure ?_)
      have hlater : ∀ q due, r.pumpOf w = some q → q.due = some due → deadline ≤ due := by
        intro q due hq hdue
        have hq' : r.pumpOf w.served = some q := hq
        rw [hq', Option.filter_eq_none_iff] at hnext
        simpa [Pump.isDueBefore, hdue] using hnext q rfl
      exact ⟨[], passed_of_clock hon hnow hlater, rfl, by simp⟩
    | some p =>
      obtain ⟨hpump, due, hdue, hsoon⟩ : r.pumpOf w.served = some p ∧
          ∃ due, p.due = some due ∧ due < deadline := by
        simpa [Option.filter_eq_some_iff, Pump.isDueBefore, Option.any_eq_true] using hnext
      let u : World := { w.served with clock := due }
      have hfirst : w.clock ≤ due := (hon p hpump).later due hdue
      have hadvance : max w.served.clock (p.due.getD w.served.clock) = due := by
        rw [hdue]
        exact Nat.max_eq_right hfirst
      have hu : r.Passed w [] u := by
        refine passed_of_clock hon hfirst fun q due' hq hdue' => ?_
        cases hpump.symm.trans hq
        cases hdue.symm.trans hdue'
        exact Nat.le_refl _
      refine leadsTo_of_exec (v := u) (by rw [Run.exec_modify, hadvance]) ?_
      refine leadsTo_of_exec (Run.exec_look _ u) ?_
      refine leadsTo_of_exec (Run.exec_look _ u) ?_
      have hsame : r.pumpOf u = r.pumpOf w := rfl
      have hpatience : u.patience = w.patience := rfl
      have hgoes := leadsTo_due hcode hreceive (w := u) hpump hu.onTime hdue hsoon
      rw [hsame, hpatience] at hgoes
      refine leadsTo_bind (leadsTo_mono hgoes (Or.imp (stuck_of_passed hu) ?_) fun _ _ => id)
        fun _ v hv => ?_
      · exact busy_of_le (Nat.min_le_right _ _)
      · obtain ⟨turns, hpassed, hclock, htaken, hturns⟩ := hv
        have hthere := passed_trans hu hpassed
        have hrest := ih hpassed.onTime (hclock ▸ Nat.le_of_lt hsoon)
        rw [hpassed.patience] at hrest
        refine leadsTo_mono hrest (Or.imp (stuck_of_passed hthere) fun hbusy => ?_)
          fun _ v' hv' => ?_
        · refine busy_of_le ?_ (busy_of_schedule hthere.schedule hturns hbusy)
          rw [List.nil_append, hpatience]
          omega
        · obtain ⟨turns', hpassed', hclock', hturns'⟩ := hv'
          refine ⟨turns ++ turns', passed_trans hthere hpassed', hclock', fun turn hturn => ?_⟩
          exact (List.mem_append.1 hturn).elim (hturns turn) (hturns' turn)

/-- Time passes, and the pump of a runner takes all of the turns that are due in the meantime. -/
theorem leadsTo_elapse (ms : Nat) (hon : r.OnTime w) :
    (elapse [r] ms).LeadsTo (r.Stuck w ∨ r.Busy (w.clock + ms) w.patience (r.pumpOf w)) w
      fun _ v => ∃ turns, r.Passed w turns v ∧ v.clock = w.clock + ms ∧
        ∀ turn ∈ turns, turn.time < v.clock := by
  refine leadsTo_of_exec (Run.exec_look _ w) ?_
  refine leadsTo_of_exec (Run.exec_look _ w) ?_
  have hpass : (passUntil [r] (w.clock + ms) (return none) w.patience).LeadsTo _ w _ :=
    leadsTo_passUntil hcode hreceive w.patience hon (Nat.le_add_right _ _)
  rw [Nat.min_self] at hpass
  refine leadsTo_bind hpass fun _ v hv => leadsTo_pure ?_
  obtain ⟨turns, hpassed, hclock, hturns⟩ := hv
  exact ⟨turns, hpassed, hclock, hclock ▸ hturns⟩

/-- The pump takes some of the turns that are due at this moment. -/
theorem leadsTo_proceed (count : Nat) (hon : r.OnTime w) :
    (r.proceed count).LeadsTo (r.Stuck w) w fun _ v =>
      ∃ turns, r.Passed w turns v ∧ v.clock = w.clock ∧ ∀ turn ∈ turns, turn.time = w.clock := by
  have hrests : ∀ {w : World}, r.OnTime w → (pure () : Run Unit).LeadsTo (r.Stuck w) w fun _ v =>
      ∃ turns, r.Passed w turns v ∧ v.clock = w.clock ∧ ∀ turn ∈ turns, turn.time = w.clock :=
    fun hon => leadsTo_pure
      ⟨[], passed_of_aside (aside_refl _) rfl hon rfl, rfl, by simp⟩
  induction count generalizing w with
  | zero => exact hrests hon
  | succ count ih =>
    refine leadsTo_of_exec (Run.exec_look _ w) (leadsTo_of_exec (exec_state r w) ?_)
    rw [pump_getD]
    cases hpump : r.pumpOf w with
    | none => exact hrests hon
    | some p =>
      dsimp only
      cases hdue : p.isDue w.clock with
      | false => exact hrests hon
      | true =>
        have hnow := due_of_isDue (hon p hpump) hdue
        refine leadsTo_bind (leadsTo_turn hcode hreceive hpump hon hnow) fun _ u hu => ?_
        obtain ⟨deeds, hpassed, hclock⟩ := hu
        refine leadsTo_mono (ih hpassed.onTime) (stuck_of_passed hpassed) fun _ v hv => ?_
        obtain ⟨turns, hpassed', hclock', hturns⟩ := hv
        refine ⟨_, passed_trans hpassed hpassed', hclock'.trans hclock, ?_⟩
        exact List.forall_mem_cons.2 ⟨rfl, fun turn hturn => (hturns turn hturn).trans hclock⟩

/-- The pump of a runner that is to stop takes some more turns, all of them now, and then there is
none. -/
theorem leadsTo_windDown (rounds : Nat) (hon : r.OnTime w) :
    (r.windDown rounds).LeadsTo (r.Stuck w ∨ r.Busy (w.clock + 1) rounds (r.pumpOf w)) w
      fun _ v => r.pumpOf v = none ∧ v.clock = w.clock ∧ v.patience = w.patience ∧
        ∃ turns u, r.Passed w turns u ∧ u.Aside v ∧ u.clock = w.clock ∧
          ∀ turn ∈ turns, turn.time = w.clock := by
  induction rounds generalizing w with
  | zero => exact .inr ⟨rfl, .inr trivial⟩
  | succ rounds ih =>
    refine leadsTo_of_exec (exec_state r w) ?_
    rw [pump_getD]
    cases hpump : r.pumpOf w with
    | none =>
      exact leadsTo_pure ⟨hpump, rfl, rfl, [], w, passed_of_aside (aside_refl w) rfl hon rfl,
        aside_refl w, rfl, by simp⟩
    | some p =>
      obtain ⟨persists, drawn, hexec, hgoes⟩ := exec_persists p w
      let u : World := { w with drawn := drawn }
      have hu : r.Passed w [] u := passed_of_aside ⟨rfl, rfl, rfl, rfl, rfl⟩ rfl
        (fun q hq => ⟨(hon q hq).later, (hon q hq).fresh, (hon q hq).fits⟩) rfl
      refine leadsTo_of_exec hexec ?_
      cases persists with
      | false =>
        let v : World :=
          { u with runners := u.runners.modify r.slot fun state => { state with pump := none } }
        have hv : r.pumpOf v = none := pumpOf_modify (slot_lt_of_pumpOf hpump) none v rfl
        exact .inl ⟨(), v, rfl, hv, rfl, rfl, [], u, hu, ⟨rfl, rfl, rfl, rfl, rfl⟩, rfl, by simp⟩
      | true =>
        have hnow : p.due = some u.clock :=
          (hgoes rfl).elim (hon p hpump).fresh (due_of_isDue (hon p hpump))
        have hturn := leadsTo_turn hcode hreceive (w := u) hpump hu.onTime hnow
        refine leadsTo_bind (leadsTo_mono hturn (fun hstuck => .inl (stuck_of_passed hu hstuck))
          fun _ _ => id) fun _ u' hu' => ?_
        obtain ⟨deeds, hpassed, hclock⟩ := hu'
        have hthere := passed_trans hu hpassed
        have hrest := ih hpassed.onTime
        have hclock' : u'.clock = w.clock := hclock
        rw [hclock'] at hrest
        refine leadsTo_mono hrest (Or.imp (stuck_of_passed hthere) fun hbusy => ?_) fun _ v hv => ?_
        · have hschedule := hthere.schedule
          rw [hpump] at hschedule
          exact busy_of_schedule hschedule (by simp [u]) hbusy
        · obtain ⟨hnone, hv, hpatience, turns, t, hpassed', haside, ht, hturns⟩ := hv
          refine ⟨hnone, hv, hpatience.trans hthere.patience, _, t, passed_trans hthere hpassed',
            haside, ht, ?_⟩
          exact List.forall_mem_cons.2 ⟨rfl, hturns⟩

end Turns

end Runner

end MessageFlow
