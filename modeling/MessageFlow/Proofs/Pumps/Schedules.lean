import MessageFlow.Proofs.Pumps.Turns

/-!
# The turns of a pump

Turn by turn a pump leaves another one, until it is done (`Schedule`). This alone says when each
turn is and what it does. A source is polled at equal intervals (`polls_of_schedule`). The messages
of a stream are sent in order, each when it becomes ready (`drains_of_schedule`). How many turns a
pump takes before a certain time can be told beforehand (`Busy`).
-/

namespace MessageFlow

variable [PayloadTypes]

/-- A turn that a pump took: when it was, and what was done. -/
structure Turn where
  time : Nat
  deeds : List Deed

namespace Turn

/-- What was done in all of the turns. -/
def all (turns : List Turn) : List Deed :=
  turns.flatMap deeds

/-- The messages that were dispatched, each with the time at which it was. -/
def dispatches (turns : List Turn) : List (Nat × Message) :=
  turns.flatMap fun turn => (Deeds.dispatched turn.deeds).map fun m => (turn.time, m)

end Turn

/-- Turn after turn, each of the pump that the one before it left. -/
inductive Runner.Schedule (r : Runner) : Option Pump → List Turn → Option Pump → Prop where
  | nothing (pump : Option Pump) : Schedule r pump [] pump
  | turn (p : Pump) (time : Nat) (deeds : List Deed) (turn : Nat) (turns : List Turn)
      (last : Option Pump) : p.due = some time → r.Goes p deeds →
      Schedule r ((r.ahead p).map (Pump.waiting time turn)) turns last →
      Schedule r (some p) (⟨time, deeds⟩ :: turns) last

/-- The pump has at least so many turns to take before a certain time. -/
def Runner.Busy (r : Runner) (deadline : Nat) : Nat → Option Pump → Prop
  | 0, _ => True
  | _ + 1, none => False
  | n + 1, some p => ∃ time turn, p.due = some time ∧ time < deadline ∧
      r.Busy deadline n ((r.ahead p).map (Pump.waiting time turn))

/-- A source that is polled at intervals, from one time up to another. Each poll asks as often as it
should, and what comes of it is dispatched. No poll is left out that was due earlier. -/
structure Poller.Polls (poller : Poller) (start finish : Nat) (turns : List Turn) : Prop where
  each : ∀ (k : Nat) (turn : Turn), turns[k]? = some turn →
    turn.time = start + k * poller.fixedDelay.timer ∧ turn.time ≤ finish ∧
      Polled poller.maxMessages turn.deeds
  all : ∀ k, start + k * poller.fixedDelay.timer < finish → k < turns.length
  dispatched : Deeds.dispatched (Turn.all turns) = Deeds.received (Turn.all turns)
  reported : Deeds.reported (Turn.all turns) = Deeds.failed (Turn.all turns)

namespace Feed

/-- The first messages of a stream, up to a number of them. -/
def messages : Feed → (n : Nat) → List Message
  | _, 0 => []
  | feed, n + 1 =>
    match feed.next.message with
    | some m => m :: feed.rest.messages n
    | none => []

/-- The first messages of a stream, each with the time at which it becomes ready; the first of them
does so at a certain time, or never. -/
def arriving : Feed → (ready : Option Nat) → (n : Nat) → List (Nat × Message)
  | feed, some time, n + 1 =>
    match feed.next.message with
    | some m => (time, m) :: feed.rest.arriving (feed.rest.next.after.map (time + ·)) n
    | none => []
  | _, _, _ => []

/-- The first messages of a stream, each with the time at which it becomes ready, if the first one
is asked for at some time and each other one when the one before it is ready. -/
def timetable (feed : Feed) (start n : Nat) : List (Nat × Message) :=
  feed.arriving (feed.next.after.map (start + ·)) n

/-- A stream that is taken from one time up to another: the first messages of it are dispatched, in
order and each when it becomes ready, and none is left out that became ready earlier. -/
structure Drains (feed : Feed) (start finish : Nat) (turns : List Turn) : Prop where
  dispatched : ∃ n, Deeds.dispatched (Turn.all turns) = feed.messages n ∧
    Turn.dispatches turns = feed.timetable start n ∧
    (∀ entry ∈ feed.timetable start n, entry.1 ≤ finish) ∧
    ∀ k, ∀ entry ∈ (feed.timetable start k).drop n, finish ≤ entry.1
  received : Deeds.received (Turn.all turns) = []
  reported : Deeds.reported (Turn.all turns) = Deeds.failed (Turn.all turns)

end Feed

namespace Runner

variable {r : Runner} {pump middle last : Option Pump} {turns turns' : List Turn} {p : Pump}
  {deeds : List Deed} {start finish n : Nat}

/-- What agrees in each of some turns agrees in all of them. -/
theorem filterMap_all {α : Type} {f g : Deed → Option α}
    (h : ∀ turn ∈ turns, turn.deeds.filterMap f = turn.deeds.filterMap g) :
    (Turn.all turns).filterMap f = (Turn.all turns).filterMap g := by
  unfold Turn.all
  rw [List.filterMap_flatMap, List.filterMap_flatMap, List.flatMap_def, List.flatMap_def]
  exact congrArg List.flatten (List.map_congr_left h)

theorem schedule_append (h : r.Schedule pump turns middle) (h' : r.Schedule middle turns' last) :
    r.Schedule pump (turns ++ turns') last := by
  induction h with
  | nothing => exact h'
  | turn p time deeds turn turns _ hdue hgoes _ ih =>
    exact .turn p time deeds turn _ last hdue hgoes (ih h')

/-- Where there is no pump there are no turns. -/
theorem schedule_none (h : r.Schedule none turns last) : turns = [] ∧ last = none := by
  cases h
  exact ⟨rfl, rfl⟩

/-- Where there are no turns the pump is the same. -/
theorem schedule_nil (h : r.Schedule pump [] last) : last = pump := by
  cases h
  rfl

/-! ## How many turns there are -/

theorem busy_of_le {deadline m : Nat} (hm : m ≤ n) (h : r.Busy deadline n pump) :
    r.Busy deadline m pump := by
  induction n generalizing m pump with
  | zero =>
    obtain rfl := Nat.le_zero.1 hm
    trivial
  | succ n ih =>
    cases m with
    | zero => trivial
    | succ m =>
      cases pump with
      | none => exact h
      | some p =>
        obtain ⟨time, turn, hdue, hsoon, hrest⟩ := h
        exact ⟨time, turn, hdue, hsoon, ih (Nat.le_of_succ_le_succ hm) hrest⟩

/-- There are no fewer turns before a later time. -/
theorem busy_mono {deadline deadline' : Nat} (hle : deadline ≤ deadline')
    (h : r.Busy deadline n pump) : r.Busy deadline' n pump := by
  induction n generalizing pump with
  | zero => trivial
  | succ n ih =>
    cases pump with
    | none => exact h
    | some p =>
      obtain ⟨time, turn, hdue, hsoon, hrest⟩ := h
      exact ⟨time, turn, hdue, Nat.lt_of_lt_of_le hsoon hle, ih hrest⟩

/-- The turns that were taken come before those that are left. -/
theorem busy_of_schedule (h : r.Schedule pump turns last) {deadline : Nat}
    (hturns : ∀ turn ∈ turns, turn.time < deadline) (hlast : r.Busy deadline n last) :
    r.Busy deadline (n + turns.length) pump := by
  induction h with
  | nothing => exact hlast
  | turn p time deeds turn turns last hdue _ _ ih =>
    rw [List.forall_mem_cons] at hturns
    exact ⟨time, turn, hdue, hturns.1, ih hturns.2 hlast⟩

/-- A pump that polls is busy as long as there is time for polls. -/
theorem time_of_busy {deadline time : Nat} (h : r.Busy deadline (n + 1) (some p))
    (hwork : p.work = .poll) (hdue : p.due = some time) :
    time + n * r.flow.poller.fixedDelay.timer < deadline := by
  induction n generalizing p time with
  | zero =>
    obtain ⟨time', turn, hdue', hsoon, -⟩ := h
    cases hdue.symm.trans hdue'
    simpa using hsoon
  | succ n ih =>
    obtain ⟨time', turn, hdue', -, hrest⟩ := h
    cases hdue.symm.trans hdue'
    have hahead : r.ahead p = some (.poll, some r.flow.poller.fixedDelay.timer) := by
      rw [ahead, hwork]
    rw [hahead] at hrest
    have hnext : time + r.flow.poller.fixedDelay.timer + n * r.flow.poller.fixedDelay.timer <
        deadline := ih hrest rfl rfl
    rw [Nat.succ_mul]
    omega

/-! ## Polls -/

theorem goes_poll (h : r.Goes p deeds) (hwork : p.work = .poll) :
    r.ahead p = some (.poll, some r.flow.poller.fixedDelay.timer) ∧
      Polled r.flow.poller.maxMessages deeds := by
  refine ⟨by rw [ahead, hwork], ?_⟩
  cases h with
  | polled receive adapter deeds _ _ hpolled => exact hpolled
  | asked feed hdrain => cases hwork.symm.trans hdrain
  | taken feed m result hdrain => cases hwork.symm.trans hdrain
  | ended feed hdrain => cases hwork.symm.trans hdrain

/-- A source is polled at equal intervals. -/
theorem each_of_schedule (h : r.Schedule pump turns last) (hpump : pump = some p)
    (hwork : p.work = .poll) (hdue : p.due = some start) :
    (∀ (k : Nat) (turn : Turn), turns[k]? = some turn →
      turn.time = start + k * r.flow.poller.fixedDelay.timer ∧
        Polled r.flow.poller.maxMessages turn.deeds) ∧
    ∃ q, last = some q ∧ q.due = some (start + turns.length * r.flow.poller.fixedDelay.timer) := by
  induction h generalizing p start with
  | nothing => exact ⟨by simp, p, hpump, by simp [hdue]⟩
  | turn q time deeds turn turns last hdue' hgoes _ ih =>
    cases hpump
    cases hdue.symm.trans hdue'
    obtain ⟨hahead, hpolled⟩ := goes_poll hgoes hwork
    have hnext : (Pump.waiting time turn (.poll, some r.flow.poller.fixedDelay.timer)).due =
        some (time + r.flow.poller.fixedDelay.timer) := rfl
    obtain ⟨heach, q, hq, hlater⟩ := ih (congrArg _ hahead) rfl hnext
    refine ⟨?_, q, hq, ?_⟩
    · intro k turn hk
      cases k with
      | zero =>
        cases hk
        exact ⟨by simp, hpolled⟩
      | succ k =>
        obtain ⟨htime, hdeeds⟩ := heach k turn hk
        refine ⟨?_, hdeeds⟩
        rw [htime, Nat.succ_mul]
        omega
    · rw [hlater, List.length_cons, Nat.succ_mul, Option.some_inj]
      omega

theorem polls_of_schedule (h : r.Schedule (some p) turns last) (hwork : p.work = .poll)
    (hdue : p.due = some start) (hturns : ∀ turn ∈ turns, turn.time ≤ finish)
    (hlast : ∀ q time, last = some q → q.due = some time → finish ≤ time) :
    r.flow.poller.Polls start finish turns := by
  obtain ⟨heach, q, hq, hlater⟩ := each_of_schedule h rfl hwork hdue
  have hpolled : ∀ turn ∈ turns, Polled r.flow.poller.maxMessages turn.deeds := by
    intro turn hturn
    obtain ⟨k, hk⟩ := List.mem_iff_getElem?.1 hturn
    exact (heach k turn hk).2
  refine ⟨fun k turn hk => ?_, fun k hk => ?_, ?_, ?_⟩
  · obtain ⟨htime, hdeeds⟩ := heach k turn hk
    exact ⟨htime, hturns turn (List.mem_of_getElem? hk), hdeeds⟩
  · have hfinish := hlast q _ hq hlater
    refine Nat.lt_of_not_le fun hle => ?_
    have hmul := Nat.mul_le_mul_right r.flow.poller.fixedDelay.timer hle
    omega
  · exact filterMap_all fun turn hturn => dispatched_of_polled (hpolled turn hturn)
  · exact filterMap_all fun turn hturn => reported_of_polled (hpolled turn hturn)

/-! ## Streams -/

/-- No message of a stream is ready before the first one. -/
theorem le_of_arriving {feed : Feed} {ready : Option Nat} {entry : Nat × Message}
    (h : entry ∈ feed.arriving ready n) : ∃ time, ready = some time ∧ time ≤ entry.1 := by
  induction n generalizing feed ready with
  | zero => cases ready <;> cases h
  | succ n ih =>
    cases ready with
    | none => cases h
    | some time =>
      refine ⟨time, rfl, ?_⟩
      rw [Feed.arriving] at h
      cases hnext : feed.next.message with
      | none =>
        rw [hnext] at h
        cases h
      | some m =>
        rw [hnext] at h
        rcases List.mem_cons.1 h with rfl | hlater
        · exact Nat.le_refl _
        · obtain ⟨time', htime', hle⟩ := ih hlater
          obtain ⟨gap, -, rfl⟩ := Option.map_eq_some_iff.1 htime'
          exact Nat.le_trans (Nat.le_add_right time gap) hle

theorem mem_dispatches {entry : Nat × Message} (h : entry ∈ Turn.dispatches turns) :
    ∃ turn ∈ turns, turn.time = entry.1 := by
  obtain ⟨turn, hturn, hentry⟩ := List.mem_flatMap.1 h
  obtain ⟨m, -, rfl⟩ := List.mem_map.1 hentry
  exact ⟨turn, hturn, rfl⟩

/-- What a stream of which a message is due gives to dispatch, from now on and as long as it is
taken. -/
structure Takes (feed : Feed) (ready : Option Nat) (finish : Nat) (turns : List Turn) (n : Nat) :
    Prop where
  dispatched : Deeds.dispatched (Turn.all turns) = feed.messages n
  times : Turn.dispatches turns = feed.arriving ready n
  late : ∀ k, ∀ entry ∈ (feed.arriving ready k).drop n, finish ≤ entry.1
  received : Deeds.received (Turn.all turns) = []
  reported : Deeds.reported (Turn.all turns) = Deeds.failed (Turn.all turns)

/-- Nothing was taken of a stream, and nothing was ready. -/
theorem takes_nothing {feed : Feed} {ready : Option Nat}
    (h : ∀ time, ready = some time → finish ≤ time) : Takes feed ready finish [] 0 where
  dispatched := rfl
  times := by cases ready <;> rfl
  late := by
    intro k entry hentry
    obtain ⟨time, hready, hle⟩ := le_of_arriving hentry
    exact Nat.le_trans (h time hready) hle
  received := rfl
  reported := rfl

/-- A turn in which nothing was done changes nothing. -/
theorem takes_cons_idle {feed : Feed} {ready : Option Nat} (time : Nat)
    (h : Takes feed ready finish turns n) : Takes feed ready finish (⟨time, []⟩ :: turns) n :=
  ⟨h.dispatched, h.times, h.late, h.received, h.reported⟩

/-- A message was ready and was taken. -/
theorem takes_cons {feed : Feed} {m : Message} (hnext : feed.next.message = some m) (time : Nat)
    (result : Except Failure Unit)
    (h : Takes feed.rest (feed.rest.next.after.map (time + ·)) finish turns n) :
    Takes feed (some time) finish (⟨time, Deed.dispatch m result⟩ :: turns) (n + 1) where
  dispatched := by
    show Deeds.dispatched (Deed.dispatch m result ++ Turn.all turns) = _
    rw [dispatched_dispatch, h.dispatched, Feed.messages, hnext]
  times := by
    have honly : Deeds.dispatched (Deed.dispatch m result) = [m] := by cases result <;> rfl
    show (Deeds.dispatched (Deed.dispatch m result)).map (fun m => (time, m)) ++
      Turn.dispatches turns = _
    rw [honly, h.times, Feed.arriving, hnext]
    rfl
  late := by
    intro k entry hentry
    cases k with
    | zero => cases hentry
    | succ k =>
      rw [Feed.arriving, hnext, List.drop_succ_cons] at hentry
      exact h.late k entry hentry
  received := by
    show Deeds.received (Deed.dispatch m result ++ Turn.all turns) = []
    rw [received_dispatch, h.received]
  reported := reported_dispatch m result h.reported

/-- The messages of a stream are sent in order, each when it becomes ready. -/
theorem takes_of_schedule (h : r.Schedule pump turns last) (hpump : pump = some p) {feed : Feed}
    (hwork : p.work = .drain feed) (harmed : p.armed = true)
    (hlast : ∀ q time, last = some q → q.due = some time → finish ≤ time) :
    ∃ n, Takes feed p.due finish turns n := by
  induction h generalizing p feed with
  | nothing => exact ⟨0, takes_nothing fun time hdue => hlast p time hpump hdue⟩
  | turn q time deeds turn turns last hdue hgoes hrest ih =>
    obtain rfl : q = p := Option.some.inj hpump
    rw [hdue]
    have hahead : r.ahead q =
        feed.next.message.map fun _ => (.drain feed.rest, feed.rest.next.after) := by
      simp [ahead, hwork, harmed]
    rw [hahead] at hrest ih
    cases hgoes with
    | polled receive adapter deeds hpoll => cases hwork.symm.trans hpoll
    | asked feed' _ hbegins => cases harmed.symm.trans hbegins
    | taken feed' m result hdrain _ hnext =>
      cases hwork.symm.trans hdrain
      rw [hnext] at ih
      obtain ⟨n, hn⟩ := ih rfl rfl rfl hlast
      exact ⟨n + 1, takes_cons hnext time result hn⟩
    | ended feed' hdrain _ hnext =>
      cases hwork.symm.trans hdrain
      rw [hnext] at hrest
      obtain ⟨rfl, -⟩ := schedule_none hrest
      have hend : ∀ k, feed.arriving (some time) k = [] := by
        intro k
        cases k with
        | zero => rfl
        | succ k => rw [Feed.arriving, hnext]
      refine ⟨0, rfl, (hend 0).symm, fun k entry hentry => ?_, rfl, rfl⟩
      rw [hend] at hentry
      cases hentry

theorem drains_of_schedule (h : r.Schedule (some p) turns last) {feed : Feed}
    (hwork : p.work = .drain feed) (harmed : p.armed = false) (hdue : p.due = some start)
    (hturns : ∀ turn ∈ turns, turn.time ≤ finish)
    (hlast : ∀ q time, last = some q → q.due = some time → finish ≤ time) :
    feed.Drains start finish turns := by
  have htakes : ∃ n, Takes feed (feed.next.after.map (start + ·)) finish turns n := by
    cases h with
    | nothing =>
      -- The first message has not been asked for yet, so it is not ready before this time.
      refine ⟨0, takes_nothing fun time htime => ?_⟩
      obtain ⟨gap, -, rfl⟩ := Option.map_eq_some_iff.1 htime
      exact Nat.le_trans (hlast p start rfl hdue) (Nat.le_add_right start gap)
    | turn _ time deeds turn turns _ hdue' hgoes hrest =>
      cases hdue.symm.trans hdue'
      have hahead : r.ahead p = some (.drain feed, feed.next.after) := by
        simp [ahead, hwork, harmed]
      rw [hahead] at hrest
      obtain ⟨n, hn⟩ := takes_of_schedule hrest rfl rfl rfl hlast
      cases hgoes with
      | polled receive adapter deeds hpoll => cases hwork.symm.trans hpoll
      | asked => exact ⟨n, takes_cons_idle start hn⟩
      | taken feed' m result _ hwaits => cases harmed.symm.trans hwaits
      | ended => exact ⟨n, takes_cons_idle start hn⟩
  obtain ⟨n, hn⟩ := htakes
  refine ⟨⟨n, hn.dispatched, hn.times, fun entry hentry => ?_, hn.late⟩, hn.received, hn.reported⟩
  have hentry' : entry ∈ Turn.dispatches turns := hn.times ▸ hentry
  obtain ⟨turn, hturn, htime⟩ := mem_dispatches hentry'
  exact htime ▸ hturns turn hturn

end Runner

end MessageFlow
