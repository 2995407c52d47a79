import MessageFlow.Proofs.Pumps.Deeds

/-!
# One turn of a pump

When its time has come a pump takes its turn: it polls, or takes from its stream what has become
ready (`Goes`, one case for each way of going on). What it waits for then is settled beforehand
(`ahead`). A turn is these deeds and nothing else (`leadsTo_pump`): besides them no message is moved
from one place to another, no error is logged, and time stands still.
-/

namespace MessageFlow

variable [PayloadTypes]

/-- Whether a line of the journal is an error. -/
def Entry.isError : Entry → Bool
  | .logged event => event.level == .error
  | _ => false

/-- The errors that were logged. -/
def World.errors (w : World) : List Entry :=
  w.journal.toList.filter Entry.isError

/-- Nothing was done for a while, but for what has to do with the pump itself: what is in channels
is the same, nobody was asked for anything, and no error was logged. -/
structure World.Aside (w v : World) : Prop where
  contents : v.contents = w.contents
  gates : v.gates = w.gates
  counters : v.counters = w.counters
  issued : v.issued = w.issued
  errors : v.errors = w.errors

/-- A pump that waits from a time on, with its place among those that go on at the same time. -/
def Pump.waiting (time turn : Nat) (next : PumpWork × Option Nat) : Pump :=
  { work := next.1, due := next.2.map (time + ·), turn := turn, armed := true }

namespace Runner

/-- The pump of a runner. -/
def pumpOf (r : Runner) (w : World) : Option Pump :=
  w.runners[r.slot]?.bind (·.pump)

/-- What a pump waits for when it has taken its turn, and for how long, which may be for ever. A
pump whose stream has ended is done. -/
def ahead (r : Runner) (p : Pump) : Option (PumpWork × Option Nat) :=
  match p.work with
  | .poll => some (.poll, some r.flow.poller.fixedDelay.timer)
  | .drain feed =>
    if p.armed then feed.next.message.map fun _ => (.drain feed.rest, feed.rest.next.after)
    else some (.drain feed, feed.next.after)

/-- What a pump does in its turn. -/
inductive Goes (r : Runner) (p : Pump) : List Deed → Prop where
  | polled (receive : Run (Option Message)) (adapter : AdapterSpec) (deeds : List Deed) :
      p.work = .poll → r.flow.source = .polling receive adapter →
      Polled r.flow.poller.maxMessages deeds → Goes r p deeds
  /-- A pump that begins asks for the first message. -/
  | asked (feed : Feed) : p.work = .drain feed → p.armed = false → Goes r p []
  | taken (feed : Feed) (m : Message) (result : Except Failure Unit) : p.work = .drain feed →
      p.armed = true → feed.next.message = some m → Goes r p (Deed.dispatch m result)
  | ended (feed : Feed) : p.work = .drain feed → p.armed = true → feed.next.message = none →
      Goes r p []

/-- How a turn ends: the pump waits for what is ahead, or it is done. -/
structure Pauses (r : Runner) (next : Option (PumpWork × Option Nat)) (w v : World) : Prop where
  pump : ∃ turn, r.pumpOf v = next.map (Pump.waiting w.clock turn)
  aside : w.Aside v
  clock : v.clock = w.clock
  patience : v.patience = w.patience

/-- A turn of a pump: what it does, and what it leaves. -/
structure Took (r : Runner) (p : Pump) (w : World) (deeds : List Deed) (v : World) : Prop where
  goes : r.Goes p deeds
  did : ∃ u, r.Did w deeds u ∧ w.Undisturbed r.flow.source u ∧ r.Pauses (r.ahead p) u v

/-- A pump that polls belongs to a source that is polled. -/
def Fits (r : Runner) (p : Pump) : Prop :=
  p.work = .poll → ∃ receive adapter, r.flow.source = .polling receive adapter

end Runner

/-- Whoever polls the source gets a message or none, and never fails or waits. -/
def Source.Answers (source : Source) : Prop :=
  ∀ receive adapter, source = .polling receive adapter →
    ∀ w, ∃ got v, receive.exec w = some (.ok got, v)

section Aside

variable {w u v : World}

theorem aside_refl (w : World) : w.Aside w :=
  ⟨rfl, rfl, rfl, rfl, rfl⟩

theorem aside_trans (h : w.Aside u) (h' : u.Aside v) : w.Aside v :=
  ⟨h'.contents.trans h.contents, h'.gates.trans h.gates, h'.counters.trans h.counters,
    h'.issued.trans h.issued, h'.errors.trans h.errors⟩

/-- A line in the journal that is no error. -/
theorem errors_push {journal : Array Entry} {entry : Entry} (h : entry.isError = false) :
    (journal.push entry).toList.filter Entry.isError = journal.toList.filter Entry.isError := by
  rw [Array.toList_push, List.filter_append, List.filter_cons, h]
  simp

end Aside

namespace Runner

variable {r : Runner} {w u v : World} {p : Pump}

/-! ## Waiting and ending -/

theorem pumpOf_modify (h : r.slot < w.runners.length) (pump : Option Pump) (state : World)
    (hstate : state.runners = w.runners.modify r.slot fun s => { s with pump := pump }) :
    r.pumpOf state = pump := by
  rw [pumpOf, hstate, List.getElem?_modify_eq, List.getElem?_eq_getElem h]
  rfl

theorem slot_lt_of_pumpOf (h : r.pumpOf w = some p) : r.slot < w.runners.length := by
  obtain ⟨state, hstate, -⟩ := Option.bind_eq_some_iff.1 h
  exact (List.getElem?_eq_some_iff.1 hstate).1

/-- A pump that waits. -/
theorem leadsTo_rest {stuck : Prop} (h : r.slot < w.runners.length) (p : Pump) (work : PumpWork)
    (after : Option Nat) :
    (r.rest p work after).LeadsTo stuck w fun _ v => r.Pauses (some (work, after)) w v := by
  have hplace : (place p after).LeadsTo stuck w fun _ u => u.runners = w.runners ∧
      w.Aside u ∧ u.clock = w.clock ∧ u.patience = w.patience := by
    unfold place
    split
    · exact leadsTo_pure ⟨rfl, aside_refl w, rfl, rfl⟩
    · exact .inl ⟨_, _, rfl, rfl, ⟨rfl, rfl, rfl, rfl, rfl⟩, rfl, rfl⟩
  refine leadsTo_bind hplace fun turn u hu => ?_
  obtain ⟨hrunners, haside, hclock, hpatience⟩ := hu
  have haside' : w.Aside { u with runners := u.runners.modify r.slot fun state =>
      { state with pump := some (Pump.waiting u.clock turn (work, after)) } } :=
    aside_trans haside ⟨rfl, rfl, rfl, rfl, rfl⟩
  refine .inl ⟨(), _, rfl, ⟨turn, ?_⟩, haside', hclock, hpatience⟩
  rw [← hclock]
  exact pumpOf_modify (hrunners ▸ h) _ _ rfl

/-- A pump that is done. -/
theorem leadsTo_completed {stuck : Prop} (h : r.slot < w.runners.length) :
    r.completed.LeadsTo stuck w fun _ v => r.Pauses none w v := by
  refine .inl ⟨(), _, rfl, ⟨0, ?_⟩, ⟨rfl, rfl, rfl, rfl, errors_push rfl⟩, rfl, rfl⟩
  exact pumpOf_modify h none _ rfl

/-! ## Going on -/

variable (hcode : r.flow.Considerate)

include hcode

/-- A pump takes its turn, unless it hangs. -/
theorem leadsTo_pump (hreceive : r.flow.source.Answers) (hfits : r.Fits p)
    (h : r.slot < w.runners.length) :
    (r.pump p).LeadsTo (r.Hangs w) w fun _ v => ∃ deeds, r.Took p w deeds v := by
  have hframe := frame_undisturbed r.flow.source
  unfold Runner.pump
  cases hwork : p.work with
  | poll =>
    obtain ⟨receive, adapter, hsource⟩ := hfits hwork
    have hahead : r.ahead p = some (.poll, some r.flow.poller.fixedDelay.timer) := by
      rw [ahead, hwork]
    rw [hsource]
    have hpoll := leadsTo_poll hcode hsource (hreceive receive adapter hsource)
      r.flow.poller.maxMessages w
    refine leadsTo_bind hpoll fun _ u hpolled => ?_
    obtain ⟨⟨deeds, hpolled, hdid⟩, hu⟩ := hpolled
    refine leadsTo_mono (leadsTo_rest (hu.runners ▸ h) p _ _) id fun _ v hv => ?_
    exact ⟨deeds, .polled receive adapter deeds hwork hsource hpolled, u, hdid, hu, hahead ▸ hv⟩
  | drain feed =>
    dsimp only
    cases harmed : p.armed with
    | false =>
      have hahead : r.ahead p = some (.drain feed, feed.next.after) := by
        rw [ahead, hwork]
        simp [harmed]
      refine leadsTo_mono (leadsTo_rest h p _ _) id fun _ v hv => ?_
      exact ⟨[], .asked feed hwork harmed, w, .nothing w, hframe.refl w, hahead ▸ hv⟩
    | true =>
      cases hnext : feed.next.message with
      | none =>
        have hahead : r.ahead p = none := by
          rw [ahead, hwork]
          simp [harmed, hnext]
        refine leadsTo_mono (leadsTo_completed h) id fun _ v hv => ?_
        exact ⟨[], .ended feed hwork harmed hnext, w, .nothing w, hframe.refl w, hahead ▸ hv⟩
      | some m =>
        have hahead : r.ahead p = some (.drain feed.rest, feed.rest.next.after) := by
          rw [ahead, hwork]
          simp [harmed, hnext]
        refine leadsTo_bind (leadsTo_sendLogged hcode m w) fun _ u hsent => ?_
        obtain ⟨⟨result, hsent⟩, hu⟩ := hsent
        refine leadsTo_mono (leadsTo_rest (hu.runners ▸ h) p _ _) id fun _ v hv => ?_
        exact ⟨_, .taken feed m result hwork harmed hnext, u, hsent, hu, hahead ▸ hv⟩

end Runner

end MessageFlow
