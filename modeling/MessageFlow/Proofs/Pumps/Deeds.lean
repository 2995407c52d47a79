import MessageFlow.Proofs.Dispatch.Waiting
import MessageFlow.Proofs.Pumps.Switching

/-!
# What pumps do

A pump asks its source for messages, dispatches them, and reports the dispatches that fail (`Deed`).
`Did` says that a run consisted of certain deeds and of nothing else. A poll asks until there is
nothing or it has asked often enough (`Polled`); the messages that it dispatches are those that
came, in order and each of them once, and exactly the failures are reported.

Nothing keeps a dispatch from going on for ever. `LeadsTo` says how a run ends unless it gets stuck
somewhere, and `Hangs` where that is: in the dispatch of a certain message, after certain deeds.
-/

namespace MessageFlow

variable [PayloadTypes]

/-- Something that a pump does. -/
inductive Deed where
  /-- The source was asked for a message. -/
  | received (got : Option Message)
  /-- A message was dispatched. -/
  | sent (m : Message) (result : Except Failure Unit)
  /-- An error was logged for a message. -/
  | reported (m : Message) (failure : Failure)

/-- A dispatch of a message: if it fails, and only then, an error is logged. -/
def Deed.dispatch (m : Message) : Except Failure Unit → List Deed
  | .ok () => [.sent m (.ok ())]
  | .error failure => [.sent m (.error failure), .reported m failure]

namespace Deeds

/-- The messages that the source gave. -/
def received (deeds : List Deed) : List Message :=
  deeds.filterMap fun
    | .received got => got
    | _ => none

/-- The messages that were dispatched. -/
def dispatched (deeds : List Deed) : List Message :=
  deeds.filterMap fun
    | .sent m _ => some m
    | _ => none

/-- The messages whose dispatch failed, and why. -/
def failed (deeds : List Deed) : List (Message × Failure) :=
  deeds.filterMap fun
    | .sent m (.error failure) => some (m, failure)
    | _ => none

/-- The messages that an error was logged for, and which. -/
def reported (deeds : List Deed) : List (Message × Failure) :=
  deeds.filterMap fun
    | .reported m failure => some (m, failure)
    | _ => none

end Deeds

/-- A poll asks until there is nothing, or until it has asked a number of times, and dispatches what
it gets at once. -/
inductive Polled : Nat → List Deed → Prop where
  | full : Polled 0 []
  | nothing (max : Nat) : Polled (max + 1) [.received none]
  | message (max : Nat) (m : Message) (result : Except Failure Unit) (deeds : List Deed) :
      Polled max deeds → Polled (max + 1) (.received (some m) :: (Deed.dispatch m result ++ deeds))

section Laws

variable {deeds : List Deed} {max : Nat}

theorem dispatched_dispatch (m : Message) (result : Except Failure Unit) (deeds : List Deed) :
    Deeds.dispatched (Deed.dispatch m result ++ deeds) = m :: Deeds.dispatched deeds := by
  cases result <;> rfl

theorem received_dispatch (m : Message) (result : Except Failure Unit) (deeds : List Deed) :
    Deeds.received (Deed.dispatch m result ++ deeds) = Deeds.received deeds := by
  cases result <;> rfl

/-- An error is logged for each dispatch that fails. -/
theorem reported_dispatch (m : Message) (result : Except Failure Unit)
    (h : Deeds.reported deeds = Deeds.failed deeds) :
    Deeds.reported (Deed.dispatch m result ++ deeds) =
      Deeds.failed (Deed.dispatch m result ++ deeds) := by
  cases result with
  | ok => exact h
  | error failure => exact congrArg ((m, failure) :: ·) h

theorem dispatched_of_polled (h : Polled max deeds) :
    Deeds.dispatched deeds = Deeds.received deeds := by
  induction h with
  | full => rfl
  | nothing => rfl
  | message max m result deeds _ ih =>
    show Deeds.dispatched (Deed.dispatch m result ++ deeds) =
      m :: Deeds.received (Deed.dispatch m result ++ deeds)
    rw [dispatched_dispatch, received_dispatch, ih]

theorem reported_of_polled (h : Polled max deeds) : Deeds.reported deeds = Deeds.failed deeds := by
  induction h with
  | full => rfl
  | nothing => rfl
  | message max m result deeds _ ih => exact reported_dispatch m result ih

end Laws

/-! ## Runs -/

/-- A run that was taken apart into deeds of a pump. -/
inductive Runner.Did (r : Runner) : World → List Deed → World → Prop where
  | nothing (w : World) : Did r w [] w
  | received (receive : Run (Option Message)) (adapter : AdapterSpec) (got : Option Message)
      (deeds : List Deed) (w u v : World) : r.flow.source = .polling receive adapter →
      receive.exec w = some (.ok got, u) → Did r u deeds v → Did r w (.received got :: deeds) v
  | sent (m : Message) (result : Except Failure Unit) (deeds : List Deed) (w u v : World) :
      (r.send m).exec w = some (result, u) → Did r u deeds v → Did r w (.sent m result :: deeds) v
  | reported (m : Message) (failure : Failure) (deeds : List Deed) (w u v : World) :
      (Run.log (.dispatchFailed r.flow.id m.id failure)).exec w = some (.ok (), u) →
      Did r u deeds v → Did r w (.reported m failure :: deeds) v

/-- After certain deeds a message is dispatched, and its dispatch goes on for ever. -/
def Runner.Hangs (r : Runner) (w : World) : Prop :=
  ∃ deeds u m, r.Did w deeds u ∧ (r.send m).exec u = none

/-- A run ends well, unless it gets stuck. -/
def Run.LeadsTo {α : Type} (stuck : Prop) (run : Run α) (w : World) (good : α → World → Prop) :
    Prop :=
  (∃ a v, run.exec w = some (.ok a, v) ∧ good a v) ∨ run.exec w = none ∧ stuck

section LeadsTo

variable {α β : Type} {stuck : Prop} {run : Run α} {w : World} {good : α → World → Prop}
  {good' : β → World → Prop}

theorem leadsTo_pure {a : α} (h : good a w) : (pure a : Run α).LeadsTo stuck w good :=
  .inl ⟨a, w, rfl, h⟩

theorem leadsTo_mono {stuck' : Prop} {weaker : α → World → Prop} (h : run.LeadsTo stuck w good)
    (hstuck : stuck → stuck') (hgood : ∀ a v, good a v → weaker a v) :
    run.LeadsTo stuck' w weaker := by
  rcases h with ⟨a, v, hexec, ha⟩ | ⟨hnone, hwhy⟩
  · exact .inl ⟨a, v, hexec, hgood a v ha⟩
  · exact .inr ⟨hnone, hstuck hwhy⟩

/-- Where a run leads to is where it ended. -/
theorem leadsTo_self (h : run.LeadsTo stuck w good) :
    run.LeadsTo stuck w fun a v => run.exec w = some (.ok a, v) ∧ good a v := by
  rcases h with ⟨a, v, hexec, ha⟩ | hnone
  · exact .inl ⟨a, v, hexec, hexec, ha⟩
  · exact .inr hnone

/-- One step after the other. -/
theorem leadsTo_bind {f : α → Run β} (h : run.LeadsTo stuck w good)
    (hf : ∀ a v, good a v → (f a).LeadsTo stuck v good') : (run >>= f).LeadsTo stuck w good' := by
  rcases h with ⟨a, u, hexec, ha⟩ | ⟨hnone, hwhy⟩
  · rcases hf a u ha with ⟨b, v, hexec', hb⟩ | ⟨hnone, hwhy⟩
    · exact .inl ⟨b, v, by simp [hexec, hexec'], hb⟩
    · exact .inr ⟨by simp [hexec, hnone], hwhy⟩
  · exact .inr ⟨by simp [hnone], hwhy⟩

/-- A step that is known is taken. -/
theorem leadsTo_of_exec {f : α → Run β} {a : α} {v : World} (h : run.exec w = some (.ok a, v))
    (hf : (f a).LeadsTo stuck v good') : (run >>= f).LeadsTo stuck w good' := by
  have hstep : run.LeadsTo stuck w fun b u => b = a ∧ u = v := .inl ⟨a, v, h, rfl, rfl⟩
  refine leadsTo_bind hstep fun b u hb => ?_
  obtain ⟨rfl, rfl⟩ := hb
  exact hf

end LeadsTo

namespace Runner

variable {r : Runner} {w u v : World} {deeds deeds' : List Deed}

theorem did_append (h : r.Did w deeds u) (h' : r.Did u deeds' v) : r.Did w (deeds ++ deeds') v := by
  induction h with
  | nothing => exact h'
  | received receive adapter got deeds w u _ hsource hexec _ ih =>
    exact .received receive adapter got _ w u v hsource hexec (ih h')
  | sent m result deeds w u _ hexec _ ih => exact .sent m result _ w u v hexec (ih h')
  | reported m failure deeds w u _ hexec _ ih => exact .reported m failure _ w u v hexec (ih h')

/-- A dispatch that ends is followed by a report of its failure. -/
theorem exec_sendLogged {m : Message} {result : Except Failure Unit}
    (hsend : (r.send m).exec w = some (result, u)) :
    ∃ v, (r.sendLogged m).exec w = some (.ok (), v) ∧ r.Did w (Deed.dispatch m result) v := by
  cases result with
  | ok => exact ⟨u, by simp [sendLogged, hsend], .sent m _ _ w u u hsend (.nothing u)⟩
  | error failure =>
    have hlog := Run.exec_log (.dispatchFailed r.flow.id m.id failure) u
    have hexec : (r.sendLogged m).exec w =
        (Run.log (.dispatchFailed r.flow.id m.id failure)).exec u := by
      simp [sendLogged, hsend]
    exact ⟨_, hexec.trans hlog, .sent m _ _ w u _ hsend
      (.reported m failure _ u _ _ hlog (.nothing _))⟩

/-- Who hangs after some deeds hangs. -/
theorem hangs_of_did (h : r.Did w deeds u) (hu : r.Hangs u) : r.Hangs w := by
  obtain ⟨deeds', v, m, hdid, hnone⟩ := hu
  exact ⟨deeds ++ deeds', v, m, did_append h hdid, hnone⟩

/-- A message is dispatched, and its failure reported. -/
theorem leadsTo_sendLogged (hcode : r.flow.Considerate) (m : Message) (w : World) :
    (r.sendLogged m).LeadsTo (r.Hangs w) w fun _ v =>
      (∃ result, r.Did w (Deed.dispatch m result) v) ∧ w.Undisturbed r.flow.source v := by
  cases hsend : (r.send m).exec w with
  | none => exact .inr ⟨by simp [sendLogged, hsend], [], w, m, .nothing w, hsend⟩
  | some ended =>
    obtain ⟨result, u⟩ := ended
    obtain ⟨v, hexec, hdid⟩ := exec_sendLogged hsend
    exact .inl ⟨(), v, hexec, ⟨result, hdid⟩, (undisturbed_sendLogged hcode m w _ v hexec).1⟩

section Polls

variable {receive : Run (Option Message)} {adapter : AdapterSpec}

/-- A poll asks and dispatches as often as it should. -/
theorem leadsTo_poll (hcode : r.flow.Considerate)
    (hsource : r.flow.source = .polling receive adapter)
    (hreceive : ∀ w, ∃ got v, receive.exec w = some (.ok got, v)) (max : Nat) (w : World) :
    (r.poll receive max).LeadsTo (r.Hangs w) w fun _ v =>
      (∃ deeds, Polled max deeds ∧ r.Did w deeds v) ∧ w.Undisturbed r.flow.source v := by
  have hframe := frame_undisturbed r.flow.source
  induction max generalizing w with
  | zero => exact leadsTo_pure ⟨⟨[], .full, .nothing w⟩, hframe.refl w⟩
  | succ max ih =>
    obtain ⟨got, u, hexec⟩ := hreceive w
    have hu := (hcode.receive receive adapter hsource w _ u hexec).1
    have hgot : r.Did w [.received got] u :=
      .received receive adapter got [] w u u hsource hexec (.nothing u)
    refine leadsTo_of_exec hexec ?_
    cases got with
    | none => exact leadsTo_pure ⟨⟨_, .nothing max, hgot⟩, hu⟩
    | some m =>
      have hsend := leadsTo_mono (leadsTo_sendLogged hcode m u) (hangs_of_did hgot) fun _ _ => id
      refine leadsTo_bind hsend fun _ v hsent => ?_
      obtain ⟨⟨result, hsent⟩, hv⟩ := hsent
      have hfirst := did_append hgot hsent
      refine leadsTo_mono (ih v) (hangs_of_did hfirst) fun _ v' hpolled => ?_
      obtain ⟨⟨deeds, hpolled, hdid⟩, hv'⟩ := hpolled
      exact ⟨⟨_, .message max m result deeds hpolled, did_append hfirst hdid⟩,
        hframe.trans w u v' hu (hframe.trans u v v' hv hv')⟩

end Polls

end Runner

end MessageFlow
