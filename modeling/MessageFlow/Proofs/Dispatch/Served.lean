import MessageFlow.Proofs.Dispatch.Output
import MessageFlow.Proofs.Dispatch.Requests
import MessageFlow.Proofs.Sample

/-!
# Who gets a message

Whatever a stage puts into a channel goes to every stage that consumes the channel, and to a live
channel only if there is none. `Worked` says so of a whole dispatch, for any stages and also if it
fails: what it did is what the parcels on their way called for, in order, up to the first act that
failed (`worked_of_exec`).

Two more destinations are looked up in the registry only: the reply channel of a message, and the
channel for the failures of requests. A stage that consumes them gets nothing.
-/

namespace MessageFlow

section

variable [PayloadTypes]

namespace Runner

variable {r : Runner} {parcels : List Parcel} {w v : World} {result : Except Failure Unit}

/-- How work on parcels ends: with all that they and what came of them call for, or with the first
act that fails, and what was called for ahead of it. -/
inductive Worked (r : Runner) (w : World) (parcels : List Parcel) :
    Except Failure Unit → World → Prop where
  | done (emitted : List Parcel) (v : World) :
      (r.performAll ((parcels ++ emitted).flatMap r.acts)).exec w = some (.ok emitted, v) →
      Worked r w parcels (.ok ()) v
  | failed (emitted : List Parcel) (before : List Act) (a : Act) (after : List Act)
      (failure : Failure) (u v : World) :
      (parcels ++ emitted).flatMap r.acts = before ++ a :: after →
      (r.performAll before).exec w = some (.ok emitted, u) →
      (r.perform a).exec u = some (.error failure, v) →
      Worked r w parcels (.error failure) v

/-- Acts that fail have a first one that does. -/
theorem exists_first_failure {as : List Act} {failure : Failure}
    (h : (r.performAll as).exec w = some (.error failure, v)) :
    ∃ before a after emitted u, as = before ++ a :: after ∧
      (r.performAll before).exec w = some (.ok emitted, u) ∧
      (r.perform a).exec u = some (.error failure, v) := by
  induction as generalizing w with
  | nil => cases h
  | cons a as ih =>
    rw [performAll, Run.exec_bind] at h
    cases hfirst : (r.perform a).exec w with
    | none => simp [hfirst] at h
    | some ended =>
      obtain ⟨result, u⟩ := ended
      cases result with
      | error failure' =>
        simp only [hfirst] at h
        cases h
        exact ⟨[], a, as, [], w, rfl, rfl, hfirst⟩
      | ok first =>
        simp only [hfirst, Run.exec_bind] at h
        cases hrest : (r.performAll as).exec u with
        | none => simp [hrest] at h
        | some ended =>
          obtain ⟨result, u'⟩ := ended
          cases result with
          | ok rest => simp [hrest] at h
          | error failure' =>
            simp only [hrest] at h
            cases h
            obtain ⟨before, b, after, emitted, u'', rfl, hbefore, hb⟩ := ih hrest
            refine ⟨a :: before, b, after, first ++ emitted, u'', rfl, ?_, hb⟩
            simp [performAll, hfirst, hbefore]

theorem exec_performAll_append {as bs : List Act} {first rest : List Parcel} {u : World}
    (hfirst : (r.performAll as).exec w = some (.ok first, u))
    (hrest : (r.performAll bs).exec u = some (.ok rest, v)) :
    (r.performAll (as ++ bs)).exec w = some (.ok (first ++ rest), v) := by
  rw [performAll_append]
  simp [hfirst, hrest]

/-- However work ends, it is worked like this. -/
theorem worked_of_exec (h : (Work.run r.visit parcels).exec w = some (result, v)) :
    r.Worked w parcels result v := by
  refine Work.run_induction (motive := fun parcels w result v => r.Worked w parcels result v)
    ?_ ?_ ?_ h
  · intro w
    exact .done [] w rfl
  · intro p rest w failure v hvisit
    rw [visit_eq] at hvisit
    obtain ⟨before, a, after, emitted, u, hacts, hbefore, ha⟩ := exists_first_failure hvisit
    refine .failed emitted before a (after ++ (rest ++ emitted).flatMap r.acts) failure u v ?_
      hbefore ha
    rw [List.cons_append, List.flatMap_cons, hacts, List.append_assoc, List.cons_append]
  · intro p rest further w u result v hvisit hworked
    rw [visit_eq] at hvisit
    -- What comes of the parcel is worked on behind what was there before it.
    have hlist : ∀ emitted, (p :: rest ++ (further ++ emitted)).flatMap r.acts =
        r.acts p ++ ((rest ++ further) ++ emitted).flatMap r.acts := by
      intro emitted
      rw [List.cons_append, List.flatMap_cons, List.append_assoc]
    cases hworked with
    | done emitted _ hdone =>
      refine .done (further ++ emitted) v ?_
      rw [hlist]
      exact exec_performAll_append hvisit hdone
    | failed emitted before a after failure u' _ hacts hbefore ha =>
      refine .failed (further ++ emitted) (r.acts p ++ before) a after failure u' v ?_
        (exec_performAll_append hvisit hbefore) ha
      rw [hlist, hacts, List.append_assoc]

/-! ## Deliveries -/

/-- What is delivered stays where it is delivered to. -/
theorem destination_destination (r : Runner) (p : Parcel) :
    r.destination ⟨r.destination p, p.message⟩ = r.destination p := by
  by_cases hout : (r.flow.output == some p.channel && p.channel.isAnonymous) = true
  · cases hreply : p.message.headers.replyChannel with
    | none =>
      have hself : r.destination p = p.channel := by
        unfold destination
        rw [if_pos hout, hreply]
        rfl
      rw [hself]
      exact hself
    | some reply =>
      have hto : r.destination p = reply := by
        unfold destination
        rw [if_pos hout, hreply]
        rfl
      rw [hto]
      unfold destination
      simp only [hreply]
      split <;> rfl
  · have hself : r.destination p = p.channel := by
      unfold destination
      rw [if_neg hout]
      rfl
    rw [hself]
    exact hself

/-- A message that nobody takes where it goes is delivered as it would be from there. -/
theorem visit_destination {p : Parcel} (hfree : r.flow.consumers p.channel.name = [])
    (hfree' : r.flow.consumers (r.destination p).name = []) :
    r.visit ⟨r.destination p, p.message⟩ = r.visit p := by
  rw [visit_of_free (p := ⟨r.destination p, p.message⟩) hfree', visit_of_free hfree, deliver_eq,
    deliver_eq, destination_destination]

end Runner

/-- Who gets a message. A dispatch gives everything that its start and the stages put into channels
to each stage that consumes the channel, in the order of composition, and delivers it only if there
is none; it stops with the first of these acts that fails. A delivery goes to a live channel though,
whatever consumes the destination: a reply that asks for a channel of the flow itself is sent there
only as far as the registry has it, and so is the failure of a request. Both end up where they would
if they had been put into the channel only if no stage consumes it. -/
theorem consumers_served (r : Runner) :
    (∀ ref m w result v, (r.dispatch ref m).exec w = some (result, v) →
      r.Worked w [⟨ref, m⟩] result v) ∧
    (∀ p, r.flow.consumers p.channel.name = [] →
      r.visit p = (do Run.send (← r.resolve (r.destination p)) p.message; return []) ∧
      (r.flow.consumers (r.destination p).name = [] →
        r.visit ⟨r.destination p, p.message⟩ = r.visit p)) ∧
    ∀ runners payload w failure v ref, r.flow.gatewaySpec.errorChannel = some ref →
      (r.send (r.inquire payload w).message).exec (r.inquire payload w).world =
        some (.error failure, v) →
      ((∃ u, (Runner.request runners r payload).exec w = some (.ok none, u)) ↔
        ∃ live, r.channels.resolve ref = some live ∧ live.accepts v .failure = .ok ()) ∧
      (r.channels.resolve ref = none → ∃ u,
        (Runner.request runners r payload).exec w = some (.error (.destination ref.name), u) ∧
        u.channels = v.channels) ∧
      ∀ live, r.channels.resolve ref = some live → ∃ e u, e.payload = .of .failure failure ∧
        u.channels = v.channels ∧
        (Runner.request runners r payload).exec w =
          (Run.send live e >>= fun _ => pure none).exec u ∧
        (r.flow.consumers ref.name = [] → r.dispatch ref e = Run.send live e) := by
  refine ⟨fun ref m w result v h => Runner.worked_of_exec h, ?_, ?_⟩
  · intro p hfree
    refine ⟨?_, fun hfree' => Runner.visit_destination hfree hfree'⟩
    rw [Runner.visit_of_free hfree, Runner.deliver_eq, bind_assoc]
  · intro runners payload w failure v ref href hfails
    have hrequest : (Runner.request runners r payload).exec w = (r.report failure).exec v := by
      rw [Runner.exec_request, hfails]
    rw [hrequest]
    refine ⟨Runner.report_ok_iff href failure v, ?_, ?_⟩
    · intro hnone
      exact Runner.exec_report_unresolved href hnone failure v
    · intro live hlive
      obtain ⟨e, u, hpayload, hreply, hu, hexec⟩ :=
        Runner.exec_report_resolved href hlive failure v
      refine ⟨e, u, hpayload, hu, hexec, fun hfree => ?_⟩
      have hvisit : r.visit ⟨ref, e⟩ = (do Run.send live e; return []) := by
        refine (Runner.visit_eq_send_iff (p := ⟨ref, e⟩) hfree).2 ?_
        rw [Runner.destination_of_unreplied (p := ⟨ref, e⟩) hreply]
        exact hlive
      rw [Runner.dispatch, Work.run_cons, hvisit]
      simp

end

open Sample

/-- A gateway whose failed requests go to a channel of the flow itself: a bridge takes them from
there. The only stage ahead of it always fails. -/
def guarded : Flow :=
  { id := "f"
    source := .gateway .checker
      { GatewaySpec.standard with errorChannel := some (.named "errors") }
    input := .anonymous "f.channel#0"
    output := some (.anonymous "f.channel#1")
    stages :=
      [ ⟨.anonymous "f.channel#0", ⟨⟨"f.transform#0", .transform⟩, .number,
          .transform .number .number (fun _ => pure (.error (.text "boom"))), [], none,
          some (.named "errors")⟩⟩,
        ⟨.named "errors", ⟨⟨"f.bridge#1", .bridge⟩, .payload, .bridge, [], none,
          some (.anonymous "f.channel#1")⟩⟩ ]
    components := .empty
    poller := .standard }

/-- How every dispatch of a number ends. -/
def boom : Failure :=
  .handler ⟨"f.transform#0", .transform⟩ (.text "boom")

theorem exec_send_guarded {r : Runner} (hflow : r.flow = guarded) (m : Message)
    (hpayload : m.payload = .of .number 1) (w : World) :
    (r.send m).exec w = some (.error boom, w) := by
  obtain ⟨slot, flow, channels, output⟩ := r
  obtain ⟨id, payload, headers⟩ := m
  cases hflow
  cases hpayload
  let r : Runner := ⟨slot, guarded, channels, output⟩
  let p : Parcel := ⟨.anonymous "f.channel#0", id, .of .number 1, headers⟩
  have hvisit : (r.visit p).exec w = some (.error boom, w) := rfl
  show (Work.run r.visit [p]).exec w = some (.error boom, w)
  rw [Work.run_cons, Run.exec_bind, hvisit]

/-- The failure of a request is reported where a queue is registered for it. The dispatch stopped
with the transformation. -/
theorem consumers_served_registered :
    let r : Runner := ⟨0, guarded, ⟨[("errors", ⟨0, "errors"⟩)]⟩, none⟩
    let w : World := { World.new 0 with channels := [.queue "errors"] }
    let request := r.inquire (.of .number 1) w
    r.Worked request.world [⟨.anonymous "f.channel#0", request.message⟩] (.error boom)
      request.world ∧
    ∃ u, (Runner.request [r] r (.of .number 1)).exec w = some (.ok none, u) := by
  intro r w request
  obtain ⟨hworked, -, hrequest⟩ := consumers_served r
  have hsend : (r.send request.message).exec request.world = some (.error boom, request.world) :=
    exec_send_guarded rfl _ rfl _
  obtain ⟨hok, -⟩ := hrequest [r] (.of .number 1) w boom request.world (.named "errors") rfl hsend
  exact ⟨hworked _ _ _ _ _ hsend, hok.2 ⟨⟨0, "errors"⟩, rfl, rfl⟩⟩

/-- With nothing registered the same request fails, and for another reason: the bridge that consumes
the channel gets nothing. -/
theorem error_channel_missed :
    ∃ r v u, (Runner.create guarded .empty).exec (.new 0) = some (.ok r, v) ∧
      (r.flow.consumers "errors").map (·.endpoint.info.id) = ["f.bridge#1"] ∧
      r.flow.gatewaySpec.errorChannel = some (.named "errors") ∧
      (Runner.request [r] r (.of .number 1)).exec v = some (.error (.destination "errors"), u) := by
  let queue : LiveRef := ⟨0, "f.channel#1"⟩
  let r : Runner := ⟨0, guarded, ⟨[("f.channel#1", queue)]⟩, some queue⟩
  let v : World :=
    { World.new 0 with channels := [.queue "f.channel#1"], runners := [.new] }
  have hsend := exec_send_guarded (r := r) rfl (r.inquire (.of .number 1) v).message rfl
    (r.inquire (.of .number 1) v).world
  have herrors : r.flow.gatewaySpec.errorChannel = some (.named "errors") := rfl
  obtain ⟨u, hreport, -⟩ := Runner.exec_report_unresolved herrors rfl boom
    (r.inquire (.of .number 1) v).world
  refine ⟨r, v, u, rfl, rfl, rfl, ?_⟩
  rw [Runner.exec_request, hsend]
  exact hreport

end MessageFlow
