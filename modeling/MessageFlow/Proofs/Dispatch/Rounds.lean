import MessageFlow.Proofs.Dispatch.Acts
import MessageFlow.Proofs.Dispatch.Levels
import MessageFlow.Proofs.Dispatch.Stateless
import MessageFlow.Proofs.Line

/-!
# Rounds along a line

Where each stage sends to a channel that only the next one consumes, everything on the list is on
its way to one stage. A round through the list gives it all to this stage and leaves behind what is
on its way to the next one (`round_carries`), so as many rounds as there are stages take it to the
end (`rounds_carry`). What has come to the end is delivered, message by message. So a dispatch along
a line is the composition of the stages, which touches no channel, and then these deliveries
(`dispatch_through`).
-/

namespace MessageFlow

variable [PayloadTypes]

/-- Parcels that were put into one channel, as a view shows their messages, all of one sort. -/
def Carried {V : Type} (view : Message → V) (sort : Message → Prop) (ref : ChannelRef)
    (parcels : List Parcel) (vs : List V) : Prop :=
  ∃ ms : List Message, parcels = ms.map (Parcel.mk ref) ∧ ms.map view = vs ∧ ∀ m ∈ ms, sort m

/-- Delivers messages that were put into a channel, one after the other. -/
def Runner.deliverAll (r : Runner) (ref : ChannelRef) : List Message → Run Unit
  | [] => return ()
  | m :: rest => do
    r.deliver ⟨ref, m⟩
    r.deliverAll ref rest

section Rounds

variable {V E : Type} {view : Message → V} {blame : Failure → E} {sort : Message → Prop}
  {f : FlowStage → V → Except E (List V)} {r : Runner} {ref next out : ChannelRef}
  {stage : FlowStage} {stages : List FlowStage} {m : Message} {ms : List Message}
  {parcels later : List Parcel} {vs us : List V}

theorem carried_append (h : Carried view sort ref parcels vs)
    (hlater : Carried view sort ref later us) :
    Carried view sort ref (parcels ++ later) (vs ++ us) := by
  obtain ⟨ms, rfl, rfl, hsorts⟩ := h
  obtain ⟨ms', rfl, rfl, hsorts'⟩ := hlater
  refine ⟨ms ++ ms', by rw [List.map_append], by rw [List.map_append], fun m hm => ?_⟩
  exact (List.mem_append.1 hm).elim (hsorts m) (hsorts' m)

theorem emitAll_eq (hout : stage.endpoint.output = some next) (ms : List Message) :
    Runner.emitAll stage ms = pure (ms.map (Parcel.mk next)) := by
  induction ms with
  | nil => rfl
  | cons m ms ih => simp [Runner.emitAll, Runner.emit, hout, ih]

theorem forward_eq (hout : stage.endpoint.output = some next) {outcome : Outcome}
    {ms : List Message} (h : outcome.onward = some ms) :
    r.forward stage outcome = pure (ms.map (Parcel.mk next)) := by
  cases outcome with
  | reply m =>
    cases h
    simp [Runner.forward, Runner.emit, hout]
  | many ms =>
    cases h
    exact emitAll_eq hout ms
  | discard m channel =>
    cases channel with
    | none =>
      cases h
      rfl
    | some ref => cases h
  | route decision => cases h
  | done =>
    cases h
    rfl

/-- A message on its way to a stage is given to this stage alone. -/
theorem visit_carries (hserved : r.flow.consumers ref.name = [stage])
    (hcomputes : ComputesOn view blame sort stage.endpoint.invoke (f stage))
    (hout : stage.endpoint.output = some next) (hm : sort m) :
    Follows blame (Carried view sort next) (r.visit ⟨ref, m⟩) (f stage (view m)) := by
  have hself : f stage (view m) = f stage (view m) >>= Except.ok := by
    cases f stage (view m) <;> rfl
  rw [Runner.visit_of_one hserved, hself]
  refine follows_bind (hcomputes m hm) fun outcome vs hpasses => ?_
  obtain ⟨ms, hms, hviews, hsorts⟩ := hpasses
  rw [forward_eq hout hms]
  exact follows_pure ⟨ms, rfl, hviews, hsorts⟩

/-- A round takes the messages on their way to a stage to the channel behind it. -/
theorem round_carries (hserved : r.flow.consumers ref.name = [stage])
    (hcomputes : ComputesOn view blame sort stage.endpoint.invoke (f stage))
    (hout : stage.endpoint.output = some next) (hms : ∀ m ∈ ms, sort m) :
    Follows blame (Carried view sort next) (Work.round r.visit (ms.map (Parcel.mk ref)))
      ((ms.map view).flatMapM (f stage)) := by
  induction ms with
  | nil => exact follows_pure ⟨[], rfl, rfl, by simp⟩
  | cons m ms ih =>
    rw [List.forall_mem_cons] at hms
    rw [List.map_cons, List.map_cons, Work.round, List.flatMapM_cons]
    refine follows_bind (visit_carries hserved hcomputes hout hms.1) fun further us hus => ?_
    refine follows_bind (ih hms.2) fun later ws hws => ?_
    exact follows_pure (carried_append hus hws)

/-- As many rounds as there are stages take what is on its way along a line to the end. -/
theorem rounds_carry (hserved : ∀ stage ∈ stages, r.flow.consumers stage.input.name = [stage])
    (hcomputes : ∀ stage ∈ stages, ComputesOn view blame sort stage.endpoint.invoke (f stage))
    (hline : Line (some ref) stages (some out)) (hms : ∀ m ∈ ms, sort m) :
    Follows blame (Carried view sort (reached ref stages))
      (Work.rounds r.visit stages.length (ms.map (Parcel.mk ref)))
      (levels f stages (ms.map view)) := by
  induction stages generalizing ref ms with
  | nil => exact follows_pure ⟨ms, rfl, rfl, hms⟩
  | cons stage stages ih =>
    rw [List.forall_mem_cons] at hserved hcomputes
    -- The line goes on behind the stage, so the stage has an output.
    obtain ⟨next, hout⟩ := exists_entrance hline.2
    have hinput : r.flow.consumers ref.name = [stage] := by
      have hname : ref.name = stage.input.name := Option.some.inj hline.1
      rw [hname]
      exact hserved.1
    rw [levels_cons, List.length_cons, Work.rounds, reached, hout]
    refine follows_bind (round_carries hinput hcomputes.1 hout hms) fun further us hus => ?_
    obtain ⟨ms', rfl, rfl, hms'⟩ := hus
    exact ih hserved.2 hcomputes.2 (hout ▸ hline.2) hms'

/-- Where no stage takes what is put into a channel, all of it is delivered in turn. -/
theorem run_of_free (hfree : r.flow.consumers ref.name = []) (ms : List Message) :
    Work.run r.visit (ms.map (Parcel.mk ref)) = r.deliverAll ref ms := by
  induction ms with
  | nil => exact Work.run_nil r.visit
  | cons m ms ih =>
    have hvisit : r.visit ⟨ref, m⟩ = (do r.deliver ⟨ref, m⟩; return []) :=
      Runner.visit_of_free hfree
    rw [List.map_cons, Work.run_cons, hvisit, bind_assoc, Runner.deliverAll]
    simp only [pure_bind, List.append_nil, ih]

/-- A dispatch along a line takes its message through the stages, and up to there no channel is
touched. If a stage fails, the dispatch ends with the failure. Otherwise what came through is
delivered, one message after the other. -/
theorem dispatch_through
    (hserved : ∀ stage ∈ stages, r.flow.consumers stage.input.name = [stage])
    (hfree : r.flow.consumers out.name = []) (hline : Line (some ref) stages (some out))
    (hcomputes : ∀ stage ∈ stages, ComputesOn view blame sort stage.endpoint.invoke (f stage))
    (hm : sort m) (w : World) :
    match levels f stages [view m] with
    | .error e => ∃ failure v, (r.dispatch ref m).exec w = some (.error failure, v) ∧
        blame failure = e ∧ v.channels = w.channels
    | .ok vs => ∃ ms v, ms.map view = vs ∧ (∀ q ∈ ms, sort q) ∧ v.channels = w.channels ∧
        (r.dispatch ref m).exec w = (r.deliverAll (reached ref stages) ms).exec v := by
  have hstart : ∀ q ∈ [m], sort q := by simpa using hm
  have hrounds : Follows blame (Carried view sort (reached ref stages))
      (Work.rounds r.visit stages.length [⟨ref, m⟩]) (levels f stages [view m]) :=
    rounds_carry hserved hcomputes hline hstart
  rw [Runner.dispatch, Work.run_eq_rounds r.visit stages.length, Run.exec_bind]
  cases hlevels : levels f stages [view m] with
  | error e =>
    rw [hlevels] at hrounds
    obtain ⟨failure, v, hexec, hblame, hchannels⟩ := hrounds w
    exact ⟨failure, v, by rw [hexec], hblame, hchannels⟩
  | ok vs =>
    rw [hlevels] at hrounds
    obtain ⟨_, v, hexec, ⟨ms, rfl, hviews, hsorts⟩, hchannels⟩ := hrounds w
    have hend : r.flow.consumers (reached ref stages).name = [] := by
      rw [name_reached hline]
      exact hfree
    refine ⟨ms, v, hviews, hsorts, hchannels, ?_⟩
    rw [hexec]
    exact congrArg (Run.exec · v) (run_of_free hend ms)

/-- Messages that all go to one queue are at its end, in their order. -/
theorem exec_deliverAll {queue : LiveRef} {w : World}
    (hlive : ∀ m ∈ ms, r.channels.resolve (r.destination ⟨ref, m⟩) = some queue)
    (hopen : queue.IsOpen w) :
    ∃ v, (r.deliverAll ref ms).exec w = some (.ok (), v) ∧
      v.channels = w.posted queue ms := by
  induction ms generalizing w with
  | nil => exact ⟨w, rfl, (posted_nil w queue).symm⟩
  | cons m ms ih =>
    rw [List.forall_mem_cons] at hlive
    obtain ⟨u, hsend, hu⟩ := exec_send hopen m
    obtain ⟨v, hexec, hv⟩ := ih hlive.2 (isOpen_of_gates hopen (gates_of_posted hu))
    have hdeliver : (r.deliver ⟨ref, m⟩).exec w = some (.ok (), u) := by
      rw [Runner.deliver_eq, Runner.resolve, hlive.1]
      simpa using hsend
    refine ⟨v, ?_, ?_⟩
    · rw [Runner.deliverAll, Run.exec_bind, hdeliver]
      exact hexec
    · rw [hv, posted_append hu]
      rfl

/-- A message goes where it is put unless this is an anonymous channel and it asks for a reply. -/
theorem Runner.destination_of_settled
    (h : ref.isAnonymous = false ∨ m.headers.replyChannel = none) :
    r.destination ⟨ref, m⟩ = ref := by
  rcases h with h | h
  · unfold Runner.destination
    rw [h, Bool.and_false]
    rfl
  · exact Runner.destination_of_unreplied h

/-- Messages that ask for no reply where replies are looked for are at the end of the queue of their
channel, in their order. -/
theorem exec_deliverAll_settled {queue : LiveRef} {w : World}
    (hqueue : r.channels.resolve ref = some queue)
    (hsettled : ref.isAnonymous = false ∨ ∀ m ∈ ms, m.headers.replyChannel = none)
    (hopen : queue.IsOpen w) :
    ∃ v, (r.deliverAll ref ms).exec w = some (.ok (), v) ∧
      v.channels = w.posted queue ms := by
  refine exec_deliverAll (fun m hm => ?_) hopen
  rw [Runner.destination_of_settled (hsettled.imp_right fun h => h m hm)]
  exact hqueue

end Rounds

end MessageFlow
