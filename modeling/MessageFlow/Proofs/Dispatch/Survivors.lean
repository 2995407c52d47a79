import MessageFlow.Proofs.Dispatch.Containment
import MessageFlow.Proofs.Dispatch.Delivery
import MessageFlow.Proofs.Dispatch.Headers
import MessageFlow.Proofs.Dispatch.LevelOrder
import MessageFlow.Proofs.Dispatch.Strategies
import MessageFlow.Proofs.Sample

/-!
# What survives

Where stages in a line keep their failures to themselves, a dispatch goes on to the end, and what
comes there are the survivors. A round gives the messages of a level to a stage one after the other,
and one that fails inside its stage is missing from the next level, which is otherwise as it would
be (`Winnows`). So after as many rounds as there are stages (`Winnowed`) the survivors are left, and
they are delivered in their order.

What a stage does inside its `skip` may depend on the world and may change it, and the calls that
fail count like all others. If all of them are functions of what a view shows of a message, the
dispatch does end, and the survivors are what the functions make of the message, composed, with
nothing for a failure (`survivors_of_computes`).

Advice inside a `skip` may do what no stage of the library does: it may send a message elsewhere, or
have it ask for a reply. Either can fail outside of the stage, where nothing skips it
(`survivors_led_astray`). Stages whose advice does neither leave survivors that ask for no reply, if
the message asked for none (`unreplied_of_winnowed`).
-/

namespace MessageFlow

section

variable [PayloadTypes]

/-! ## Stages that send nothing elsewhere -/

/-- An outcome that goes to the output of its stage alone, with messages of one sort. -/
def Outcome.Advances (sort : Message → Prop) (outcome : Outcome) : Prop :=
  ∃ ms, outcome.onward = some ms ∧ ∀ q ∈ ms, sort q

/-- What may be done with a message: if it asks for no reply, and is done with, nothing is sent
elsewhere and no reply is asked for. -/
def StaysInline (stage : Message → Run Outcome) : Prop :=
  ∀ m, m.headers.replyChannel = none →
    (stage m).Keeps (fun _ _ => True) (Outcome.Advances fun q => q.headers.replyChannel = none)

/-- Advice that sends nothing elsewhere and asks for no reply, if what it is around does not. -/
def Advice.Inline (advice : Advice) : Prop :=
  ∀ info proceed, StaysInline proceed → StaysInline fun m => advice info m proceed

/-- Whether a call asks for a stage that sends messages elsewhere than to its output. -/
def Factory.diverts : Factory → Bool
  | route .. => true
  | filter _ _ spec => spec.rejection.channel.isSome
  | _ => false

/-- A call whose stage sends nothing elsewhere than to its output. -/
structure Factory.Straight (f : Factory) : Prop where
  onward : f.diverts = false
  advice : ∀ advice ∈ f.options.advice, advice.Inline

section Stages

variable {f : Factory} {request : StageRequest} {info : StageInfo} {m : Message}

theorem passed_of_onward {outcome : Outcome} {ms : List Message} (h : outcome.onward = some ms) :
    outcome.passed = ms := by
  cases outcome with
  | reply m => exact Option.some.inj h
  | many ms => exact Option.some.inj h
  | discard m channel =>
    cases channel with
    | none => exact Option.some.inj h
    | some ref => cases h
  | route decision => cases h
  | done => exact Option.some.inj h

/-- The advice of the library sends nothing elsewhere. -/
theorem inline_of_builtIn {advice : Advice} (h : advice.BuiltIn) : advice.Inline := by
  intro info proceed hproceed m hm
  cases h with
  | tracing => exact keeps_tracing frame_true (hproceed m hm)
  | strategy strategy =>
    exact keeps_strategy frame_true (fun _ _ => keeps_anything _) (hproceed m hm)
      ⟨[], rfl, by simp⟩

theorem staysInline_advised {handler : Handler} {chain : List Advice}
    (h : StaysInline (handler info)) (hchain : ∀ advice ∈ chain, advice.Inline) :
    StaysInline (handler.advised chain info) := by
  induction chain with
  | nil => exact h
  | cons advice chain ih =>
    rw [List.forall_mem_cons] at hchain
    exact hchain.1 info _ (ih hchain.2)

theorem onward_sift {accepts : Run Bool} {rejection : Rejection} (h : rejection.channel = none) :
    (do if ← accepts then return .reply m else Handler.reject rejection info m :
      Run Outcome).Keeps (fun _ _ => True) fun outcome => outcome.onward.isSome := by
  refine keeps_bind frame_true (keeps_anything _) fun accepted _ => ?_
  cases accepted with
  | true => exact keeps_pure frame_true rfl
  | false =>
    simp only [Bool.false_eq_true, if_false, Handler.reject]
    cases rejection.raises with
    | true => exact keeps_throw frame_true _
    | false =>
      refine keeps_bind frame_true (keeps_anything _) fun _ _ => keeps_pure frame_true ?_
      rw [h]
      rfl

theorem onward_convert (target : ConvertTarget) : (target.handler info m).Keeps (fun _ _ => True)
    fun outcome => outcome.onward.isSome := by
  unfold ConvertTarget.handler
  cases m.payload.is target.type with
  | true => exact keeps_pure frame_true rfl
  | false =>
    cases target.convert m.payload with
    | error failure => exact keeps_throw frame_true failure
    | ok value =>
      refine keeps_bind frame_true (keeps_anything _) fun _ _ => ?_
      exact keeps_bind frame_true (keeps_anything _) fun _ _ => keeps_pure frame_true rfl

/-- Only routers, and filters with a channel for what they reject, send messages elsewhere. -/
theorem onward_of_request (hrequest : f.request = .ok request) (hf : f.diverts = false) :
    (request.handler info m).Keeps (fun _ _ => True) fun outcome => outcome.onward.isSome := by
  have hkept := frame_true
  have hany : ∀ {α : Type} (run : Run α), run.Keeps (fun _ _ => True) fun _ => True :=
    fun run => keeps_anything run
  cases f with
  | transform input output f spec =>
    cases hrequest
    refine keeps_bind hkept (hany _) fun value _ => keeps_bind hkept (hany _) fun result _ => ?_
    cases result with
    | error cause => exact keeps_throw hkept _
    | ok result => exact keeps_bind hkept (hany _) fun _ _ => keeps_pure hkept rfl
  | transformPayload input f =>
    cases input with
    | none => cases hrequest
    | some type =>
      cases hrequest
      refine keeps_bind hkept (hany _) fun _ _ => keeps_bind hkept (hany _) fun payload _ => ?_
      exact keeps_bind hkept (hany _) fun _ _ => keeps_pure hkept rfl
  | filter input accepts spec =>
    cases hrequest
    refine keeps_bind hkept (hany _) fun value _ => onward_sift ?_
    exact Option.isSome_eq_false_iff.1 hf |> Option.isNone_iff_eq_none.1
  | filterPayload input accepts =>
    cases input with
    | none => cases hrequest
    | some type =>
      cases hrequest
      exact keeps_bind hkept (hany _) fun _ _ => onward_sift rfl
  | split input item f spec =>
    cases hrequest
    refine keeps_bind hkept (hany _) fun value _ => keeps_bind hkept (hany _) fun items _ => ?_
    exact keeps_bind hkept (hany _) fun _ _ => keeps_pure hkept rfl
  | route => cases hf
  | convert target spec =>
    cases hrequest
    exact onward_convert target
  | convertTo type =>
    cases type with
    | none => cases hrequest
    | some type =>
      rw [Factory.request] at hrequest
      split at hrequest
      · next target _ =>
        cases hrequest
        exact onward_convert target
      · cases hrequest
  | handle input f spec =>
    cases hrequest
    refine keeps_bind hkept (hany _) fun value _ => keeps_bind hkept (hany _) fun _ _ => ?_
    exact keeps_pure hkept rfl
  | bridge spec =>
    cases hrequest
    exact keeps_pure hkept rfl
  | log level category =>
    cases hrequest
    exact keeps_bind hkept (hany _) fun _ _ => keeps_pure hkept rfl

/-- The stage of a call that is straight sends nothing elsewhere. -/
theorem staysInline_of_made {stage : FlowStage} (hmade : stage.MadeBy f) (hf : f.Straight) :
    StaysInline stage.endpoint.invoke := by
  obtain ⟨request, hrequest, hhandler, -⟩ := hmade.endpoint
  have hinside : StaysInline (stage.endpoint.handler stage.endpoint.info) := by
    rw [hhandler]
    intro m hm w result v hexec
    refine ⟨trivial, fun outcome hresult => ?_⟩
    have honward := (onward_of_request hrequest hf.onward w result v hexec).2 outcome hresult
    obtain ⟨ms, hms⟩ := Option.isSome_iff_exists.1 honward
    have hhands : f.Hands stage m outcome :=
      (hands_of_request hrequest w result v hexec).2 outcome hresult
    refine ⟨ms, hms, fun q hq => ?_⟩
    obtain ⟨i, hi⟩ := List.getElem?_of_mem hq
    rw [← passed_of_onward hms] at hi
    rw [(hhands i q hi).replyChannel, hm]
  refine staysInline_advised hinside fun advice hmem => ?_
  rcases hmade.advice_cases hmem with rfl | hgiven
  · exact inline_of_builtIn .tracing
  · exact hf.advice advice hgiven

/-- A bridge sends everything to its output. -/
theorem straight_bridge {spec : EndpointSpec} (h : spec.advice = []) :
    (Factory.bridge spec).Straight := by
  have hnone : (Factory.bridge spec).options.advice = [] := h
  exact ⟨rfl, by simp [hnone]⟩

end Stages

/-! ## Survivors -/

/-- What a stage makes of messages, one after the other, each in the world that is left after the
one before it. A message that it fails for comes to nothing. In between there may be entries in the
journal. -/
inductive Winnows (stage : Message → Run Outcome) :
    World → List Message → List Message → World → Prop where
  | done (w v : World) : w.Writes v → Winnows stage w [] [] v
  | passed (m : Message) (rest ms survivors : List Message) (outcome : Outcome)
      (w u u' v : World) : w.Writes u → (stage m).exec u = some (.ok outcome, u') →
      outcome.onward = some ms → Winnows stage u' rest survivors v →
      Winnows stage w (m :: rest) (ms ++ survivors) v
  | failed (m : Message) (rest survivors : List Message) (failure : Failure) (w u u' v : World) :
      w.Writes u → (stage m).exec u = some (.error failure, u') →
      Winnows stage u' rest survivors v → Winnows stage w (m :: rest) survivors v

/-- What stages leave of messages, one stage after the other. Of each stage it is what is inside of
its `skip` that is asked. -/
inductive Winnowed : List FlowStage → World → List Message → List Message → World → Prop where
  | done (w : World) (ms : List Message) : Winnowed [] w ms ms w
  | stage (stage : FlowStage) (chain : List Advice) (stages : List FlowStage)
      (ms passed survivors : List Message) (w u v : World) : stage.Contained chain →
      Winnows (stage.inner chain) w ms passed u → Winnowed stages u passed survivors v →
      Winnowed (stage :: stages) w ms survivors v

theorem winnows_of_writes {stage : Message → Run Outcome} {ms survivors : List Message}
    {w u v : World} (h : w.Writes u) (hwinnows : Winnows stage u ms survivors v) :
    Winnows stage w ms survivors v := by
  cases hwinnows with
  | done _ _ hwrites => exact .done w v (writes_trans h hwrites)
  | passed m rest ms survivors outcome _ u' u'' _ hwrites hexec honward hrest =>
    exact .passed m rest ms survivors outcome w u' u'' v (writes_trans h hwrites) hexec honward
      hrest
  | failed m rest _ failure _ u' u'' _ hwrites hexec hrest =>
    exact .failed m rest survivors failure w u' u'' v (writes_trans h hwrites) hexec hrest

/-! ## A line -/

namespace Runner

variable {r : Runner} {stage : FlowStage} {stages : List FlowStage} {chain : List Advice}
  {ref next out : ChannelRef} {m : Message} {ms : List Message} {sort : Message → Prop}
  {kept : World → World → Prop} {w v : World}

/-- Runs that do not close a queue. -/
theorem frame_open (queue : LiveRef) : Frame fun w v => queue.IsOpen w → queue.IsOpen v where
  refl _ := id
  trans _ _ _ h h' := h' ∘ h
  issued _ _ := id
  journal _ _ := id

/-- A message on its way to a stage that keeps its failures to itself is passed on, or lost. -/
theorem winnows_of_visit (hserved : r.flow.consumers ref.name = [stage])
    (hcontained : stage.Contained chain) (hout : stage.endpoint.output = some next)
    (honward : (stage.endpoint.invoke m).Keeps (fun _ _ => True) (Outcome.Advances sort))
    {result : Except Failure (List Parcel)} (h : (r.visit ⟨ref, m⟩).exec w = some (result, v)) :
    ∃ ms, result = .ok (ms.map (Parcel.mk next)) ∧ (∀ q ∈ ms, sort q) ∧
      (∃ outcome, (stage.endpoint.invoke m).exec w = some (.ok outcome, v)) ∧
      ∀ rest survivors v', Winnows (stage.inner chain) v rest survivors v' →
        Winnows (stage.inner chain) w (m :: rest) (ms ++ survivors) v' := by
  rw [visit_of_one hserved] at h
  obtain ⟨result', t, hinvoke, hnext⟩ := Run.ends_of_bind h
  obtain ⟨u, inside, u', hwrites, hinner, hok, hwrites'⟩ := exec_contained hcontained hinvoke
  obtain ⟨ms, hms, hsorts⟩ := (honward w _ t hinvoke).2 _ hok
  have hforward := hnext _ hok
  rw [forward_eq hout hms] at hforward
  cases hforward
  refine ⟨ms, rfl, hsorts, ⟨_, hok ▸ hinvoke⟩, fun rest survivors v' hrest => ?_⟩
  cases inside with
  | ok outcome =>
    exact .passed m rest ms survivors outcome w u u' v' hwrites hinner hms
      (winnows_of_writes hwrites' hrest)
  | error failure =>
    cases hms
    exact .failed m rest survivors failure w u u' v' hwrites hinner
      (winnows_of_writes hwrites' hrest)

/-- A round gives a level to its stage and leaves the next level. -/
theorem winnows_of_round (hserved : r.flow.consumers ref.name = [stage])
    (hcontained : stage.Contained chain) (hout : stage.endpoint.output = some next)
    (hkeeps : ∀ q, (stage.endpoint.invoke q).Keeps kept fun _ => True)
    (honward : ∀ q, sort q →
      (stage.endpoint.invoke q).Keeps (fun _ _ => True) (Outcome.Advances sort))
    (hkept : Frame kept) (hms : ∀ m ∈ ms, sort m)
    {result : Except Failure (List Parcel)}
    (h : (Work.round r.visit (ms.map (Parcel.mk ref))).exec w = some (result, v)) :
    ∃ passed, result = .ok (passed.map (Parcel.mk next)) ∧ (∀ q ∈ passed, sort q) ∧ kept w v ∧
      Winnows (stage.inner chain) w ms passed v := by
  induction ms generalizing w v result with
  | nil =>
    cases h
    exact ⟨[], rfl, by simp, hkept.refl w, .done _ _ (writes_self _)⟩
  | cons m ms ih =>
    rw [List.forall_mem_cons] at hms
    rw [List.map_cons, Work.round] at h
    obtain ⟨result', u, hvisit, hnext⟩ := Run.ends_of_bind h
    obtain ⟨first, hok, hfirst, ⟨outcome, hinvoke⟩, hwinnows⟩ :=
      winnows_of_visit hserved hcontained hout (honward m hms.1) hvisit
    obtain ⟨result'', u', hround, hnext'⟩ := Run.ends_of_bind (hnext _ hok)
    obtain ⟨later, hok', hlater, hkept', hrest⟩ := ih hms.2 hround
    cases hnext' _ hok'
    refine ⟨first ++ later, by rw [List.map_append], fun q hq => ?_,
      hkept.trans _ _ _ (hkeeps m w _ u hinvoke).1 hkept', hwinnows ms later v hrest⟩
    exact (List.mem_append.1 hq).elim (hfirst q) (hlater q)

/-- As many rounds as there are stages leave the survivors. -/
theorem winnowed_of_rounds (hkept : Frame kept)
    (hserved : ∀ stage ∈ stages, r.flow.consumers stage.input.name = [stage])
    (hcontained : ∀ stage ∈ stages, ∃ chain, stage.Contained chain)
    (hkeeps : ∀ stage ∈ stages, ∀ q, (stage.endpoint.invoke q).Keeps kept fun _ => True)
    (honward : ∀ stage ∈ stages, ∀ q, sort q →
      (stage.endpoint.invoke q).Keeps (fun _ _ => True) (Outcome.Advances sort))
    (hline : Line (some ref) stages (some out)) (hms : ∀ m ∈ ms, sort m)
    {result : Except Failure (List Parcel)}
    (h : (Work.rounds r.visit stages.length (ms.map (Parcel.mk ref))).exec w = some (result, v)) :
    ∃ survivors, result = .ok (survivors.map (Parcel.mk (reached ref stages))) ∧
      (∀ q ∈ survivors, sort q) ∧ kept w v ∧ Winnowed stages w ms survivors v := by
  induction stages generalizing ref ms w with
  | nil =>
    cases h
    exact ⟨ms, rfl, hms, hkept.refl v, .done v ms⟩
  | cons stage stages ih =>
    rw [List.forall_mem_cons] at hserved hcontained hkeeps honward
    obtain ⟨chain, hchain⟩ := hcontained.1
    -- The line goes on behind the stage, so the stage has an output.
    obtain ⟨next, hout⟩ := exists_entrance hline.2
    have hname : ref.name = stage.input.name := Option.some.inj hline.1
    rw [List.length_cons, Work.rounds] at h
    obtain ⟨result', u, hround, hnext⟩ := Run.ends_of_bind h
    obtain ⟨passed, hok, hpassed, hkept', hwinnows⟩ := winnows_of_round (hname ▸ hserved.1) hchain
      hout hkeeps.1 honward.1 hkept hms hround
    obtain ⟨survivors, hresult, hsurvivors, hkept'', hwinnowed⟩ := ih hserved.2 hcontained.2
      hkeeps.2 honward.2 (hout ▸ hline.2) hpassed (hnext _ hok)
    refine ⟨survivors, ?_, hsurvivors, hkept.trans _ _ _ hkept' hkept'',
      .stage stage chain stages ms passed survivors w u v hchain hwinnows hwinnowed⟩
    rw [hresult, reached, hout]
    rfl

/-- A dispatch along a line, if it ends, delivers the survivors. -/
theorem delivers_survivors {queue : LiveRef}
    (hserved : ∀ stage ∈ stages, r.flow.consumers stage.input.name = [stage])
    (hfree : r.flow.consumers out.name = []) (hline : Line (some ref) stages (some out))
    (hqueue : r.channels.resolve (reached ref stages) = some queue)
    (hcontained : ∀ stage ∈ stages, ∃ chain, stage.Contained chain)
    (hkeeps : ∀ stage ∈ stages, ∀ q, (stage.endpoint.invoke q).Keeps
      (fun w v => queue.IsOpen w → queue.IsOpen v) fun _ => True)
    (honward : ∀ stage ∈ stages, ∀ q, sort q →
      (stage.endpoint.invoke q).Keeps (fun _ _ => True) (Outcome.Advances sort))
    (hm : sort m) (hopen : queue.IsOpen w) {result : Except Failure Unit}
    (h : (r.dispatch ref m).exec w = some (result, v)) :
    ∃ ms u, Winnowed stages w [m] ms u ∧ (∀ q ∈ ms, sort q) ∧
      (r.deliverAll (reached ref stages) ms).exec u = some (result, v) ∧
      ((reached ref stages).isAnonymous = false ∨ (∀ q ∈ ms, q.headers.replyChannel = none) →
        result = .ok () ∧ v.channels = u.posted queue ms) := by
  rw [dispatch, Work.run_eq_rounds r.visit stages.length] at h
  obtain ⟨result', u, hrounds, hnext⟩ := Run.ends_of_bind h
  have hstart : ∀ q ∈ [m], sort q := by simpa using hm
  obtain ⟨ms, hok, hms, hopens, hwinnowed⟩ := winnowed_of_rounds (frame_open queue)
    hserved hcontained hkeeps honward hline hstart hrounds
  have hend : r.flow.consumers (reached ref stages).name = [] := by
    rw [name_reached hline]
    exact hfree
  have hdeliver : (r.deliverAll (reached ref stages) ms).exec u = some (result, v) := by
    rw [← run_of_free hend]
    exact hnext _ hok
  refine ⟨ms, u, hwinnowed, hms, hdeliver, fun hsettled => ?_⟩
  obtain ⟨v', hexec, hchannels⟩ := exec_deliverAll_settled hqueue hsettled (hopens hopen)
  rw [hexec] at hdeliver
  cases hdeliver
  exact ⟨rfl, hchannels⟩

end Runner

/-! ## Stateless stages -/

section Stateless

variable {V : Type} {view : Message → V} {sort : Message → Prop} {stage : FlowStage}
  {chain : List Advice} {f : V → Except Failure (List V)}

theorem computesOn_outer {handler : Handler} {info : StageInfo} {outer : List Advice}
    (houter : ∀ advice ∈ outer, advice = Advice.tracing)
    (h : ComputesOn view Failure.face sort (handler info) f) :
    ComputesOn view Failure.face sort (handler.advised outer info) f := by
  induction outer with
  | nil => exact h
  | cons advice outer ih =>
    rw [List.forall_mem_cons] at houter
    obtain ⟨rfl, houter⟩ := houter
    exact computesOn_traced info (ih houter)

/-- A stage that keeps its failures to itself computes what is inside of it, with nothing for a
failure. -/
theorem computesOn_contained (hstage : stage.Contained chain)
    (h : ComputesOn view Failure.face sort (stage.inner chain) f) :
    ComputesOn view Failure.face sort stage.endpoint.invoke (spared (fun _ => true) f) := by
  cases hstage with
  | skips outer houter hadvice =>
    have hinvoke : stage.endpoint.invoke =
        (stage.endpoint.handler.advised (ErrorStrategy.skip.advice :: chain)).advised outer
          stage.endpoint.info := by
      funext m
      rw [Endpoint.invoke, hadvice, Handler.advised_append]
    rw [hinvoke]
    exact computesOn_outer houter (computesOn_strategy settles_skip h)
  | safe htracing hsafe hchain =>
    subst hchain
    -- What cannot fail has no failure to leave out.
    have hnever : ∀ m w failure v, (stage.inner [] m).exec w ≠ some (.error failure, v) := by
      intro m w failure v hexec
      rw [FlowStage.inner, Handler.advised_nil] at hexec
      rcases hsafe with hbridge | ⟨level, category, hlog⟩
      · rw [hbridge] at hexec
        cases hexec
      · rw [hlog] at hexec
        cases hexec
    refine computesOn_outer htracing fun m hm => ?_
    have hfollows := h m hm
    cases hlook : f (view m) with
    | ok vs =>
      rw [hlook] at hfollows
      rw [spared, hlook]
      exact hfollows
    | error e =>
      rw [hlook] at hfollows
      obtain ⟨failure, v, hexec, -⟩ := hfollows (.new 0)
      exact absurd hexec (hnever m _ failure v)

/-- What touches no channel closes none. -/
theorem keeps_open_of_computes {invoke : Message → Run Outcome} (queue : LiveRef)
    (h : Computes view Failure.face invoke f) (m : Message) :
    (invoke m).Keeps (fun w v => queue.IsOpen w → queue.IsOpen v) fun _ => True := by
  intro w result v hexec
  have hchannels : v.channels = w.channels := channels_of_follows (h m trivial) hexec
  exact ⟨fun hopen => isOpen_of_gates hopen (gates_of_channels hchannels), fun _ _ => trivial⟩

/-- What leaves out failures has none. -/
theorem exists_levels (g : FlowStage → V → Except Failure (List V)) (stages : List FlowStage)
    (us : List V) :
    ∃ vs, levels (fun stage => spared (fun _ => true) (g stage)) stages us = .ok vs := by
  induction stages generalizing us with
  | nil => exact ⟨us, rfl⟩
  | cons stage stages ih =>
    have hisOk : ∀ u ∈ us, (spared (fun _ => true) (g stage) u).isOk := by
      intro u _
      unfold spared
      cases g stage u <;> rfl
    obtain ⟨vs, hvs⟩ := ih (us.flatMap (yield (spared (fun _ => true) (g stage))))
    exact ⟨vs, by rw [levels_cons, flatMapM_of_isOk hisOk]; exact hvs⟩

end Stateless

namespace Runner

variable {r : Runner} {stages : List FlowStage} {ref out : ChannelRef} {m : Message} {w : World}

/-- A dispatch along a line of stages that are functions of what a view shows comes to the end, and
delivers what the stages make of the message, composed, with nothing for a failure. -/
theorem survivors_of_computes {queue : LiveRef} {V : Type} {view : Message → V}
    {g : FlowStage → V → Except Failure (List V)}
    (hserved : ∀ stage ∈ stages, r.flow.consumers stage.input.name = [stage])
    (hfree : r.flow.consumers out.name = []) (hline : Line (some ref) stages (some out))
    (hqueue : r.channels.resolve (reached ref stages) = some queue)
    (hg : ∀ stage ∈ stages, ∃ chain, stage.Contained chain ∧
      Computes view Failure.face (stage.inner chain) (g stage))
    (hopen : queue.IsOpen w) :
    ∃ ms u, through (fun stage => spared (fun _ => true) (g stage)) stages (view m) =
        .ok (ms.map view) ∧ u.channels = w.channels ∧
      (r.dispatch ref m).exec w = (r.deliverAll (reached ref stages) ms).exec u ∧
      ((reached ref stages).isAnonymous = false ∨ (∀ q ∈ ms, q.headers.replyChannel = none) →
        ∃ v, (r.dispatch ref m).exec w = some (.ok (), v) ∧ v.channels = w.posted queue ms) := by
  have hcomputes : ∀ stage ∈ stages, Computes view Failure.face stage.endpoint.invoke
      (spared (fun _ => true) (g stage)) := by
    intro stage hstage
    obtain ⟨chain, hcontained, hinner⟩ := hg stage hstage
    exact computesOn_contained hcontained hinner
  have hdispatch := dispatch_through (m := m) hserved hfree hline hcomputes trivial w
  obtain ⟨vs, hvs⟩ := exists_levels g stages [view m]
  rw [hvs] at hdispatch
  obtain ⟨ms, u, rfl, -, hu, hexec⟩ := hdispatch
  refine ⟨ms, u, levels_singleton_eq_ok.1 hvs, hu, hexec, fun hsettled => ?_⟩
  obtain ⟨v, hdeliver, hv⟩ := exec_deliverAll_settled hqueue hsettled
    (isOpen_of_gates hopen (gates_of_channels hu))
  exact ⟨v, hexec.trans hdeliver, hv.trans (posted_congr hu queue ms)⟩

end Runner

/-! ## Flows -/

/-- The last stages of a flow lead from a reference to a queue: they are a line, no two channels of
the flow bear the same name, and the reference that the line ends in resolves to the queue. -/
structure Runner.Reaches (r : Runner) (ref : ChannelRef) (stages : List FlowStage)
    (queue : LiveRef) : Prop where
  line : ∃ before out, r.flow.stages = before ++ stages ∧ Line (some ref) stages (some out) ∧
    (r.flow.stages.map (·.input.name) ++ [out.name]).Nodup
  resolves : r.channels.resolve (reached ref stages) = some queue

/-- What is put into a channel of a line is for one stage, up to the end. -/
theorem consumers_of_reaches {r : Runner} {ref : ChannelRef} {stages : List FlowStage}
    {queue : LiveRef} (h : r.Reaches ref stages queue) :
    ∃ out, Line (some ref) stages (some out) ∧ r.flow.consumers out.name = [] ∧
      ∀ stage ∈ stages, stage ∈ r.flow.stages ∧ r.flow.consumers stage.input.name = [stage] := by
  obtain ⟨before, out, hstages, hline, hdistinct⟩ := h.line
  refine ⟨out, hline, Flow.consumers_of_end hdistinct, fun stage hstage => ?_⟩
  have hmem : stage ∈ r.flow.stages := by
    rw [hstages]
    exact List.mem_append_right before hstage
  exact ⟨hmem, Flow.consumers_of_mem hdistinct hmem⟩

/-- Where every call is straight, no stage sends a message elsewhere or has one ask for a reply. -/
theorem staysInline_of_calls (id : String) (source : Source) (config : FlowConfig) (cs : List Call)
    (hstraight : ∀ f, .stage f ∈ (FlowDefinition.start id source config).succeeded cs →
      f.Straight) {flow : Flow} (hflow : (Composer.finish.exec
      ((FlowDefinition.start id source config).afterAll cs)).1 = .ok flow) :
    ∀ stage ∈ flow.stages, StaysInline stage.endpoint.invoke := by
  rw [Composer.result_finish] at hflow
  have hmade : MadeOf Factory.Straight flow.stages := by
    refine FlowDefinition.madeOf_finished ?_ hflow
    exact FlowDefinition.madeOf_succeeded (consistent_start id source config)
      (fun _ => straight_bridge rfl) hstraight fun _ hstage => nomatch hstage
  intro stage hstage
  obtain ⟨f, hf, hstraight⟩ := hmade stage hstage
  exact staysInline_of_made hf hstraight

/-- Stages that skip contain their failures. If `skip` is the first advice that is given to each
stage that is appended, a dispatch fails only where a message has no destination or its channel is
closed.

In a line of stages that send nothing elsewhere, to an open queue, a dispatch that ends delivers the
survivors: what each stage in turn makes, inside of its `skip`, of all that the stages before it
left, in order, where a message that it fails for comes to nothing and the others go on. It succeeds
and all of them are in the queue, unless the line ends in an anonymous channel and a survivor asks
for a reply. They are of any sort that the message is of and the stages keep to, such as that no
reply is asked for. There is nothing in the library that closes a queue, and no stage may. If the
stages are functions of what a view shows, the dispatch does come to the end, and the survivors are
what they make of the message, composed. -/
theorem failures_contained (id : String) (source : Source) (config : FlowConfig) (cs : List Call)
    (hlenient : ∀ f, .stage f ∈ (FlowDefinition.start id source config).succeeded cs → f.Lenient)
    {r : Runner} (hflow : (Composer.finish.exec
      ((FlowDefinition.start id source config).afterAll cs)).1 = .ok r.flow) :
    (∀ ref m w failure v, (r.dispatch ref m).exec w = some (.error failure, v) →
      Runner.Loose failure) ∧
    ∀ ref stages queue, r.Reaches ref stages queue → ∀ m w, queue.IsOpen w →
      (∀ sort : Message → Prop, sort m →
        (∀ stage ∈ stages, ∀ q, sort q → (stage.endpoint.invoke q).Keeps (fun _ _ => True)
          fun outcome => ∃ qs, outcome.onward = some qs ∧ ∀ q ∈ qs, sort q) →
        (∀ stage ∈ stages, ∀ q, (stage.endpoint.invoke q).Keeps
          (fun w v => queue.IsOpen w → queue.IsOpen v) fun _ => True) →
        ∀ result v, (r.dispatch ref m).exec w = some (result, v) →
          ∃ ms u, Winnowed stages w [m] ms u ∧ (∀ q ∈ ms, sort q) ∧
            (r.deliverAll (reached ref stages) ms).exec u = some (result, v) ∧
            ((reached ref stages).isAnonymous = false ∨
                (∀ q ∈ ms, q.headers.replyChannel = none) →
              result = .ok () ∧ v.channels = u.posted queue ms)) ∧
      ∀ (V : Type) (view : Message → V) (g : FlowStage → V → Except Failure (List V)),
        (∀ stage ∈ stages, ∃ chain, stage.Contained chain ∧
          Computes view Failure.face (stage.inner chain) (g stage)) →
        ∃ ms u, through (fun stage => spared (fun _ => true) (g stage)) stages (view m) =
            .ok (ms.map view) ∧ u.channels = w.channels ∧
          (r.dispatch ref m).exec w = (r.deliverAll (reached ref stages) ms).exec u ∧
          ((reached ref stages).isAnonymous = false ∨
              (∀ q ∈ ms, q.headers.replyChannel = none) →
            ∃ v, (r.dispatch ref m).exec w = some (.ok (), v) ∧
              v.channels = w.posted queue ms) := by
  rw [Composer.result_finish] at hflow
  have hmade : MadeOf Factory.Lenient r.flow.stages := by
    refine FlowDefinition.madeOf_finished ?_ hflow
    exact FlowDefinition.madeOf_succeeded (consistent_start id source config) hasBridges_lenient
      hlenient fun _ hstage => nomatch hstage
  have hcontained : ∀ stage ∈ r.flow.stages, ∃ chain, stage.Contained chain := by
    intro stage hstage
    obtain ⟨f, hf, hlenient⟩ := hmade stage hstage
    exact ⟨_, contained_of_made hf hlenient⟩
  refine ⟨fun ref m w failure v h => Runner.loose_of_work hcontained h, ?_⟩
  intro ref stages queue hreaches m w hopen
  obtain ⟨out, hline, hfree, hserved⟩ := consumers_of_reaches hreaches
  refine ⟨fun sort hm honward hkeeps result v h => ?_, fun V view g hg => ?_⟩
  · exact Runner.delivers_survivors (fun stage hstage => (hserved stage hstage).2) hfree hline
      hreaches.resolves (fun stage hstage => hcontained stage (hserved stage hstage).1) hkeeps
      honward hm hopen h
  · exact Runner.survivors_of_computes (fun stage hstage => (hserved stage hstage).2) hfree hline
      hreaches.resolves hg hopen

end

open Sample

/-- Numbers are split up and checked. Both stages drop what they fail for. -/
def sparing : List Call :=
  [ .stage (.split .numbers .number (fun ns => pure ns)
      ⟨{ EndpointSpec.standard with advice := [ErrorStrategy.skip.advice] }, true⟩),
    .stage (.transform .number .number (fun n => pure (checkedNumbers.checkedNumber n))
      { EndpointSpec.standard with advice := [ErrorStrategy.skip.advice] }) ]

/-- Of three numbers the negative one is lost, and the others come through. -/
theorem failures_contained_sparing :
    let m : Message := ⟨.fresh 0, .of .numbers [1, -1, 2], .at 0⟩
    let queue : LiveRef := ⟨0, "f.channel#1"⟩
    let w : World := { World.new 0 with channels := [.queue "f.channel#1"] }
    ∃ (r : Runner) (ms : List Message) (u v : World), (Composer.finish.exec
        ((FlowDefinition.start "f" (.channel "in" false) .standard).afterAll sparing)).1 =
          .ok r.flow ∧
      (r.dispatch (.named "in") m).exec w = some (.ok (), v) ∧
      Winnowed r.flow.stages w [m] ms u ∧ v.channels = u.posted queue ms ∧
      v.channels.map (·.box.queued.map (·.payload)) = [[.of .number 1, .of .number 2]] := by
  intro m queue w
  have hcalls : ∀ f, .stage f ∈ (FlowDefinition.start "f" (.channel "in" false)
      .standard).succeeded sparing → f.Lenient ∧ f.Straight := by
    intro f hf
    have hskip : ∀ advice ∈ [ErrorStrategy.skip.advice], advice.Inline := by
      intro advice hadvice
      cases List.mem_singleton.1 hadvice
      exact inline_of_builtIn (.strategy .skip)
    have hmem := FlowDefinition.succeeded_subset _ _ hf
    simp only [sparing, List.mem_cons, Call.stage.injEq, List.not_mem_nil, or_false] at hmem
    rcases hmem with rfl | rfl
    · exact ⟨.skips [] rfl, rfl, hskip⟩
    · exact ⟨.skips [] rfl, rfl, hskip⟩
  have hfinish : ∃ flow, (Composer.finish.exec
      ((FlowDefinition.start "f" (.channel "in" false) .standard).afterAll sparing)).1 =
        .ok flow := ⟨_, rfl⟩
  obtain ⟨flow, hflow⟩ := hfinish
  let r : Runner := ⟨0, flow, ⟨[("f.channel#1", queue)]⟩, none⟩
  obtain ⟨-, hline⟩ := failures_contained "f" (.channel "in" false) .standard sparing
    (fun f hf => (hcalls f hf).1) (r := r) hflow
  have hreaches : r.Reaches (.named "in") r.flow.stages queue := by
    cases hflow
    exact ⟨⟨[], .anonymous "f.channel#1", rfl, ⟨rfl, rfl, rfl⟩, by decide⟩, rfl⟩
  obtain ⟨hends, hviews⟩ := hline (.named "in") r.flow.stages queue hreaches m w ⟨_, rfl, rfl⟩
  have hinner : ∀ stage ∈ r.flow.stages, stage.Contained [] ∧
      Computes Message.face Failure.face (stage.inner []) (checksOf stage) := by
    intro stage hstage
    cases hflow
    rcases List.mem_cons.1 hstage with rfl | hstage
    · exact ⟨.skips [] nofun rfl, computes_split .numbers .number (amountsTo_pure _) true⟩
    · cases List.mem_singleton.1 hstage
      exact ⟨.skips [] nofun rfl, computes_transform .number .number (amountsTo_pure _)⟩
  have hkeeps : ∀ stage ∈ r.flow.stages, ∀ m, (stage.endpoint.invoke m).Keeps
      (fun w v => queue.IsOpen w → queue.IsOpen v) fun _ => True := fun stage hstage =>
    keeps_open_of_computes queue
      (computesOn_contained (hinner stage hstage).1 (hinner stage hstage).2)
  have hstays := staysInline_of_calls "f" (.channel "in" false) .standard sparing
    (fun f hf => (hcalls f hf).2) hflow
  obtain ⟨ms, t, hthrough, -, hexec, hdelivers⟩ := hviews _ Message.face checksOf
    fun stage hstage => ⟨[], hinner stage hstage⟩
  -- The faces of the survivors show that no reply is asked for.
  have hreplies : ∀ q ∈ ms, q.headers.replyChannel = none := by
    have hnone : ∀ face ∈ ms.map Message.face, face.2.replyChannel = none := by
      generalize ms.map Message.face = faces at hthrough
      cases hflow
      cases hthrough
      intro face hface
      rcases List.mem_cons.1 hface with rfl | hface
      · rfl
      · cases List.mem_singleton.1 hface
        rfl
    exact fun q hq => hnone q.face (List.mem_map_of_mem hq)
  obtain ⟨v, hexec, hchannels⟩ := hdelivers (.inr hreplies)
  obtain ⟨ms', u, hwinnowed, hunreplied, -, hposted⟩ :=
    hends (fun q => q.headers.replyChannel = none) rfl hstays hkeeps _ v hexec
  refine ⟨r, ms', u, v, hflow, hexec, hwinnowed, (hposted (.inr hunreplied)).2, ?_⟩
  have hpayloads : ms.map (·.payload) = [.of .number 1, .of .number 2] := by
    have hmapped := congrArg (Except.map (List.map Prod.fst)) hthrough.symm
    have hsame : (ms.map Message.face).map Prod.fst = ms.map (·.payload) := List.map_map
    rw [← hsame]
    cases hflow
    exact Except.ok.inj hmapped
  rw [hchannels, World.posted]
  exact congrArg (fun payloads => [payloads]) hpayloads

/-- Advice of a user that sends a message elsewhere. -/
def Advice.diverting (ref : ChannelRef) : Advice := fun _ m _ =>
  return .discard m (some ref)

/-- A bridge that skips, with an advice of a user inside. -/
def meddled (advice : Advice) : List Call :=
  [.stage (.bridge { EndpointSpec.standard with advice := [ErrorStrategy.skip.advice, advice] })]

/-- Its stage. -/
def meddledStage (advice : Advice) : FlowStage :=
  ⟨.named "in",
    ⟨⟨"f.bridge#0", .bridge⟩, .payload, .bridge, [ErrorStrategy.skip.advice, advice], none,
      some (.anonymous "f.channel#0")⟩⟩

/-- Its flow. -/
def meddledFlow (advice : Advice) : Flow :=
  { id := "f"
    source := .channel "in" false
    input := .named "in"
    output := some (.anonymous "f.channel#0")
    stages := [meddledStage advice]
    components := (Composer.finish.exec ((FlowDefinition.start "f" (.channel "in" false)
      .standard).afterAll (meddled advice))).2.components
    poller := .standard }

/-- The flow with a queue for its output. -/
def meddledRunner (advice : Advice) : Runner :=
  ⟨0, meddledFlow advice, ⟨[("f.channel#0", ⟨0, "f.channel#0"⟩)]⟩, some ⟨0, "f.channel#0"⟩⟩

/-- The queue. -/
def meddledWorld : World :=
  { World.new 0 with channels := [.queue "f.channel#0"], runners := [.new] }

/-- The bridge skips and sends nothing elsewhere, but for the advice of the user. It is a line to an
open queue, and yet the dispatch of a message that asks for no reply fails. -/
def Advice.Misleads (advice : Advice) : Prop :=
  (Composer.finish.exec ((FlowDefinition.start "f" (.channel "in" false) .standard).afterAll
    (meddled advice))).1 = .ok (meddledFlow advice) ∧
  (∀ f, .stage f ∈ (FlowDefinition.start "f" (.channel "in" false) .standard).succeeded
    (meddled advice) → f.Lenient ∧ f.diverts = false) ∧
  (meddledRunner advice).Reaches (.named "in") (meddledFlow advice).stages ⟨0, "f.channel#0"⟩ ∧
  LiveRef.IsOpen ⟨0, "f.channel#0"⟩ meddledWorld ∧
  ((meddledRunner advice).dispatch (.named "in") unasked).exec meddledWorld =
    some (.error (.destination "x"), meddledWorld)

/-- What a strategy is around goes on as it is if it does not fail. -/
theorem exec_strategy_ok {strategy : ErrorStrategy} {info : StageInfo} {m : Message}
    {proceed : Message → Run Outcome} {outcome : Outcome} {w v : World}
    (h : (proceed m).exec w = some (.ok outcome, v)) :
    (strategy.advice info m proceed).exec w = some (.ok outcome, v) := by
  rw [ErrorStrategy.advice, Run.exec_loop, ErrorStrategy.attempt, Run.exec_bind,
    Run.exec_attempt, h]
  rfl

/-- Advice misleads if it makes of the message what the bridge puts into a channel, and it cannot be
delivered there. -/
theorem misleads_of_outcome {advice : Advice} (outcome : Outcome) (p : Parcel)
    (hflow : (Composer.finish.exec ((FlowDefinition.start "f" (.channel "in" false)
      .standard).afterAll (meddled advice))).1 = .ok (meddledFlow advice))
    (hadvice : (Handler.bridge.advised [advice] ⟨"f.bridge#0", .bridge⟩ unasked).exec
      meddledWorld = some (.ok outcome, meddledWorld))
    (hforward : (meddledRunner advice).forward (meddledStage advice) outcome = pure [p])
    (hfree : (meddledRunner advice).flow.consumers p.channel.name = [])
    (hdeliver : ((meddledRunner advice).deliver p).exec meddledWorld =
      some (.error (.destination "x"), meddledWorld)) : advice.Misleads := by
  have hcalls : ∀ f, .stage f ∈ (FlowDefinition.start "f" (.channel "in" false)
      .standard).succeeded (meddled advice) → f.Lenient ∧ f.diverts = false := by
    intro f hf
    have hmem := FlowDefinition.succeeded_subset _ _ hf
    simp only [meddled, List.mem_cons, Call.stage.injEq, List.not_mem_nil, or_false] at hmem
    subst hmem
    exact ⟨.skips [advice] rfl, rfl⟩
  have hdistinct : (["in", "f.channel#0"] : List String).Nodup := by decide
  refine ⟨hflow, hcalls, ⟨⟨[], .anonymous "f.channel#0", rfl, ⟨rfl, rfl⟩, hdistinct⟩, rfl⟩,
    ⟨_, rfl, rfl⟩, ?_⟩
  have hvisit : ((meddledRunner advice).visit ⟨.named "in", unasked⟩).exec meddledWorld =
      some (.ok [p], meddledWorld) := by
    have hserved : (meddledRunner advice).flow.consumers (ChannelRef.named "in").name =
        [meddledStage advice] := rfl
    have hinvoke : ((meddledStage advice).endpoint.invoke unasked).exec meddledWorld =
        some (.ok outcome, meddledWorld) := exec_strategy_ok hadvice
    rw [Runner.visit_of_one hserved, Run.exec_bind, hinvoke]
    dsimp only
    rw [hforward]
    rfl
  rw [Runner.dispatch, Work.run_cons, Run.exec_bind, hvisit]
  simp only [List.nil_append]
  rw [Work.run_cons, Run.exec_bind, Runner.visit_of_free hfree, Run.exec_bind, hdeliver]

/-- The dispatch fails if the advice has the message ask for a reply in a channel that there is not,
and if the advice sends the message there itself. -/
theorem survivors_led_astray :
    (Advice.asking (.named "x")).Misleads ∧ (Advice.diverting (.named "x")).Misleads := by
  constructor
  · exact misleads_of_outcome (.reply (unasked.withReplyChannel (.named "x")))
      ⟨.anonymous "f.channel#0", unasked.withReplyChannel (.named "x")⟩ rfl rfl rfl rfl rfl
  · exact misleads_of_outcome (.discard unasked (some (.named "x"))) ⟨.named "x", unasked⟩ rfl rfl
      rfl rfl rfl

end MessageFlow
