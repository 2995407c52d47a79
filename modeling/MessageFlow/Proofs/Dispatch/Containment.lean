import MessageFlow.Proofs.Composer.Made
import MessageFlow.Proofs.Dispatch.Served

/-!
# Failures that stay in their stage

A stage with `skip` around all that its composer put there cannot fail: whatever the handler or the
advice inside does, the message is dropped instead. `Contained` says of a stage that it is of this
sort, or that its handler cannot fail and nothing is around it; tracing may be around either.
`exec_contained` is all that has to be known of such a stage, and it is about any handler and any
advice: the stage ends as what is inside does, but for a failure, and writes to the journal besides.

What is left to fail in a dispatch is a delivery, or a router that finds no channel
(`loose_of_work`).
-/

namespace MessageFlow

variable [PayloadTypes]

/-- Worlds that are the same but for the journal. -/
def World.Writes (w v : World) : Prop :=
  ∃ entries, v = { w with journal := entries }

/-- What a stage makes of a message that it drops instead of a failure. -/
def Outcome.spared (m : Message) : Except Failure Outcome → Outcome
  | .ok outcome => outcome
  | .error _ => .discard m none

/-- A handler that cannot fail. -/
def Handler.Safe (handler : Handler) : Prop :=
  handler = Handler.bridge ∨ ∃ level category, handler = Handler.log level category

/-- What a stage does with a message inside some of its advice: the handler, and the advice that is
left around it. -/
def FlowStage.inner (stage : FlowStage) (chain : List Advice) (m : Message) : Run Outcome :=
  stage.endpoint.handler.advised chain stage.endpoint.info m

/-- A stage that drops the messages it would fail for, with a chain of advice inside, or one that
cannot fail. Tracing may be around either. -/
inductive FlowStage.Contained (stage : FlowStage) (chain : List Advice) : Prop where
  | skips (outer : List Advice) : (∀ advice ∈ outer, advice = Advice.tracing) →
      stage.endpoint.advice = outer ++ ErrorStrategy.skip.advice :: chain → Contained stage chain
  | safe : (∀ advice ∈ stage.endpoint.advice, advice = Advice.tracing) →
      stage.endpoint.handler.Safe → chain = [] → Contained stage chain

section Stages

variable {stage : FlowStage} {chain : List Advice} {info : StageInfo} {m : Message}
  {proceed : Message → Run Outcome} {w v : World} {result : Except Failure Outcome}

theorem writes_self (w : World) : w.Writes w :=
  ⟨w.journal, rfl⟩

theorem writes_trans {u : World} (h : w.Writes u) (h' : u.Writes v) : w.Writes v := by
  obtain ⟨_, rfl⟩ := h
  obtain ⟨entries, rfl⟩ := h'
  exact ⟨entries, rfl⟩

theorem exec_tracing (h : (Advice.tracing info m proceed).exec w = some (result, v)) :
    ∃ u u', w.Writes u ∧ (proceed m).exec u = some (result, u') ∧ u'.Writes v := by
  rw [Advice.tracing, Run.exec_bind, Run.exec_log] at h
  have hstart : w.Writes { w with journal := w.journal.push (.logged (.received info m.id)) } :=
    ⟨_, rfl⟩
  generalize { w with journal := w.journal.push (.logged (.received info m.id)) } = u at h hstart
  dsimp only at h
  rw [Run.exec_bind, Run.exec_attempt] at h
  cases hproceed : (proceed m).exec u with
  | none => simp [hproceed] at h
  | some ended =>
    obtain ⟨result', u'⟩ := ended
    cases result' with
    | ok outcome =>
      simp only [hproceed, Option.map_some, Run.exec_bind, Run.exec_log, Run.exec_pure] at h
      cases h
      exact ⟨u, u', hstart, hproceed, _, rfl⟩
    | error failure =>
      simp only [hproceed, Option.map_some, Run.exec_bind, Run.exec_log, Run.exec_throw] at h
      cases h
      exact ⟨u, u', hstart, hproceed, _, rfl⟩

/-- Any amount of tracing only writes to the journal. -/
theorem exec_traced {handler : Handler} {outer : List Advice}
    (houter : ∀ advice ∈ outer, advice = Advice.tracing)
    (h : (handler.advised outer info m).exec w = some (result, v)) :
    ∃ u u', w.Writes u ∧ (handler info m).exec u = some (result, u') ∧ u'.Writes v := by
  induction outer generalizing w v with
  | nil => exact ⟨w, v, writes_self w, h, writes_self v⟩
  | cons advice outer ih =>
    rw [List.forall_mem_cons] at houter
    obtain ⟨rfl, houter⟩ := houter
    obtain ⟨u, u', hu, hexec, hu'⟩ := exec_tracing h
    obtain ⟨t, t', ht, hexec', ht'⟩ := ih houter hexec
    exact ⟨t, t', writes_trans hu ht, hexec', writes_trans ht' hu'⟩

/-- A stage inside `skip` drops a message instead of a failure. -/
theorem exec_skip (h : (ErrorStrategy.skip.advice info m proceed).exec w = some (result, v)) :
    ∃ result' u, (proceed m).exec w = some (result', u) ∧
      result = .ok (Outcome.spared m result') ∧ u.Writes v := by
  rw [ErrorStrategy.advice, Run.exec_loop, ErrorStrategy.attempt, Run.exec_bind,
    Run.exec_attempt] at h
  cases hproceed : (proceed m).exec w with
  | none => simp [hproceed] at h
  | some ended =>
    obtain ⟨result', u⟩ := ended
    cases result' with
    | ok outcome =>
      simp only [hproceed, Option.map_some, Run.exec_pure] at h
      cases h
      exact ⟨_, v, rfl, rfl, writes_self v⟩
    | error failure =>
      simp only [hproceed, Option.map_some, ErrorStrategy.decide, Run.exec_bind, Run.exec_pure,
        Run.exec_log] at h
      cases h
      exact ⟨_, u, rfl, rfl, _, rfl⟩

/-- A stage that is contained ends as what is inside does, but for a failure. -/
theorem exec_contained (hstage : stage.Contained chain)
    (h : (stage.endpoint.invoke m).exec w = some (result, v)) :
    ∃ u result' u', w.Writes u ∧ (stage.inner chain m).exec u = some (result', u') ∧
      result = .ok (Outcome.spared m result') ∧ u'.Writes v := by
  unfold Endpoint.invoke at h
  cases hstage with
  | skips outer houter hadvice =>
    rw [hadvice, Handler.advised_append] at h
    obtain ⟨u, u', hu, hskips, hu'⟩ := exec_traced houter h
    obtain ⟨result', u'', hinner, hresult, hu''⟩ := exec_skip hskips
    exact ⟨u, result', u'', hu, hinner, hresult, writes_trans hu'' hu'⟩
  | safe htracing hsafe hchain =>
    subst hchain
    obtain ⟨u, u', hu, hexec, hu'⟩ := exec_traced htracing h
    have hok : ∃ outcome, result = .ok outcome := by
      rcases hsafe with hbridge | ⟨level, category, hlog⟩
      · rw [hbridge] at hexec
        cases hexec
        exact ⟨_, rfl⟩
      · rw [hlog] at hexec
        cases hexec
        exact ⟨_, rfl⟩
    obtain ⟨outcome, rfl⟩ := hok
    exact ⟨u, _, u', hu, hexec, rfl, hu'⟩

end Stages

/-! ## Calls -/

/-- A call whose stage has `skip` as the first advice that is given to it. A bridge and a stage that
logs need none. -/
inductive Factory.Lenient (f : Factory) : Prop where
  | skips (chain : List Advice) : f.options.advice = ErrorStrategy.skip.advice :: chain → Lenient f
  | bridge (spec : EndpointSpec) : f = .bridge spec → spec.advice = [] → Lenient f
  | log (level : Level) (category : String) : f = .log level category → Lenient f

/-- The stage of such a call is contained, whether tracing is around it or not. -/
theorem contained_of_made {stage : FlowStage} {f : Factory} (hmade : stage.MadeBy f)
    (h : f.Lenient) : stage.Contained f.options.advice.tail := by
  obtain ⟨r, flow, config, index, hrequest, he⟩ := hmade
  have hhandler : stage.endpoint.handler = r.handler := congrArg Endpoint.handler he
  have hadvice : ∃ outer, (∀ advice ∈ outer, advice = Advice.tracing) ∧
      stage.endpoint.advice = outer ++ f.options.advice := by
    have hchain : stage.endpoint.advice = if config.logStages then Advice.tracing :: r.spec.advice
        else r.spec.advice := congrArg Endpoint.advice he
    rw [hchain, Factory.options_of_request hrequest]
    cases config.logStages with
    | true => exact ⟨[Advice.tracing], by simp, rfl⟩
    | false => exact ⟨[], by simp, rfl⟩
  obtain ⟨outer, houter, hadvice⟩ := hadvice
  cases h with
  | skips chain hchain =>
    rw [hchain] at hadvice ⊢
    exact .skips outer houter hadvice
  | bridge spec hf hspec =>
    subst hf
    cases hrequest
    have hnone : (Factory.bridge spec).options.advice = [] := hspec
    rw [hnone] at hadvice ⊢
    rw [List.append_nil] at hadvice
    exact .safe (hadvice ▸ houter) (.inl hhandler) rfl
  | log level category hf =>
    subst hf
    cases hrequest
    have hnone : (Factory.log level category).options.advice = [] := rfl
    rw [hnone] at hadvice ⊢
    rw [List.append_nil] at hadvice
    exact .safe (hadvice ▸ houter) (.inr ⟨level, category, hhandler⟩) rfl

/-- So are the stages of bridges that connect channels: nothing is around them but tracing. -/
theorem hasBridges_lenient : HasBridges Factory.Lenient :=
  fun _ => .bridge _ rfl rfl

/-! ## A dispatch -/

namespace Runner

variable {r : Runner} {w v : World} {failure : Failure}

/-- What no stage can keep to itself. -/
def Loose (failure : Failure) : Prop :=
  failure.kind = .destination ∨ failure.kind = .channelClosed

theorem loose_of_emissions {stage : FlowStage} {outcome : Outcome}
    (h : r.emissions stage outcome = .error failure) : Loose failure := by
  cases outcome with
  | route decision =>
    unfold emissions at h
    dsimp only at h
    split at h
    · cases h
    · cases hfallback : decision.fallback with
      | some ref => simp [hfallback] at h
      | none =>
        cases hrequired : decision.required with
        | false => simp [hfallback, hrequired] at h
        | true =>
          simp only [hfallback, hrequired, if_true] at h
          cases h
          exact .inl rfl
  | _ => cases h

theorem loose_of_accepts {p : Parcel} (h : r.accepts w p = .error failure) : Loose failure := by
  unfold accepts at h
  cases hresolve : r.channels.resolve (r.destination p) with
  | none =>
    simp only [hresolve] at h
    cases h
    exact .inl rfl
  | some live =>
    simp only [hresolve, LiveRef.accepts] at h
    split at h
    · cases h
      exact .inr rfl
    · cases h

/-- The stages of a flow keep their failures to themselves. -/
def Contained (r : Runner) : Prop :=
  ∀ stage ∈ r.flow.stages, ∃ chain, stage.Contained chain

theorem loose_of_perform (hr : r.Contained) {a : Act}
    (ha : ∀ stage m, a = .invoke stage m → stage ∈ r.flow.stages)
    (h : (r.perform a).exec w = some (.error failure, v)) : Loose failure := by
  cases fails_of_perform h with
  | invoked stage m u hinvoke =>
    obtain ⟨chain, hstage⟩ := hr stage (ha stage m rfl)
    obtain ⟨_, _, _, _, _, hok, _⟩ := exec_contained hstage hinvoke
    cases hok
  | stranded stage m outcome u _ hemissions => exact loose_of_emissions hemissions
  | undelivered p haccepts => exact loose_of_accepts haccepts

/-- Whatever stops a dispatch is something that no stage can keep to itself. -/
theorem loose_of_work (hr : r.Contained) {parcels : List Parcel}
    (h : (Work.run r.visit parcels).exec w = some (.error failure, v)) : Loose failure := by
  cases worked_of_exec h with
  | failed emitted before a after _ u _ hacts _ hfails =>
    refine loose_of_perform hr (fun stage m ha => ?_) hfails
    have hmem : a ∈ (parcels ++ emitted).flatMap r.acts := by
      rw [hacts]
      exact List.mem_append_right before List.mem_cons_self
    exact mem_stages_of_flatMap (ha ▸ hmem)

end Runner

end MessageFlow
