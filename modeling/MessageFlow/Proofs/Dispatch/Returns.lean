import MessageFlow.Proofs.Composer.Sketch

/-!
# Stages that return

Nothing keeps a stage function, or an advice that tries again, from going on for ever. `Returns` is
about runs that do not: they end in every world, and keep what a relation between the worlds before
and after says. It goes along with `>>=` (`returns_bind`) and with loops that come closer to an end
(`returns_loop`), so a stage returns if the functions behind it do.

What a stage returns sends messages to its output, or to a channel that the outcome names. Only
filters and routers name any, and these are the ones that their options give them
(`returns_of_request`).
-/

namespace MessageFlow

variable [PayloadTypes]

/-- A relation between the worlds before and after a run. Fresh ids and lines in the journal make no
difference to it. -/
structure Frame (kept : World → World → Prop) : Prop where
  refl : ∀ w, kept w w
  trans : ∀ u v w, kept u v → kept v w → kept u w
  issued : ∀ w n, kept w { w with issued := n }
  journal : ∀ w entries, kept w { w with journal := entries }

/-- Anything may happen to a world without a frame. -/
theorem frame_true : Frame fun _ _ => True :=
  ⟨fun _ => trivial, fun _ _ _ _ _ => trivial, fun _ _ => trivial, fun _ _ => trivial⟩

/-- A run that ends in every world, leaves one that is related to it, and has a good result unless
it fails. -/
def Run.Returns {α : Type} (kept : World → World → Prop) (good : α → Prop) (r : Run α) : Prop :=
  ∀ w, ∃ result v, r.exec w = some (result, v) ∧ kept w v ∧ ∀ a, result = .ok a → good a

section Runs

variable {α β σ : Type} {kept : World → World → Prop} {good : α → Prop} {good' : β → Prop}
  {r : Run α}

/-- What returns with something returns with what follows from it. -/
theorem returns_mono {weaker : α → Prop} (h : r.Returns kept good)
    (hgood : ∀ a, good a → weaker a) : r.Returns kept weaker := by
  intro w
  obtain ⟨result, v, hexec, hv, hresult⟩ := h w
  exact ⟨result, v, hexec, hv, fun a ha => hgood a (hresult a ha)⟩

/-- A value returns. -/
theorem returns_pure (hkept : Frame kept) {a : α} (h : good a) :
    (pure a : Run α).Returns kept good := by
  intro w
  refine ⟨.ok a, w, rfl, hkept.refl w, fun a' ha' => ?_⟩
  cases ha'
  exact h

/-- A failure returns. -/
theorem returns_throw (hkept : Frame kept) (failure : Failure) :
    (throw failure : Run α).Returns kept good :=
  fun w => ⟨.error failure, w, rfl, hkept.refl w, nofun⟩

/-- One step after the other. -/
theorem returns_bind (hkept : Frame kept) {f : α → Run β} (h : r.Returns kept good)
    (hf : ∀ a, good a → (f a).Returns kept good') : (r >>= f).Returns kept good' := by
  intro w
  obtain ⟨result, u, hexec, hu, hresult⟩ := h w
  cases result with
  | error failure => exact ⟨.error failure, u, by simp [hexec], hu, nofun⟩
  | ok a =>
    obtain ⟨result', v, hexec', hv, hresult'⟩ := hf a (hresult a rfl) u
    exact ⟨result', v, by simp [hexec, hexec'], hkept.trans w u v hu hv, hresult'⟩

theorem returns_log (hkept : Frame kept) (event : LogEvent) :
    (Run.log event).Returns kept fun _ => True :=
  fun w => ⟨.ok (), _, Run.exec_log event w, hkept.journal w _, fun _ _ => trivial⟩

/-- A reply is made and returns. -/
theorem returns_reply (hkept : Frame kept) (m : Message) (payload : Payload) :
    (Run.reply m payload).Returns kept fun _ => True := by
  intro w
  refine ⟨.ok (m.replaced (.fresh w.issued) w.clock payload), { w with issued := w.issued + 1 },
    ?_, hkept.issued w _, fun _ _ => trivial⟩
  simp [Run.reply, Run.freshId, Except.map]

/-- An attempt returns if what it attempts does. -/
theorem returns_attempt (h : r.Returns kept good) :
    (Run.attempt r).Returns kept fun result => ∀ a, result = .ok a → good a := by
  intro w
  obtain ⟨result, v, hexec, hv, hresult⟩ := h w
  refine ⟨.ok result, v, by simp [hexec], hv, fun shown hshown => ?_⟩
  cases hshown
  exact hresult

/-- A loop ends if every step that does not end it comes closer to an end. -/
theorem returns_loop (hkept : Frame kept) {step : σ → Run (σ ⊕ β)} (size : σ → Nat)
    (h : ∀ s, (step s).Returns kept fun next =>
      (∀ s', next = .inl s' → size s' < size s) ∧ ∀ b, next = .inr b → good' b) (s : σ) :
    (Run.loop step s).Returns kept good' := by
  induction hsize : size s using Nat.strongRecOn generalizing s with
  | ind n ih =>
    rw [Run.loop_eq]
    refine returns_bind hkept (h s) fun next hnext => ?_
    cases next with
    | inl s' => exact ih (size s') (hsize ▸ hnext.1 s' rfl) s' rfl
    | inr b => exact returns_pure hkept (hnext.2 b rfl)

end Runs

/-! ## Handlers -/

/-- The channels that an outcome names besides the output of its stage. -/
def Outcome.targets : Outcome → List ChannelRef
  | .discard _ channel => channel.toList
  | .route decision => decision.channel :: decision.fallback.toList
  | _ => []

/-- An outcome that names allowed channels only. -/
def Outcome.Within (allowed : ChannelRef → Prop) (outcome : Outcome) : Prop :=
  ∀ ref ∈ outcome.targets, allowed ref

/-- A handler that returns, and names allowed channels only. -/
def Handler.Returns (kept : World → World → Prop) (allowed : ChannelRef → Prop)
    (handler : Handler) : Prop :=
  ∀ stage m, (handler stage m).Returns kept (Outcome.Within allowed)

section Handlers

variable {kept : World → World → Prop} {allowed : ChannelRef → Prop} {stage : StageInfo}

/-- An outcome that names no channel stays within any. -/
theorem within_of_targets {outcome : Outcome} (h : outcome.targets = []) :
    outcome.Within allowed := by
  intro ref href
  rw [h] at href
  cases href

theorem within_reply (m : Message) : Outcome.Within allowed (.reply m) :=
  within_of_targets rfl

/-- Looking at the type of a payload returns. -/
theorem returns_expect (hkept : Frame kept) (input : DataType) (m : Message) :
    (Run.expect stage input m).Returns kept fun _ => True := by
  unfold Run.expect
  cases m.payload.as? input with
  | some value => exact returns_pure hkept trivial
  | none => exact returns_throw hkept _

theorem returns_check (hkept : Frame kept) (input : DataType) (m : Message) :
    (Handler.check stage input m).Returns kept fun _ => True := by
  unfold Handler.check
  cases m.payload.is input with
  | true => exact returns_pure hkept trivial
  | false => exact returns_throw hkept _

/-- A rejected message goes to the channel of the filter, if anywhere. -/
theorem returns_reject (hkept : Frame kept) (rejection : Rejection) :
    (Handler.reject rejection).Returns kept fun ref => rejection.channel = some ref := by
  intro stage m
  unfold Handler.reject
  cases rejection.raises with
  | true => exact returns_throw hkept _
  | false =>
    refine returns_bind hkept (returns_log hkept _) fun _ _ => returns_pure hkept ?_
    intro ref href
    exact Option.mem_toList.1 href

/-- A rejection that is decided by a run that returns. -/
theorem returns_sift (hkept : Frame kept) {accepts : Run Bool}
    (haccepts : accepts.Returns kept fun _ => True) (rejection : Rejection) (m : Message) :
    (do if ← accepts then return .reply m else Handler.reject rejection stage m :
      Run Outcome).Returns kept (Outcome.Within fun ref => rejection.channel = some ref) := by
  refine returns_bind hkept haccepts fun accepted _ => ?_
  cases accepted with
  | true => exact returns_pure hkept (within_reply m)
  | false => exact returns_reject hkept rejection stage m

/-- Making the parts of a message returns. -/
theorem returns_parts (hkept : Frame kept) (whole : Message) (sequenced : Bool)
    (size number : Nat) (payloads : List Payload) :
    (Handler.parts whole sequenced size number payloads).Returns kept fun _ => True := by
  induction payloads generalizing number with
  | nil => exact returns_pure hkept trivial
  | cons payload payloads ih =>
    refine returns_bind hkept (returns_reply hkept whole payload) fun _ _ => ?_
    exact returns_bind hkept (ih (number + 1)) fun _ _ => returns_pure hkept trivial

/-- Converting a message returns, and names no channel. -/
theorem returns_convert (hkept : Frame kept) (target : ConvertTarget) :
    target.handler.Returns kept allowed := by
  intro stage m
  unfold ConvertTarget.handler
  cases m.payload.is target.type with
  | true => exact returns_pure hkept (within_reply m)
  | false =>
    cases target.convert m.payload with
    | error failure => exact returns_throw hkept failure
    | ok value =>
      refine returns_bind hkept (returns_log hkept _) fun _ _ => ?_
      refine returns_bind hkept (returns_reply hkept m _) fun reply _ => ?_
      exact returns_pure hkept (within_reply _)

/-- The functions of a stage return. -/
def Factory.Returns (kept : World → World → Prop) : Factory → Prop
  | .transform _ _ f _ => ∀ v, (f v).Returns kept fun _ => True
  | .transformPayload _ f => ∀ v, (f v).Returns kept fun _ => True
  | .filter _ accepts _ => ∀ v, (accepts v).Returns kept fun _ => True
  | .filterPayload _ accepts => ∀ v, (accepts v).Returns kept fun _ => True
  | .split _ _ f _ => ∀ v, (f v).Returns kept fun _ => True
  | .route _ _ f _ => ∀ v, (f v).Returns kept fun _ => True
  | .handle _ f _ => ∀ v, (f v).Returns kept fun _ => True
  | .convert .. | .convertTo _ | .bridge _ | .log .. => True

/-- The channels that the options of a stage name besides its output: the one for what a filter
rejects, those of a router's keys, and the one that it falls back on. -/
def Factory.Names (ref : ChannelRef) : Factory → Prop
  | .filter _ _ spec => spec.rejection.channel = some ref
  | .route _ key _ spec =>
    (∃ k : key.denote, spec.routing.channelFor k = ref) ∨ spec.routing.fallback = some ref
  | _ => False

/-- A stage returns if its functions do, and names no channels but those in its options. -/
theorem returns_of_request (hkept : Frame kept) {factory : Factory} {r : StageRequest}
    (hrequest : factory.request = .ok r) (h : factory.Returns kept) :
    r.handler.Returns kept fun ref => factory.Names ref := by
  intro stage m
  cases factory with
  | transform input output f spec =>
    cases hrequest
    refine returns_bind hkept (returns_expect hkept input m) fun value _ => ?_
    refine returns_bind hkept (h value) fun result _ => ?_
    cases result with
    | error cause => exact returns_throw hkept _
    | ok result =>
      exact returns_bind hkept (returns_reply hkept m _) fun reply _ =>
        returns_pure hkept (within_reply reply)
  | transformPayload input f =>
    cases input with
    | none => cases hrequest
    | some type =>
      cases hrequest
      refine returns_bind hkept (returns_check hkept type m) fun _ _ => ?_
      refine returns_bind hkept (h m.payload) fun payload _ => ?_
      exact returns_bind hkept (returns_reply hkept m payload) fun reply _ =>
        returns_pure hkept (within_reply reply)
  | filter input accepts spec =>
    cases hrequest
    refine returns_bind hkept (returns_expect hkept input m) fun value _ => ?_
    exact returns_sift hkept (h value) spec.rejection m
  | filterPayload input accepts =>
    cases input with
    | none => cases hrequest
    | some type =>
      cases hrequest
      refine returns_bind hkept (returns_check hkept type m) fun _ _ => ?_
      refine returns_mono (returns_sift hkept (h m.payload) .drop m) fun _ hwithin ref href => ?_
      have hnone : none = some ref := hwithin ref href
      cases hnone
  | split input item f spec =>
    cases hrequest
    refine returns_bind hkept (returns_expect hkept input m) fun value _ => ?_
    refine returns_bind hkept (h value) fun items _ => ?_
    refine returns_bind hkept (returns_parts hkept m spec.sequenced items.length 1 _) fun ms _ => ?_
    exact returns_pure hkept (within_of_targets rfl)
  | route input key f spec =>
    cases hrequest
    refine returns_bind hkept (returns_expect hkept input m) fun value _ => ?_
    refine returns_bind hkept (h value) fun k _ => ?_
    refine returns_bind hkept (returns_log hkept _) fun _ _ => returns_pure hkept ?_
    intro ref href
    rcases List.mem_cons.1 href with rfl | hfallback
    · exact .inl ⟨k, rfl⟩
    · exact .inr (Option.mem_toList.1 hfallback)
  | convert target spec =>
    cases hrequest
    exact returns_convert hkept target stage m
  | convertTo type =>
    cases type with
    | none => cases hrequest
    | some type =>
      rw [Factory.request] at hrequest
      split at hrequest
      · next target _ =>
        cases hrequest
        exact returns_convert hkept target stage m
      · cases hrequest
  | handle input f spec =>
    cases hrequest
    refine returns_bind hkept (returns_expect hkept input m) fun value _ => ?_
    exact returns_bind hkept (h value) fun _ _ => returns_pure hkept (within_of_targets rfl)
  | bridge spec =>
    cases hrequest
    exact returns_pure hkept (within_reply m)
  | log level category =>
    cases hrequest
    exact returns_bind hkept (returns_log hkept _) fun _ _ => returns_pure hkept (within_reply m)

end Handlers

/-! ## Advice -/

/-- Advice that returns if what it is wrapped around does, and names no channels of its own. -/
def Advice.Returns (kept : World → World → Prop) (advice : Advice) : Prop :=
  ∀ (allowed : ChannelRef → Prop) (stage : StageInfo) (m : Message)
    (proceed : Message → Run Outcome),
    (∀ m, (proceed m).Returns kept (Outcome.Within allowed)) →
    (advice stage m proceed).Returns kept (Outcome.Within allowed)

section Advice

variable {kept : World → World → Prop}

/-- Tracing returns if what it traces does. -/
theorem returns_tracing (hkept : Frame kept) : Advice.tracing.Returns kept := by
  intro allowed stage m proceed h
  refine returns_bind hkept (returns_log hkept _) fun _ _ => ?_
  refine returns_bind hkept (returns_attempt (h m)) fun result hresult => ?_
  cases result with
  | error failure =>
    exact returns_bind hkept (returns_log hkept _) fun _ _ => returns_throw hkept failure
  | ok outcome =>
    exact returns_bind hkept (returns_log hkept _) fun _ _ =>
      returns_pure hkept (hresult outcome rfl)

/-- A strategy that decides, and does not try again after so many retries. -/
def ErrorStrategy.Tires (kept : World → World → Prop) (limit : Nat) (strategy : ErrorStrategy) :
    Prop :=
  ∀ failure retries, (strategy.decide failure retries).Returns kept fun action =>
    action = .retry → retries < limit

/-- Whoever stops at a failure never tries again. -/
theorem tires_stop (hkept : Frame kept) : ErrorStrategy.stop.Tires kept 0 :=
  fun _ _ => returns_pure hkept nofun

/-- Whoever skips a message never tries again. -/
theorem tires_skip (hkept : Frame kept) : ErrorStrategy.skip.Tires kept 0 :=
  fun _ _ => returns_pure hkept nofun

/-- Whoever retries does so as often as he may, and no more. -/
theorem tires_retry (hkept : Frame kept) (limit : Nat) :
    (ErrorStrategy.retry limit).Tires kept limit := by
  intro failure retries
  refine returns_pure hkept fun haction => ?_
  by_cases hlt : retries < limit
  · exact hlt
  · rw [if_neg hlt] at haction
    cases haction

/-- A strategy that tires returns if what it tries does. -/
theorem returns_strategy (hkept : Frame kept) {strategy : ErrorStrategy} {limit : Nat}
    (hstrategy : strategy.Tires kept limit) : strategy.advice.Returns kept := by
  intro allowed stage m proceed h
  refine returns_loop hkept (fun retries => limit - retries) (fun retries => ?_) 0
  refine returns_bind hkept (returns_attempt (h m)) fun result hresult => ?_
  cases result with
  | ok outcome =>
    refine returns_pure hkept ⟨nofun, fun b hb => ?_⟩
    cases hb
    exact hresult outcome rfl
  | error failure =>
    refine returns_bind hkept (hstrategy failure retries) fun action haction => ?_
    cases action with
    | stop => exact returns_throw hkept failure
    | skip =>
      refine returns_bind hkept (returns_log hkept _) fun _ _ => returns_pure hkept ⟨nofun, ?_⟩
      intro outcome houtcome ref href
      cases houtcome
      cases href
    | retry =>
      have hlt : retries < limit := haction rfl
      refine returns_bind hkept (returns_log hkept _) fun _ _ => returns_pure hkept ⟨?_, ?_⟩
      · intro retries' hretries'
        cases hretries'
        omega
      · intro outcome houtcome
        cases houtcome

/-- A chain of advice around a handler. -/
theorem returns_advised {allowed : ChannelRef → Prop} {handler : Handler} {chain : List Advice}
    (h : handler.Returns kept allowed) (hchain : ∀ advice ∈ chain, advice.Returns kept) :
    (handler.advised chain).Returns kept allowed := by
  induction chain with
  | nil => exact h
  | cons advice chain ih =>
    rw [List.forall_mem_cons] at hchain
    intro stage m
    exact hchain.1 allowed stage m _ (ih hchain.2 stage)

/-- A stage that was appended for a call returns if the functions and the advice it was given do,
and names no channels but those in its options. -/
theorem returns_invoke (hkept : Frame kept) {f : Factory} {r : StageRequest}
    (hrequest : f.request = .ok r) (h : f.Returns kept)
    (hadvice : ∀ advice ∈ r.spec.advice, advice.Returns kept) (flow : String)
    (config : FlowConfig) (index : Nat) {e : Endpoint}
    (he : e.unwired = r.endpoint flow config index none) (m : Message) :
    (e.invoke m).Returns kept (Outcome.Within fun ref => f.Names ref) := by
  have hhandler : e.handler = r.handler := congrArg Endpoint.handler he
  have hchain : e.advice = if config.logStages then Advice.tracing :: r.spec.advice
      else r.spec.advice := congrArg Endpoint.advice he
  refine returns_advised (hhandler ▸ returns_of_request hkept hrequest h) ?_ e.info m
  rw [hchain]
  split
  · rw [List.forall_mem_cons]
    exact ⟨returns_tracing hkept, hadvice⟩
  · exact hadvice

end Advice

end MessageFlow
