import MessageFlow.Proofs.Dispatch.Answers
import MessageFlow.Proofs.Dispatch.Headers
import MessageFlow.Proofs.Dispatch.Outcomes

/-!
# Runs that mirror each other

Two runs in two worlds, compared. `Mirrored` says that if the one run ends, so does the other, and
that they end alike, whatever the worlds; channels and runners are as before on either side. It goes
along with `>>=` (`mirrored_bind`) and with loops (`mirrored_loop`), and unlike `Follows` it says
something of runs that go on for ever: then neither of the two ends.

A run that mirrors itself is stateless. What a stage of stateless functions makes of two messages
that differ in nothing but their ids, their times and their reply channels (`Message.guise`) differs
in nothing else either (`mirrored_invoke`).
-/

namespace MessageFlow

/-- Two runs end alike: with values that are related, or with failures of one face. -/
inductive Agree {α β : Type} (related : α → β → Prop) :
    Except Failure α → Except Failure β → Prop where
  | ok {a : α} {b : β} : related a b → Agree related (.ok a) (.ok b)
  | error {failure failure' : Failure} : failure.face = failure'.face →
      Agree related (.error failure) (.error failure')

/-- Results that agree agree in what follows from it. -/
theorem agree_mono {α β : Type} {related weaker : α → β → Prop} {result : Except Failure α}
    {result' : Except Failure β} (h : Agree related result result')
    (hweaker : ∀ a b, related a b → weaker a b) : Agree weaker result result' := by
  cases h with
  | ok hrelated => exact .ok (hweaker _ _ hrelated)
  | error hface => exact .error hface

variable [PayloadTypes]

/-- What a message carries, whenever it was made and whoever is to have the reply. It still shows
whether the message is a part of another one, but not of which. -/
def Message.guise (m : Message) : Message :=
  { id := .fresh 0
    payload := m.payload
    headers :=
      { m.headers with
        timestamp := 0
        replyChannel := none
        correlationId := m.headers.correlationId.map fun _ => .fresh 0 } }

/-- What stateless functions leave alone: channels, and what the runners do. -/
def World.Still (w v : World) : Prop :=
  v.channels = w.channels ∧ w.Steady v

theorem frame_still : Frame World.Still where
  refl w := ⟨rfl, frame_steady.refl w⟩
  trans u v w h h' := ⟨h'.1.trans h.1, frame_steady.trans u v w h.2 h'.2⟩
  issued w n := ⟨rfl, frame_steady.issued w n⟩
  journal w entries := ⟨rfl, frame_steady.journal w entries⟩

/-- If the first run ends, in whatever world, the second one ends alike, in whatever world. -/
def Run.Mirrored {α β : Type} (related : α → β → Prop) (r : Run α) (r' : Run β) : Prop :=
  ∀ w w' result v, r.exec w = some (result, v) →
    ∃ result' v', r'.exec w' = some (result', v') ∧ Agree related result result' ∧
      w.Still v ∧ w'.Still v'

/-- A run that ends alike in all worlds in which it ends at all, and it ends in all of them or in
none. -/
def Run.Stateless {α : Type} (r : Run α) : Prop :=
  r.Mirrored (· = ·) r

section Runs

variable {α β γ δ σ τ : Type} {related : α → β → Prop} {related' : γ → δ → Prop}
  {r : Run α} {r' : Run β}

/-- Values that are related mirror each other. -/
theorem mirrored_pure {a : α} {b : β} (h : related a b) :
    (pure a : Run α).Mirrored related (pure b) := by
  intro w w' result v hexec
  cases hexec
  exact ⟨.ok b, w', rfl, .ok h, frame_still.refl w, frame_still.refl w'⟩

/-- Failures that look alike mirror each other. -/
theorem mirrored_throw {failure failure' : Failure} (h : failure.face = failure'.face) :
    (throw failure : Run α).Mirrored related (throw failure') := by
  intro w w' result v hexec
  cases hexec
  exact ⟨.error failure', w', rfl, .error h, frame_still.refl w, frame_still.refl w'⟩

/-- One step after the other. -/
theorem mirrored_bind {f : α → Run γ} {f' : β → Run δ} (h : r.Mirrored related r')
    (hf : ∀ a b, related a b → (f a).Mirrored related' (f' b)) :
    (r >>= f).Mirrored related' (r' >>= f') := by
  intro w w' result v hexec
  rw [Run.exec_bind] at hexec
  split at hexec
  · next a u hfirst =>
    obtain ⟨first', u', hfirst', hagree, hu, hu'⟩ := h w w' _ u hfirst
    cases hagree with
    | @ok a b hrelated =>
      obtain ⟨result', v', hexec', hresult, hv, hv'⟩ := hf a b hrelated u u' result v hexec
      refine ⟨result', v', by simp [hfirst', hexec'], hresult, ?_, ?_⟩
      · exact frame_still.trans w u v hu hv
      · exact frame_still.trans w' u' v' hu' hv'
  · next failure u hfirst =>
    cases hexec
    obtain ⟨first', u', hfirst', hagree, hu, hu'⟩ := h w w' _ _ hfirst
    cases hagree with
    | @error failure failure' hface =>
      exact ⟨.error failure', u', by simp [hfirst'], .error hface, hu, hu'⟩
  · cases hexec

/-- Log events mirror each other, whatever they are. -/
theorem mirrored_log (event event' : LogEvent) :
    (Run.log event).Mirrored (fun _ _ => True) (Run.log event') := by
  intro w w' result v hexec
  cases hexec
  exact ⟨.ok (), _, Run.exec_log event' w', .ok trivial, frame_still.journal w _,
    frame_still.journal w' _⟩

/-- Two replies mirror each other up to their ids and times. -/
theorem mirrored_reply (m m' : Message) (payload payload' : Payload) :
    (Run.reply m payload).Mirrored
      (fun reply reply' => (∃ id now, reply = m.replaced id now payload) ∧
        ∃ id now, reply' = m'.replaced id now payload') (Run.reply m' payload') := by
  intro w w' result v hexec
  simp only [Run.reply, Run.freshId, Run.exec_bind, Run.exec_get, Run.exec_set, Run.exec_pure,
    Run.exec_look] at hexec
  cases hexec
  refine ⟨.ok (m'.replaced (.fresh w'.issued) w'.clock payload'),
    { w' with issued := w'.issued + 1 }, ?_, .ok ⟨⟨_, _, rfl⟩, _, _, rfl⟩, frame_still.issued w _,
    frame_still.issued w' _⟩
  simp [Run.reply, Run.freshId, Except.map]

/-- Attempts mirror each other if what they attempt does. -/
theorem mirrored_attempt (h : r.Mirrored related r') :
    (Run.attempt r).Mirrored (Agree related) (Run.attempt r') := by
  intro w w' shown v hexec
  rw [Run.exec_attempt, Option.map_eq_some_iff] at hexec
  obtain ⟨⟨result, u⟩, hrun, he⟩ := hexec
  cases he
  obtain ⟨result', u', hrun', hagree, hu, hu'⟩ := h w w' result u hrun
  exact ⟨.ok result', u', by simp [hrun'], .ok hagree, hu, hu'⟩

/-- Loops mirror each other if their steps do, as long as they go on. -/
theorem mirrored_loop {step : σ → Run (σ ⊕ α)} {step' : τ → Run (τ ⊕ β)}
    (alike : σ → τ → Prop)
    (h : ∀ s t, alike s t → (step s).Mirrored (Sum.LiftRel alike related) (step' t)) {s : σ} {t : τ}
    (hstart : alike s t) : (Run.loop step s).Mirrored related (Run.loop step' t) := by
  intro w w' result v hexec
  refine Run.loop_induction (motive := fun s w result v => ∀ t, alike s t → ∀ w',
    ∃ result' v', (Run.loop step' t).exec w' = some (result', v') ∧
      Agree related result result' ∧ w.Still v ∧ w'.Still v') ?_ ?_ ?_ hexec t hstart w'
  · intro s w a v hstep t halike w'
    obtain ⟨next', v', hstep', hagree, hv, hv'⟩ := h s t halike w w' _ v hstep
    cases hagree with
    | ok hnext =>
      cases hnext with
      | inr hrelated =>
        exact ⟨.ok _, v', by rw [Run.exec_loop, hstep'], .ok hrelated, hv, hv'⟩
  · intro s w failure v hstep t halike w'
    obtain ⟨next', v', hstep', hagree, hv, hv'⟩ := h s t halike w w' _ v hstep
    cases hagree with
    | error hface => exact ⟨.error _, v', by rw [Run.exec_loop, hstep'], .error hface, hv, hv'⟩
  · intro s w s' u result v hstep ih t halike w'
    obtain ⟨next', u', hstep', hagree, hu, hu'⟩ := h s t halike w w' _ u hstep
    cases hagree with
    | ok hnext =>
      cases hnext with
      | @inl s' t' halike' =>
        obtain ⟨result', v', hexec', hresult, hv, hv'⟩ := ih t' halike' u'
        refine ⟨result', v', by rw [Run.exec_loop, hstep']; exact hexec', hresult, ?_, ?_⟩
        · exact frame_still.trans w u v hu hv
        · exact frame_still.trans w' u' v' hu' hv'

end Runs

/-! ## Handlers -/

/-- The functions of a stage are stateless. -/
def Factory.Stateless : Factory → Prop
  | .transform _ _ f _ => ∀ v, (f v).Stateless
  | .transformPayload _ f => ∀ v, (f v).Stateless
  | .filter _ accepts _ => ∀ v, (accepts v).Stateless
  | .filterPayload _ accepts => ∀ v, (accepts v).Stateless
  | .split _ _ f _ => ∀ v, (f v).Stateless
  | .route _ _ f _ => ∀ v, (f v).Stateless
  | .handle _ f _ => ∀ v, (f v).Stateless
  | .convert .. | .convertTo _ | .bridge _ | .log .. => True

/-- Outcomes that show the same. -/
def Outcome.Looks (outcome outcome' : Outcome) : Prop :=
  outcome.shown Message.guise = outcome'.shown Message.guise

section Handlers

variable {stage : StageInfo} {m m' : Message}

/-- A new message has the guise of the old one, with another payload. -/
theorem guise_replaced (m : Message) (id : MessageId) (now : Nat) (payload : Payload) :
    (m.replaced id now payload).guise = { m.guise with payload := payload } := rfl

/-- A part has the guise of a part. -/
theorem guise_asPart (m : Message) (whole : MessageId) (number size : Nat) :
    (m.asPart whole number size).guise = m.guise.asPart (.fresh 0) number size := rfl

theorem guise_withoutContentType (m : Message) :
    m.withoutContentType.guise = m.guise.withoutContentType := rfl

/-- Messages of one guise have one payload. -/
theorem payload_eq_of_guise (h : m.guise = m'.guise) : m.payload = m'.payload := by
  have hpayload : m.guise.payload = m'.guise.payload := by rw [h]
  exact hpayload

theorem looks_reply (h : m.guise = m'.guise) : (Outcome.reply m).Looks (.reply m') :=
  congrArg Outcome.reply h

theorem looks_discard (h : m.guise = m'.guise) (channel : Option ChannelRef) :
    (Outcome.discard m channel).Looks (.discard m' channel) :=
  congrArg (Outcome.discard · channel) h

/-- Messages of one guise are of the expected type, or neither is. -/
theorem mirrored_expect (h : m.guise = m'.guise) (input : DataType) :
    (Run.expect stage input m).Mirrored (· = ·) (Run.expect stage input m') := by
  unfold Run.expect
  rw [payload_eq_of_guise h]
  cases m'.payload.as? input with
  | some value => exact mirrored_pure rfl
  | none => exact mirrored_throw rfl

theorem mirrored_check (h : m.guise = m'.guise) (input : DataType) :
    (Handler.check stage input m).Mirrored (· = ·) (Handler.check stage input m') := by
  unfold Handler.check
  rw [payload_eq_of_guise h]
  cases m'.payload.is input with
  | true => exact mirrored_pure rfl
  | false => exact mirrored_throw rfl

/-- A reply shows its payload, and what the message showed besides. -/
theorem mirrored_replaced (h : m.guise = m'.guise) (payload : Payload) :
    (do return .reply (← Run.reply m payload) : Run Outcome).Mirrored Outcome.Looks
      (do return .reply (← Run.reply m' payload)) := by
  refine mirrored_bind (mirrored_reply m m' payload payload) fun reply reply' hreplies => ?_
  obtain ⟨⟨id, now, rfl⟩, id', now', rfl⟩ := hreplies
  refine mirrored_pure (looks_reply ?_)
  rw [guise_replaced, guise_replaced, h]

/-- Two messages are sifted alike by predicates that mirror each other. -/
theorem mirrored_sift {accepts accepts' : Run Bool} (haccepts : accepts.Mirrored (· = ·) accepts')
    (h : m.guise = m'.guise) (rejection : Rejection) :
    (do if ← accepts then return .reply m else Handler.reject rejection stage m :
      Run Outcome).Mirrored Outcome.Looks
      (do if ← accepts' then return .reply m' else Handler.reject rejection stage m') := by
  refine mirrored_bind haccepts fun accepted _ haccepted => ?_
  subst haccepted
  cases accepted with
  | true => exact mirrored_pure (looks_reply h)
  | false =>
    simp only [Bool.false_eq_true, if_false, Handler.reject]
    cases rejection.raises with
    | true => exact mirrored_throw rfl
    | false =>
      exact mirrored_bind (mirrored_log _ _) fun _ _ _ =>
        mirrored_pure (looks_discard h rejection.channel)

/-- The parts of two messages look alike, one by one. -/
theorem mirrored_parts (h : m.guise = m'.guise) (sequenced : Bool) (size number : Nat)
    (payloads : List Payload) :
    (Handler.parts m sequenced size number payloads).Mirrored
      (fun ms ms' => ms.map Message.guise = ms'.map Message.guise)
      (Handler.parts m' sequenced size number payloads) := by
  induction payloads generalizing number with
  | nil => exact mirrored_pure rfl
  | cons payload payloads ih =>
    refine mirrored_bind (mirrored_reply m m' payload payload) fun part part' hparts => ?_
    refine mirrored_bind (ih (number + 1)) fun rest rest' hrest => mirrored_pure ?_
    obtain ⟨⟨id, now, rfl⟩, id', now', rfl⟩ := hparts
    have hreplaced : (m.replaced id now payload).guise = (m'.replaced id' now' payload).guise := by
      rw [guise_replaced, guise_replaced, h]
    rw [List.map_cons, List.map_cons, hrest]
    cases sequenced with
    | true =>
      simp only [if_true]
      rw [guise_asPart, guise_asPart, hreplaced]
    | false =>
      simp only [Bool.false_eq_true, if_false]
      rw [hreplaced]

/-- Two messages of one guise are converted alike. -/
theorem mirrored_convert (h : m.guise = m'.guise) (target : ConvertTarget) :
    (target.handler stage m).Mirrored Outcome.Looks (target.handler stage m') := by
  unfold ConvertTarget.handler
  rw [payload_eq_of_guise h]
  cases m'.payload.is target.type with
  | true => exact mirrored_pure (looks_reply h)
  | false =>
    cases target.convert m'.payload with
    | error failure => exact mirrored_throw rfl
    | ok value =>
      refine mirrored_bind (mirrored_log _ _) fun _ _ _ => ?_
      refine mirrored_bind (mirrored_reply m m' _ _) fun reply reply' hreplies =>
        mirrored_pure (looks_reply ?_)
      obtain ⟨⟨id, now, rfl⟩, id', now', rfl⟩ := hreplies
      rw [guise_withoutContentType, guise_withoutContentType, guise_replaced, guise_replaced, h]

/-- A stage of stateless functions makes of messages that show the same what shows the same. -/
theorem mirrored_of_request {f : Factory} {r : StageRequest} (hrequest : f.request = .ok r)
    (hf : f.Stateless) (h : m.guise = m'.guise) :
    (r.handler stage m).Mirrored Outcome.Looks (r.handler stage m') := by
  cases f with
  | transform input output f spec =>
    cases hrequest
    refine mirrored_bind (mirrored_expect h input) fun value _ hvalue => ?_
    subst hvalue
    refine mirrored_bind (hf value) fun result _ hresult => ?_
    subst hresult
    cases result with
    | error cause => exact mirrored_throw rfl
    | ok result => exact mirrored_replaced h _
  | transformPayload input f =>
    cases input with
    | none => cases hrequest
    | some type =>
      cases hrequest
      refine mirrored_bind (mirrored_check h type) fun _ _ _ => ?_
      rw [payload_eq_of_guise h]
      refine mirrored_bind (hf m'.payload) fun payload _ hpayload => ?_
      subst hpayload
      exact mirrored_replaced h payload
  | filter input accepts spec =>
    cases hrequest
    refine mirrored_bind (mirrored_expect h input) fun value _ hvalue => ?_
    subst hvalue
    exact mirrored_sift (hf value) h spec.rejection
  | filterPayload input accepts =>
    cases input with
    | none => cases hrequest
    | some type =>
      cases hrequest
      refine mirrored_bind (mirrored_check h type) fun _ _ _ => ?_
      rw [payload_eq_of_guise h]
      exact mirrored_sift (hf m'.payload) h .drop
  | split input item f spec =>
    cases hrequest
    refine mirrored_bind (mirrored_expect h input) fun value _ hvalue => ?_
    subst hvalue
    refine mirrored_bind (hf value) fun items _ hitems => ?_
    subst hitems
    refine mirrored_bind (mirrored_parts h spec.sequenced items.length 1 _) fun ms ms' hms =>
      mirrored_pure ?_
    exact congrArg Outcome.many hms
  | route input key f spec =>
    cases hrequest
    refine mirrored_bind (mirrored_expect h input) fun value _ hvalue => ?_
    subst hvalue
    refine mirrored_bind (hf value) fun k _ hk => ?_
    subst hk
    refine mirrored_bind (mirrored_log _ _) fun _ _ _ => mirrored_pure ?_
    exact congrArg (fun g => Outcome.route ⟨g, spec.routing.channelFor k, spec.routing.fallback,
      spec.routing.required⟩) h
  | convert target spec =>
    cases hrequest
    exact mirrored_convert h target
  | convertTo type =>
    cases type with
    | none => cases hrequest
    | some type =>
      rw [Factory.request] at hrequest
      split at hrequest
      · next target _ =>
        cases hrequest
        exact mirrored_convert h target
      · cases hrequest
  | handle input f spec =>
    cases hrequest
    refine mirrored_bind (mirrored_expect h input) fun value _ hvalue => ?_
    subst hvalue
    exact mirrored_bind (hf value) fun _ _ _ => mirrored_pure rfl
  | bridge spec =>
    cases hrequest
    exact mirrored_pure (looks_reply h)
  | log level category =>
    cases hrequest
    exact mirrored_bind (mirrored_log _ _) fun _ _ _ => mirrored_pure (looks_reply h)

end Handlers

/-! ## Advice -/

/-- A strategy that decides by the face of a failure and the number of retries alone. -/
def ErrorStrategy.Stateless (strategy : ErrorStrategy) : Prop :=
  ∀ failure failure' retries, failure.face = failure'.face →
    (strategy.decide failure retries).Mirrored (· = ·) (strategy.decide failure' retries)

/-- Built-in advice, with strategies that are stateless. -/
inductive Advice.Stateless : Advice → Prop where
  | tracing : Advice.Stateless Advice.tracing
  | strategy (strategy : ErrorStrategy) : strategy.Stateless → Advice.Stateless strategy.advice

theorem Advice.Stateless.builtIn {advice : Advice} (h : advice.Stateless) : advice.BuiltIn := by
  cases h with
  | tracing => exact .tracing
  | strategy strategy _ => exact .strategy strategy

section Advice

variable {stage : StageInfo} {m m' : Message} {proceed proceed' : Message → Run Outcome}

/-- Tracing makes no difference to what looks alike. -/
theorem mirrored_tracing (h : (proceed m).Mirrored Outcome.Looks (proceed' m')) :
    (Advice.tracing stage m proceed).Mirrored Outcome.Looks
      (Advice.tracing stage m' proceed') := by
  refine mirrored_bind (mirrored_log _ _) fun _ _ _ => ?_
  refine mirrored_bind (mirrored_attempt h) fun result result' hagree => ?_
  cases hagree with
  | ok hlooks => exact mirrored_bind (mirrored_log _ _) fun _ _ _ => mirrored_pure hlooks
  | error hface => exact mirrored_bind (mirrored_log _ _) fun _ _ _ => mirrored_throw hface

/-- Retries are counted alike, so either both are tried again or neither is. -/
theorem mirrored_strategy {strategy : ErrorStrategy} (hstrategy : strategy.Stateless)
    (hm : m.guise = m'.guise) (h : (proceed m).Mirrored Outcome.Looks (proceed' m')) :
    (strategy.advice stage m proceed).Mirrored Outcome.Looks
      (strategy.advice stage m' proceed') := by
  refine mirrored_loop (· = ·) (fun retries _ hretries => ?_) rfl
  subst hretries
  refine mirrored_bind (mirrored_attempt h) fun result result' hagree => ?_
  cases hagree with
  | ok hlooks => exact mirrored_pure (.inr hlooks)
  | @error failure failure' hface =>
    refine mirrored_bind (hstrategy failure failure' retries hface) fun action _ haction => ?_
    subst haction
    cases action with
    | stop => exact mirrored_throw hface
    | skip =>
      exact mirrored_bind (mirrored_log _ _) fun _ _ _ =>
        mirrored_pure (.inr (looks_discard hm none))
    | retry => exact mirrored_bind (mirrored_log _ _) fun _ _ _ => mirrored_pure (.inl rfl)

/-- Handlers that mirror each other do so under any stateless advice. -/
theorem mirrored_advised {handler : Handler} {chain : List Advice} (hm : m.guise = m'.guise)
    (h : (handler stage m).Mirrored Outcome.Looks (handler stage m'))
    (hchain : ∀ advice ∈ chain, advice.Stateless) :
    (handler.advised chain stage m).Mirrored Outcome.Looks (handler.advised chain stage m') := by
  induction chain with
  | nil => exact h
  | cons advice chain ih =>
    rw [List.forall_mem_cons] at hchain
    rw [Handler.advised_cons]
    have hrest := ih hchain.2
    cases hchain.1 with
    | tracing => exact mirrored_tracing hrest
    | strategy strategy hstrategy => exact mirrored_strategy hstrategy hm hrest

end Advice

/-- A stage that was appended for a call with stateless functions, and whose advice is built in and
stateless. -/
structure FlowStage.Stateless (stage : FlowStage) : Prop where
  made : ∃ f, stage.MadeBy f ∧ f.Stateless
  advice : ∀ advice ∈ stage.endpoint.advice, advice.Stateless

/-- What a stateless stage makes of messages that show the same shows the same. -/
theorem mirrored_invoke {stage : FlowStage} (hstage : stage.Stateless) {m m' : Message}
    (h : m.guise = m'.guise) :
    (stage.endpoint.invoke m).Mirrored Outcome.Looks (stage.endpoint.invoke m') := by
  obtain ⟨f, hmade, hf⟩ := hstage.made
  obtain ⟨r, hrequest, hhandler, -⟩ := hmade.endpoint
  unfold Endpoint.invoke
  rw [hhandler]
  exact mirrored_advised h (mirrored_of_request hrequest hf h) hstage.advice

end MessageFlow
