import MessageFlow.Proofs.Composer.Made
import MessageFlow.Proofs.Tracing.Alike

/-!
# Stages that do not see what is traced

The functions, judges and advice that a flow is given act on the world, and could read what tracing
wrote there. `Blind` says of each that it does not. An advice may call what comes after it as often
as it likes, or not at all, and do with its failures whatever it likes; it must only not tell apart
continuations that cannot be told apart.

A stage with blind functions and blind advice is blind (`blind_invoke`), and does the same with
tracing around it (`alike_tracing`). Tracing itself is blind (`blind_tracing`), and so is a strategy
whose judge is (`blind_strategy`).
-/

namespace MessageFlow

variable [PayloadTypes]

open Run

/-! ## Handlers -/

/-- The functions of a stage are blind. -/
def Factory.CallsBlind : Factory → Prop
  | .transform _ _ f _ => ∀ v, (f v).Blind
  | .transformPayload _ f => ∀ v, (f v).Blind
  | .filter _ accepts _ => ∀ v, (accepts v).Blind
  | .filterPayload _ accepts => ∀ v, (accepts v).Blind
  | .split _ _ f _ => ∀ v, (f v).Blind
  | .route _ _ f _ => ∀ v, (f v).Blind
  | .handle _ f _ => ∀ v, (f v).Blind
  | .convert .. | .convertTo _ | .bridge _ | .log .. => True

section Handlers

variable {stage : StageInfo} {m : Message}

/-- The type of a payload has nothing to do with traces. -/
theorem blind_expect (stage : StageInfo) (input : DataType) (m : Message) :
    (Run.expect stage input m).Blind := by
  unfold Run.expect
  cases m.payload.as? input with
  | some value => exact alike_pure rfl
  | none => exact alike_throw _

theorem blind_check (stage : StageInfo) (input : DataType) (m : Message) :
    (Handler.check stage input m).Blind := by
  unfold Handler.check
  cases m.payload.is input with
  | true => exact alike_pure rfl
  | false => exact alike_throw _

theorem blind_replaced (m : Message) (payload : Payload) :
    (do return .reply (← Run.reply m payload) : Run Outcome).Blind :=
  alike_then (blind_reply m payload) fun _ => alike_pure rfl

/-- A rejection has nothing to do with traces. -/
theorem blind_reject (rejection : Rejection) : (Handler.reject rejection stage m).Blind := by
  unfold Handler.reject
  cases rejection.raises with
  | true => exact alike_throw _
  | false => exact alike_then (blind_log _) fun _ => alike_pure rfl

/-- A message is sifted whatever was traced, if the predicate does not look. -/
theorem blind_sift {accepts : Run Bool} (haccepts : accepts.Blind) (rejection : Rejection) :
    (do if ← accepts then return .reply m else Handler.reject rejection stage m :
      Run Outcome).Blind := by
  refine alike_then haccepts fun accepted => ?_
  cases accepted with
  | true => exact alike_pure rfl
  | false => exact blind_reject rejection

/-- The parts of a message have nothing to do with traces. -/
theorem blind_parts (whole : Message) (sequenced : Bool) (size number : Nat)
    (payloads : List Payload) : (Handler.parts whole sequenced size number payloads).Blind := by
  induction payloads generalizing number with
  | nil => exact alike_pure rfl
  | cons payload payloads ih =>
    exact alike_then (blind_reply whole payload) fun _ =>
      alike_then (ih (number + 1)) fun _ => alike_pure rfl

/-- Conversions have nothing to do with traces. -/
theorem blind_convert (target : ConvertTarget) : (target.handler stage m).Blind := by
  unfold ConvertTarget.handler
  cases m.payload.is target.type with
  | true => exact alike_pure rfl
  | false =>
    cases target.convert m.payload with
    | error failure => exact alike_throw failure
    | ok value =>
      exact alike_then (blind_log _) fun _ =>
        alike_then (blind_reply m _) fun _ => alike_pure rfl

/-- What a stage of blind functions does is blind. -/
theorem blind_of_request {f : Factory} {r : StageRequest} (hrequest : f.request = .ok r)
    (hf : f.CallsBlind) (stage : StageInfo) (m : Message) : (r.handler stage m).Blind := by
  cases f with
  | transform input output f spec =>
    cases hrequest
    refine alike_then (blind_expect stage input m) fun value => ?_
    refine alike_then (hf value) fun result => ?_
    cases result with
    | error cause => exact alike_throw _
    | ok result => exact blind_replaced m _
  | transformPayload input f =>
    cases input with
    | none => cases hrequest
    | some type =>
      cases hrequest
      exact alike_then (blind_check stage type m) fun _ =>
        alike_then (hf m.payload) fun result => blind_replaced m result
  | filter input accepts spec =>
    cases hrequest
    exact alike_then (blind_expect stage input m) fun value =>
      blind_sift (hf value) spec.rejection
  | filterPayload input accepts =>
    cases input with
    | none => cases hrequest
    | some type =>
      cases hrequest
      exact alike_then (blind_check stage type m) fun _ => blind_sift (hf m.payload) .drop
  | split input item f spec =>
    cases hrequest
    refine alike_then (blind_expect stage input m) fun value => ?_
    refine alike_then (hf value) fun items => ?_
    exact alike_then (blind_parts m spec.sequenced items.length 1 _) fun _ => alike_pure rfl
  | route input key f spec =>
    cases hrequest
    refine alike_then (blind_expect stage input m) fun value => ?_
    refine alike_then (hf value) fun k => ?_
    exact alike_then (blind_log _) fun _ => alike_pure rfl
  | convert target spec =>
    cases hrequest
    exact blind_convert target
  | convertTo type =>
    cases type with
    | none => cases hrequest
    | some type =>
      rw [Factory.request] at hrequest
      split at hrequest
      · next target _ =>
        cases hrequest
        exact blind_convert target
      · cases hrequest
  | handle input f spec =>
    cases hrequest
    exact alike_then (blind_expect stage input m) fun value =>
      alike_then (hf value) fun _ => alike_pure rfl
  | bridge spec =>
    cases hrequest
    exact alike_pure rfl
  | log level category =>
    cases hrequest
    exact alike_then (blind_log _) fun _ => alike_pure rfl

end Handlers

/-! ## Advice -/

/-- An advice that does not see what is traced, neither by itself nor by what it goes on with. -/
def Advice.Blind (advice : Advice) : Prop :=
  ∀ stage m (proceed proceed' : Message → Run Outcome),
    (∀ m, (proceed m).Alike (· = ·) (proceed' m)) →
      (advice stage m proceed).Alike (· = ·) (advice stage m proceed')

section Advice

variable {stage : StageInfo} {m : Message} {proceed proceed' : Message → Run Outcome}

/-- A failure that is shown and then passed on might as well not have been shown. -/
theorem attempt_rethrow {α : Type} (r : Run α) :
    (attempt r >>= fun
      | .ok a => pure a
      | .error failure => throw failure) = r := by
  refine ext_exec fun w => ?_
  rw [exec_bind, exec_attempt]
  rcases r.exec w with _ | ⟨_ | a, v⟩ <;> rfl

/-- Tracing around a continuation cannot be told from the continuation. -/
theorem alike_tracing (h : (proceed m).Alike (· = ·) (proceed' m)) :
    (proceed m).Alike (· = ·) (Advice.tracing stage m proceed') := by
  -- The continuation alone is put into the form that it has inside the tracing.
  rw [← attempt_rethrow (proceed m)]
  refine alike_traced rfl (alike_then (alike_attempt h) fun result => ?_)
  cases result with
  | ok outcome => exact alike_traced rfl (alike_pure rfl)
  | error failure => exact alike_traced rfl (alike_throw failure)

/-- Tracing does not read what was traced. -/
theorem blind_tracing : Advice.tracing.Blind := by
  intro stage m proceed proceed' h
  refine alike_then (blind_log _) fun _ => alike_then (alike_attempt (h m)) fun result => ?_
  cases result with
  | ok outcome => exact alike_then (blind_log _) fun _ => alike_pure rfl
  | error failure => exact alike_then (blind_log _) fun _ => alike_throw failure

/-- Retries are counted alike on both sides. -/
theorem blind_strategy {strategy : ErrorStrategy}
    (hstrategy : ∀ failure retries, (strategy.decide failure retries).Blind) :
    strategy.advice.Blind := by
  intro stage m proceed proceed' h
  refine alike_loop (· = ·) (fun retries _ hretries => ?_) rfl
  subst hretries
  -- The judge is asked on both sides with the same failure and the same number.
  refine alike_bind (alike_attempt (h m)) fun result _ hresult => ?_
  subst hresult
  cases result with
  | ok outcome => exact alike_pure (.inr rfl)
  | error failure =>
    refine alike_bind (hstrategy failure retries) fun action _ haction => ?_
    subst haction
    cases action with
    | stop => exact alike_throw failure
    | skip => exact alike_bind (blind_log _) fun _ _ _ => alike_pure (.inr rfl)
    | retry => exact alike_bind (blind_log _) fun _ _ _ => alike_pure (.inl rfl)

/-- A chain of advice does not look at traces if none of it does. -/
theorem blind_advised {handler : Handler} {chain : List Advice}
    (hhandler : ∀ m, (handler stage m).Blind) (hchain : ∀ advice ∈ chain, advice.Blind)
    (m : Message) : (handler.advised chain stage m).Blind := by
  induction chain generalizing m with
  | nil => exact hhandler m
  | cons advice chain ih =>
    rw [List.forall_mem_cons] at hchain
    exact hchain.1 stage m _ _ fun m => ih hchain.2 m

end Advice

/-! ## Stages -/

/-- A call whose functions and advice are blind. -/
structure Factory.Blind (f : Factory) : Prop where
  functions : f.CallsBlind
  advice : ∀ advice ∈ f.options.advice, advice.Blind

/-- A call that appends no stage, or one with blind functions and blind advice. -/
def Call.Blind (c : Call) : Prop :=
  ∀ f, c = .stage f → f.Blind

theorem hasBridges_blind : HasBridges Factory.Blind :=
  fun _ => ⟨trivial, fun _ hadvice => nomatch hadvice⟩

/-- What a stage made by a blind call does is blind. -/
theorem blind_invoke {stage : FlowStage} {f : Factory} (hmade : stage.MadeBy f) (hf : f.Blind)
    (m : Message) : (stage.endpoint.invoke m).Blind := by
  obtain ⟨r, hrequest, hhandler, -⟩ := hmade.endpoint
  unfold Endpoint.invoke
  rw [hhandler]
  refine blind_advised (fun m => blind_of_request hrequest hf.functions _ m) ?_ m
  intro advice hadvice
  rcases hmade.advice_cases hadvice with rfl | hspec
  · exact blind_tracing
  · exact hf.advice advice hspec

end MessageFlow
