import MessageFlow.Proofs.Dispatch.Acts
import MessageFlow.Proofs.Dispatch.Returns

/-!
# What runs keep

`Keeps` says of a run what `Returns` says of it, but only in case the run ends. It is what can be
said where a stage function may go on for ever, or where it is nobody's business whether it does:
`keeps_bind` and `keeps_loop` need no measure. A dispatch keeps what its stages and its deliveries
keep (`keeps_work`).
-/

namespace MessageFlow

variable [PayloadTypes]

/-- A run that, if it ends, leaves a world that is related to the one before it, and has a good
result unless it fails. -/
def Run.Keeps {α : Type} (kept : World → World → Prop) (good : α → Prop) (r : Run α) : Prop :=
  ∀ w result v, r.exec w = some (result, v) → kept w v ∧ ∀ a, result = .ok a → good a

section Runs

variable {α β σ : Type} {kept : World → World → Prop} {good : α → Prop} {good' : β → Prop}
  {r : Run α}

/-- What returns within a frame keeps it. -/
theorem keeps_of_returns (h : r.Returns kept good) : r.Keeps kept good := by
  intro w result v hexec
  obtain ⟨result', v', hexec', hkept, hgood⟩ := h w
  rw [hexec] at hexec'
  cases hexec'
  exact ⟨hkept, hgood⟩

/-- Nothing is said of the world or of the result. -/
theorem keeps_anything (r : Run α) : r.Keeps (fun _ _ => True) fun _ => True :=
  fun _ _ _ _ => ⟨trivial, fun _ _ => trivial⟩

/-- Every result is one that the run has somewhere. -/
theorem keeps_exec (r : Run α) :
    r.Keeps (fun _ _ => True) fun a => ∃ w v, r.exec w = some (.ok a, v) := by
  intro w result v hexec
  refine ⟨trivial, fun a ha => ⟨w, v, ?_⟩⟩
  rw [hexec, ha]

/-- A value keeps whatever there is to be kept. -/
theorem keeps_pure (hkept : Frame kept) {a : α} (h : good a) : (pure a : Run α).Keeps kept good :=
  keeps_of_returns (returns_pure hkept h)

theorem keeps_throw (hkept : Frame kept) (failure : Failure) :
    (throw failure : Run α).Keeps kept good :=
  keeps_of_returns (returns_throw hkept failure)

theorem keeps_log (hkept : Frame kept) (event : LogEvent) :
    (Run.log event).Keeps kept fun _ => True :=
  keeps_of_returns (returns_log hkept event)

/-- One step after the other. -/
theorem keeps_bind (hkept : Frame kept) {f : α → Run β} (h : r.Keeps kept good)
    (hf : ∀ a, good a → (f a).Keeps kept good') : (r >>= f).Keeps kept good' := by
  intro w result v hexec
  rw [Run.exec_bind] at hexec
  split at hexec
  · next a u hfirst =>
    obtain ⟨hu, hgood⟩ := h w _ u hfirst
    obtain ⟨hv, hresult⟩ := hf a (hgood a rfl) u result v hexec
    exact ⟨hkept.trans w u v hu hv, hresult⟩
  · next failure u hfirst =>
    cases hexec
    exact ⟨(h w _ _ hfirst).1, nofun⟩
  · cases hexec

theorem keeps_reply (hkept : Frame kept) (m : Message) (payload : Payload) :
    (Run.reply m payload).Keeps kept fun reply =>
      ∃ id now, reply = m.replaced id now payload := by
  intro w result v hexec
  simp only [Run.reply, Run.freshId, Run.exec_bind, Run.exec_get, Run.exec_set, Run.exec_pure,
    Run.exec_look] at hexec
  cases hexec
  refine ⟨hkept.issued w _, fun reply hreply => ?_⟩
  cases hreply
  exact ⟨_, _, rfl⟩

/-- An attempt keeps what is kept by what it attempts. -/
theorem keeps_attempt (h : r.Keeps kept good) :
    (Run.attempt r).Keeps kept fun result => ∀ a, result = .ok a → good a := by
  intro w shown v hexec
  rw [Run.exec_attempt, Option.map_eq_some_iff] at hexec
  obtain ⟨⟨result, u⟩, hrun, he⟩ := hexec
  cases he
  obtain ⟨hu, hresult⟩ := h w result u hrun
  refine ⟨hu, fun result' hresult' => ?_⟩
  cases hresult'
  exact hresult

/-- A loop keeps what each of its steps keeps. -/
theorem keeps_loop (hkept : Frame kept) {step : σ → Run (σ ⊕ β)}
    (h : ∀ s, (step s).Keeps kept fun next => ∀ b, next = .inr b → good' b) (s : σ) :
    (Run.loop step s).Keeps kept good' := by
  intro w result v hexec
  refine Run.loop_induction
    (motive := fun _ w result v => kept w v ∧ ∀ b, result = .ok b → good' b) ?_ ?_ ?_ hexec
  · intro s w b v hstep
    obtain ⟨hv, hend⟩ := h s w _ v hstep
    refine ⟨hv, fun b' hb' => ?_⟩
    cases hb'
    exact hend _ rfl b rfl
  · intro s w failure v hstep
    exact ⟨(h s w _ v hstep).1, nofun⟩
  · intro s w s' u result v hstep hrest
    exact ⟨hkept.trans w u v (h s w _ u hstep).1 hrest.1, hrest.2⟩

end Runs

/-! ## Advice -/

/-- The advice that the library itself has. -/
inductive Advice.BuiltIn : Advice → Prop where
  | tracing : BuiltIn Advice.tracing
  | strategy (strategy : ErrorStrategy) : BuiltIn strategy.advice

section Advice

variable {kept : World → World → Prop} {good : Outcome → Prop}

/-- Tracing keeps what is kept by what it traces. -/
theorem keeps_tracing (hkept : Frame kept) {stage : StageInfo} {m : Message}
    {proceed : Message → Run Outcome} (h : (proceed m).Keeps kept good) :
    (Advice.tracing stage m proceed).Keeps kept good := by
  refine keeps_bind hkept (keeps_log hkept _) fun _ _ => ?_
  refine keeps_bind hkept (keeps_attempt h) fun result hresult => ?_
  cases result with
  | error failure =>
    exact keeps_bind hkept (keeps_log hkept _) fun _ _ => keeps_throw hkept failure
  | ok outcome =>
    exact keeps_bind hkept (keeps_log hkept _) fun _ _ =>
      keeps_pure hkept (hresult outcome rfl)

/-- A strategy has the outcome of one attempt, or drops the message. -/
theorem keeps_strategy (hkept : Frame kept) {strategy : ErrorStrategy}
    (hdecide : ∀ failure retries, (strategy.decide failure retries).Keeps kept fun _ => True)
    {stage : StageInfo} {m : Message} {proceed : Message → Run Outcome}
    (h : (proceed m).Keeps kept good) (hdrop : good (.discard m none)) :
    (strategy.advice stage m proceed).Keeps kept good := by
  refine keeps_loop hkept (fun retries => ?_) 0
  refine keeps_bind hkept (keeps_attempt h) fun result hresult => ?_
  cases result with
  | ok outcome =>
    refine keeps_pure hkept fun b hb => ?_
    cases hb
    exact hresult outcome rfl
  | error failure =>
    refine keeps_bind hkept (hdecide failure retries) fun action _ => ?_
    cases action with
    | stop => exact keeps_throw hkept failure
    | skip =>
      refine keeps_bind hkept (keeps_log hkept _) fun _ _ => keeps_pure hkept fun b hb => ?_
      cases hb
      exact hdrop
    | retry =>
      refine keeps_bind hkept (keeps_log hkept _) fun _ _ => keeps_pure hkept fun b hb => ?_
      cases hb

/-- Built-in advice has an outcome of the handler inside, or drops the message. -/
theorem keeps_advised {handler : Handler} {chain : List Advice} {info : StageInfo} {m : Message}
    (hchain : ∀ advice ∈ chain, advice.BuiltIn)
    (h : (handler info m).Keeps (fun _ _ => True) good) (hdrop : good (.discard m none)) :
    (handler.advised chain info m).Keeps (fun _ _ => True) good := by
  induction chain with
  | nil => exact h
  | cons advice chain ih =>
    rw [List.forall_mem_cons] at hchain
    rw [Handler.advised_cons]
    have hrest := ih hchain.2
    cases hchain.1 with
    | tracing => exact keeps_tracing frame_true hrest
    | strategy strategy =>
      exact keeps_strategy frame_true (fun _ _ => keeps_anything _) hrest hdrop

end Advice

/-! ## Dispatch -/

namespace Runner

variable {kept : World → World → Prop} {r : Runner}

/-- A delivery keeps what sending keeps. -/
theorem keeps_deliver (hkept : Frame kept)
    (hsend : ∀ live m, (Run.send live m).Keeps kept fun _ => True) (p : Parcel) :
    (r.deliver p).Keeps kept fun _ => True := by
  rw [deliver_eq]
  unfold Runner.resolve
  cases r.channels.resolve (r.destination p) with
  | none => exact keeps_bind hkept (keeps_throw hkept _) fun _ (_ : True) => hsend _ _
  | some live => exact keeps_bind hkept (keeps_pure hkept trivial) fun _ (_ : True) => hsend _ _

/-- Forwarding keeps whatever there is to be kept. -/
theorem keeps_forward (hkept : Frame kept) (stage : FlowStage) (outcome : Outcome) :
    (r.forward stage outcome).Keeps kept fun _ => True := by
  intro w result v hexec
  obtain ⟨entries, hforward⟩ := exec_forward r stage outcome w
  rw [hexec] at hforward
  cases hforward
  exact ⟨hkept.journal w entries, fun _ _ => trivial⟩

/-- An act keeps what stages and deliveries keep. -/
theorem keeps_perform (hkept : Frame kept)
    (hsend : ∀ live m, (Run.send live m).Keeps kept fun _ => True) {a : Act}
    (hstages : ∀ stage m, a = .invoke stage m →
      (stage.endpoint.invoke m).Keeps kept fun _ => True) :
    (r.perform a).Keeps kept fun _ => True := by
  cases a with
  | invoke stage m =>
    exact keeps_bind hkept (hstages stage m rfl) fun outcome _ => keeps_forward hkept stage outcome
  | deliver p =>
    exact keeps_bind hkept (keeps_deliver hkept hsend p) fun _ _ => keeps_pure hkept trivial

/-- So do many acts. -/
theorem keeps_performAll (hkept : Frame kept)
    (hsend : ∀ live m, (Run.send live m).Keeps kept fun _ => True) {as : List Act}
    (hstages : ∀ stage m, .invoke stage m ∈ as →
      (stage.endpoint.invoke m).Keeps kept fun _ => True) :
    (r.performAll as).Keeps kept fun _ => True := by
  induction as with
  | nil => exact keeps_pure hkept trivial
  | cons a as ih =>
    have hfirst : ∀ stage m, a = .invoke stage m →
        (stage.endpoint.invoke m).Keeps kept fun _ => True :=
      fun stage m ha => hstages stage m (by simp [ha])
    refine keeps_bind hkept (keeps_perform hkept hsend hfirst) fun _ _ => ?_
    refine keeps_bind hkept (ih fun stage m hmem => hstages stage m (by simp [hmem])) fun _ _ => ?_
    exact keeps_pure hkept trivial

/-- A dispatch keeps what its stages and its deliveries keep. -/
theorem keeps_work (hkept : Frame kept)
    (hsend : ∀ live m, (Run.send live m).Keeps kept fun _ => True)
    (hstages : ∀ stage ∈ r.flow.stages, ∀ m,
      (stage.endpoint.invoke m).Keeps kept fun _ => True) (parcels : List Parcel) :
    (Work.run r.visit parcels).Keeps kept fun _ => True := by
  have hvisit : ∀ p, (r.visit p).Keeps kept fun _ => True := by
    intro p
    rw [visit_eq]
    refine keeps_performAll hkept hsend fun stage m hmem => ?_
    exact hstages stage (List.mem_filter.1 (mem_consumers_of_acts hmem)).1 m
  refine keeps_loop hkept (fun tasks => ?_) parcels
  cases tasks with
  | nil => exact keeps_pure hkept fun _ _ => trivial
  | cons p rest =>
    refine keeps_bind hkept (hvisit p) fun _ _ => keeps_pure hkept fun _ _ => trivial

/-- So does sending a message whose failure is only logged. -/
theorem keeps_sendLogged (hkept : Frame kept)
    (hsend : ∀ live m, (Run.send live m).Keeps kept fun _ => True)
    (hstages : ∀ stage ∈ r.flow.stages, ∀ m,
      (stage.endpoint.invoke m).Keeps kept fun _ => True) (m : Message) :
    (r.sendLogged m).Keeps kept fun _ => True := by
  refine keeps_bind hkept (keeps_attempt (keeps_work hkept hsend hstages _)) fun result _ => ?_
  cases result with
  | ok => exact keeps_pure hkept trivial
  | error failure => exact keeps_log hkept _

end Runner

end MessageFlow
