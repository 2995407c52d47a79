import MessageFlow.Proofs.Dispatch.Stages

/-!
# What stages produce

`Stateless` says that what a stage produces is a function of what a view shows of a message. Unlike
`Computes` it is about whole outcomes, so also about stages that send messages elsewhere: a filter
with a channel for what it rejects, or a router. The stages that the functions below belong to are
stateless for all messages, whether they ask for a reply or not.
-/

namespace MessageFlow

variable [PayloadTypes]

/-- An outcome as a view of messages shows it. -/
def Outcome.shown (view : Message → Message) : Outcome → Outcome
  | .reply m => .reply (view m)
  | .many ms => .many (ms.map view)
  | .discard m channel => .discard (view m) channel
  | .route decision => .route { decision with message := view decision.message }
  | .done => .done

/-- A stage that is a function of what a view shows of a message, and touches no channel. -/
def Stateless {E : Type} (view : Message → Message) (blame : Failure → E)
    (stage : Message → Run Outcome) (f : Message → Except E Outcome) : Prop :=
  ∀ m, Follows blame (fun outcome shown => outcome.shown view = shown) (stage m) (f (view m))

/-- The message that bears nothing but a face. -/
def Message.ofFace (v : Payload × Headers) : Message :=
  ⟨.fresh 0, v.1, v.2⟩

/-- What a message carries, as a message. -/
def Message.faced (m : Message) : Message :=
  .ofFace m.face

section Stages

variable {stage : StageInfo}

theorem stateless_bridge {E : Type} (view : Message → Message) (blame : Failure → E) :
    Stateless view blame (Handler.bridge stage) fun m => .ok (.reply m) :=
  fun _ => follows_pure rfl

/-- What a filter makes of a message. -/
def sifted (stage : StageInfo) (input : DataType) (g : input.denote → Except Failure Bool)
    (rejection : Rejection) (m : Message) : Except Failure Outcome := do
  let value ← expected stage input m.payload
  if ← g value then return .reply m
  else if rejection.raises then throw (.rejected stage m.id)
  else return .discard m rejection.channel

theorem stateless_filter (input : DataType) {f : input.denote → Run Bool}
    {g : input.denote → Except Failure Bool} (hf : AmountsTo f g) (rejection : Rejection) :
    Stateless Message.faced Failure.face (Handler.filter input f rejection stage)
      (sifted stage input g rejection) := by
  intro m
  refine follows_bind follows_expect fun value _ hvalue => ?_
  subst hvalue
  refine follows_bind (hf value) fun accepted _ haccepted => ?_
  subst haccepted
  cases accepted with
  | true => exact follows_pure rfl
  | false =>
    simp only [Bool.false_eq_true, if_false, Handler.reject]
    cases rejection.raises with
    | true => exact follows_throw (.rejected stage m.id)
    | false => exact follows_after (follows_log (.rejected stage m.id)) fun _ _ => follows_pure rfl

/-- What a splitter makes of a message. -/
def splitUp (stage : StageInfo) (input item : DataType)
    (g : input.denote → Except Failure (List item.denote)) (sequenced : Bool) (m : Message) :
    Except Failure Outcome := do
  let vs ← parted stage input item g sequenced (m.payload, m.headers)
  return .many (vs.map .ofFace)

theorem stateless_split (input item : DataType) {f : input.denote → Run (List item.denote)}
    {g : input.denote → Except Failure (List item.denote)} (hf : AmountsTo f g)
    (sequenced : Bool) :
    Stateless Message.faced Failure.face (Handler.split input item f sequenced stage)
      (splitUp stage input item g sequenced) := by
  intro m
  unfold splitUp parted
  simp only [bind_assoc]
  refine follows_bind follows_expect fun value _ hvalue => ?_
  subst hvalue
  refine follows_bind (hf value) fun items _ hitems => ?_
  subst hitems
  refine follows_after (follows_parts m sequenced items.length 1 _) fun ms hms => ?_
  have hparts : ms.map Message.faced = (ms.map Message.face).map Message.ofFace := by
    rw [List.map_map]
    rfl
  exact follows_pure (congrArg Outcome.many (hparts.trans (congrArg _ hms.1)))

/-- What a router makes of a message. -/
def routed (stage : StageInfo) (input : DataType) {key : KeyType}
    (g : input.denote → Except Failure key.denote) (routing : Routing key) (m : Message) :
    Except Failure Outcome := do
  let value ← expected stage input m.payload
  let k ← g value
  return .route ⟨m, routing.channelFor k, routing.fallback, routing.required⟩

theorem stateless_route (input : DataType) {key : KeyType} {f : input.denote → Run key.denote}
    {g : input.denote → Except Failure key.denote} (hf : AmountsTo f g) (routing : Routing key) :
    Stateless Message.faced Failure.face (Handler.route input f routing stage)
      (routed stage input g routing) := by
  intro m
  refine follows_bind follows_expect fun value _ hvalue => ?_
  subst hvalue
  refine follows_bind (hf value) fun k _ hk => ?_
  subst hk
  exact follows_after (follows_log _) fun _ _ => follows_pure rfl

end Stages

end MessageFlow
