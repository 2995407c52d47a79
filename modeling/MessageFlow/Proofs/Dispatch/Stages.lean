import MessageFlow.Conversion
import MessageFlow.Proofs.Dispatch.Stateless

/-!
# What stages compute

Every kind of stage but a router is stateless, as far as the faces of messages show, if the function
behind it is (`AmountsTo`). Each result names what the stage computes: `transformed`, `filtered`,
`parted` and so on. No stage forgets where a reply is to go.
-/

namespace MessageFlow

variable [PayloadTypes]

/-- What a message carries. It leaves out its id, the id of the message that it is a part of, and
when it was made. -/
def Message.face (m : Message) : Payload × Headers :=
  (m.payload, { m.headers with timestamp := 0, correlationId := none })

/-- A failure without the id of the message that it is about. -/
def Failure.face : Failure → Failure
  | .rejected stage _ => .rejected stage (.fresh 0)
  | failure => failure

/-- What stages compute of a face. -/
abbrev Faces := Except Failure (List (Payload × Headers))

/-- A function that acts on the world and might as well not. -/
def AmountsTo {α β : Type} (f : α → Run β) (g : α → Except Failure β) : Prop :=
  ∀ a, Follows Failure.face (· = ·) (f a) (g a)

/-- A function that does not act on the world amounts to itself. -/
theorem amountsTo_pure {α β : Type} (g : α → β) :
    AmountsTo (fun a => pure (g a)) fun a => .ok (g a) :=
  fun _ => follows_pure rfl

/-- The value that a stage expects, or the failure if there is none. -/
def expected (stage : StageInfo) (input : DataType) (p : Payload) : Except Failure input.denote :=
  match p.as? input with
  | some value => .ok value
  | none => .error (.payloadType stage input.name p.type.name)

/-- The failure of a stage unless a payload is of its type. -/
def checked (stage : StageInfo) (input : DataType) (p : Payload) : Except Failure Unit :=
  if p.is input then .ok () else .error (.payloadType stage input.name p.type.name)

/-- What becomes of the messages that a filter rejects. -/
def rejections (stage : StageInfo) (rejection : Rejection) : Faces :=
  if rejection.raises then .error (.rejected stage (.fresh 0)) else .ok []

section Steps

variable {stage : StageInfo} {input : DataType} {m : Message} {reply : Option ChannelRef}

/-- Whether a payload is of the expected type is seen in its face. -/
theorem follows_expect : Follows Failure.face (· = ·) (Run.expect stage input m)
    (expected stage input m.face.1) := by
  have hface : m.face.1 = m.payload := rfl
  unfold Run.expect expected
  rw [hface]
  cases m.payload.as? input with
  | some value => exact follows_pure rfl
  | none => exact follows_throw (.payloadType stage input.name m.payload.type.name)

/-- What a stage checks is seen in the face of a message. -/
theorem follows_check : Follows Failure.face (· = ·) (Handler.check stage input m)
    (checked stage input m.face.1) := by
  have hface : m.face.1 = m.payload := rfl
  unfold Handler.check checked
  rw [hface]
  cases m.payload.is input with
  | true => exact follows_pure rfl
  | false => exact follows_throw (.payloadType stage input.name m.payload.type.name)

/-- A message that is passed on shows its face. -/
theorem passes_reply (h : m.headers.replyChannel = reply) :
    PassesFor Message.face reply (.reply m) [m.face] :=
  ⟨[m], rfl, rfl, by simpa using h⟩

theorem passes_done : PassesFor Message.face reply .done [] :=
  ⟨[], rfl, rfl, by simp⟩

/-- A rejected message is dropped or fails, if there is no channel for it. -/
theorem follows_reject {rejection : Rejection} (h : rejection.channel = none) :
    Follows Failure.face (PassesFor Message.face reply) (Handler.reject rejection stage m)
      (rejections stage rejection) := by
  unfold Handler.reject rejections
  cases rejection.raises with
  | true => exact follows_throw (.rejected stage m.id)
  | false =>
    refine follows_after (follows_log (.rejected stage m.id)) fun _ _ => ?_
    rw [h]
    exact follows_pure ⟨[], rfl, rfl, by simp⟩

/-- A reply carries the new payload and what the message carried besides. -/
theorem follows_replaced (hm : m.headers.replyChannel = reply) (payload : Payload) :
    Follows Failure.face (PassesFor Message.face reply)
      (do return .reply (← Run.reply m payload)) (.ok [(payload, m.face.2)]) := by
  refine follows_after (follows_reply m payload) fun reply hreply => ?_
  obtain ⟨id, now, rfl⟩ := hreply
  exact follows_pure (passes_reply (m := m.replaced id now payload) hm)

end Steps

section Stages

variable {stage : StageInfo} {reply : Option ChannelRef}

/-- A bridge passes on what it gets. -/
theorem computesFor_bridge :
    ComputesFor Message.face Failure.face reply (Handler.bridge stage) fun v => .ok [v] :=
  fun _ hm => follows_pure (passes_reply hm)

/-- So does a log stage. -/
theorem computesFor_log (level : Level) (category : String) :
    ComputesFor Message.face Failure.face reply (Handler.log level category stage)
      fun v => .ok [v] :=
  fun _ hm => follows_after (follows_log _) fun _ _ => follows_pure (passes_reply hm)

/-- Nothing comes of what is consumed. -/
def consumed (stage : StageInfo) (input : DataType) (g : input.denote → Except Failure Unit)
    (v : Payload × Headers) : Faces := do
  let value ← expected stage input v.1
  g value
  return []

/-- A handler consumes what it gets, or fails with its function. -/
theorem computesFor_handle (input : DataType) {f : input.denote → Run Unit}
    {g : input.denote → Except Failure Unit} (hf : AmountsTo f g) :
    ComputesFor Message.face Failure.face reply (Handler.handle input f stage)
      (consumed stage input g) := by
  intro m hm
  refine follows_bind follows_expect fun value _ hvalue => ?_
  subst hvalue
  exact follows_bind (hf value) fun _ _ _ => follows_pure passes_done

/-- What a transformation makes of a face. -/
def transformed (stage : StageInfo) (input output : DataType)
    (g : input.denote → Except Failure (Except Cause output.denote)) (v : Payload × Headers) :
    Faces := do
  let value ← expected stage input v.1
  match ← g value with
  | .ok result => return [(.of output result, v.2)]
  | .error cause => throw (.handler stage cause)

/-- A transformation puts a value in the place of another. -/
theorem computesFor_transform (input output : DataType)
    {f : input.denote → Run (Except Cause output.denote)}
    {g : input.denote → Except Failure (Except Cause output.denote)} (hf : AmountsTo f g) :
    ComputesFor Message.face Failure.face reply (Handler.transform input output f stage)
      (transformed stage input output g) := by
  intro m hm
  refine follows_bind follows_expect fun value _ hvalue => ?_
  subst hvalue
  refine follows_bind (hf value) fun result _ hresult => ?_
  subst hresult
  cases result with
  | error cause => exact follows_throw (.handler stage cause)
  | ok result => exact follows_replaced hm (.of output result)

/-- What a transformation of whole payloads makes of a face. -/
def replaced (stage : StageInfo) (input : DataType) (g : Payload → Except Failure Payload)
    (v : Payload × Headers) : Faces := do
  checked stage input v.1
  let payload ← g v.1
  return [(payload, v.2)]

/-- So does a transformation of payloads. -/
theorem computesFor_transformPayload (input : DataType) {f : Payload → Run Payload}
    {g : Payload → Except Failure Payload} (hf : AmountsTo f g) :
    ComputesFor Message.face Failure.face reply (Handler.transformPayload input f stage)
      (replaced stage input g) := by
  intro m hm
  refine follows_bind follows_check fun _ _ _ => ?_
  refine follows_bind (hf m.payload) fun payload _ hpayload => ?_
  subst hpayload
  exact follows_replaced hm payload

/-- What a filter lets pass. -/
def filtered (stage : StageInfo) (input : DataType) (g : input.denote → Except Failure Bool)
    (rejection : Rejection) (v : Payload × Headers) : Faces := do
  let value ← expected stage input v.1
  if ← g value then return [v] else rejections stage rejection

/-- A filter passes a message on, drops it, or fails. -/
theorem computesFor_filter (input : DataType) {f : input.denote → Run Bool}
    {g : input.denote → Except Failure Bool} (hf : AmountsTo f g) {rejection : Rejection}
    (hrejection : rejection.channel = none) :
    ComputesFor Message.face Failure.face reply (Handler.filter input f rejection stage)
      (filtered stage input g rejection) := by
  intro m hm
  refine follows_bind follows_expect fun value _ hvalue => ?_
  subst hvalue
  refine follows_bind (hf value) fun accepted _ haccepted => ?_
  subst haccepted
  cases accepted with
  | true => exact follows_pure (passes_reply hm)
  | false => exact follows_reject hrejection

/-- What a filter of whole payloads lets pass. -/
def filteredPayload (stage : StageInfo) (input : DataType) (g : Payload → Except Failure Bool)
    (rejection : Rejection) (v : Payload × Headers) : Faces := do
  checked stage input v.1
  if ← g v.1 then return [v] else rejections stage rejection

/-- So does a filter by payloads. -/
theorem computesFor_filterPayload (input : DataType) {f : Payload → Run Bool}
    {g : Payload → Except Failure Bool} (hf : AmountsTo f g) {rejection : Rejection}
    (hrejection : rejection.channel = none) :
    ComputesFor Message.face Failure.face reply (Handler.filterPayload input f rejection stage)
      (filteredPayload stage input g rejection) := by
  intro m hm
  refine follows_bind follows_check fun _ _ _ => ?_
  refine follows_bind (hf m.payload) fun accepted _ haccepted => ?_
  subst haccepted
  cases accepted with
  | true => exact follows_pure (passes_reply hm)
  | false => exact follows_reject hrejection

/-- What a conversion makes of a face. -/
def converted (target : ConvertTarget) (v : Payload × Headers) : Faces :=
  if v.1.is target.type then .ok [v]
  else
    match target.convert v.1 with
    | .ok value => .ok [(.of target.type value, { v.2 with contentType := none })]
    | .error failure => .error failure.face

/-- A conversion decodes the payload and forgets its media type. -/
theorem computesFor_convert (target : ConvertTarget) :
    ComputesFor Message.face Failure.face reply (target.handler stage) (converted target) := by
  intro m hm
  have hface : m.face.1 = m.payload := rfl
  unfold ConvertTarget.handler converted
  rw [hface]
  cases m.payload.is target.type with
  | true => exact follows_pure (passes_reply hm)
  | false =>
    cases target.convert m.payload with
    | error failure => exact follows_throw failure
    | ok value =>
      refine follows_after (follows_log (.converted stage target.type)) fun _ _ => ?_
      refine follows_after (follows_reply m (.of target.type value)) fun reply hreply => ?_
      obtain ⟨id, now, rfl⟩ := hreply
      exact follows_pure
        (passes_reply (m := (m.replaced id now (.of target.type value)).withoutContentType) hm)

/-- The parts of a whole, numbered from `number` on if they are to be sequenced. -/
def partsFrom (whole : Headers) (sequenced : Bool) (size : Nat) : Nat → List Payload →
    List (Payload × Headers)
  | _, [] => []
  | number, payload :: rest =>
    (payload,
      if sequenced then
        { whole with sequenceNumber := some number, sequenceSize := some size }
      else whole) :: partsFrom whole sequenced size (number + 1) rest

/-- Parts go where their whole asks for replies. -/
theorem follows_parts (m : Message) (sequenced : Bool) (size number : Nat)
    (payloads : List Payload) :
    Follows Failure.face
      (fun ms vs => ms.map Message.face = vs ∧
        ∀ part ∈ ms, part.headers.replyChannel = m.headers.replyChannel)
      (Handler.parts m sequenced size number payloads)
      (.ok (partsFrom m.face.2 sequenced size number payloads)) := by
  induction payloads generalizing number with
  | nil => exact follows_pure ⟨rfl, by simp⟩
  | cons payload payloads ih =>
    refine follows_after (follows_reply m payload) fun reply hreply => ?_
    refine follows_after (ih (number + 1)) fun rest hrest => follows_pure ⟨?_, ?_⟩
    · obtain ⟨id, now, rfl⟩ := hreply
      cases sequenced <;> simp [partsFrom, hrest.1] <;> rfl
    · obtain ⟨id, now, rfl⟩ := hreply
      intro part hpart
      rcases List.mem_cons.1 hpart with rfl | hpart
      · cases sequenced <;> rfl
      · exact hrest.2 part hpart

/-- What a splitter makes of a face. -/
def parted (stage : StageInfo) (input item : DataType)
    (g : input.denote → Except Failure (List item.denote)) (sequenced : Bool)
    (v : Payload × Headers) : Faces := do
  let value ← expected stage input v.1
  let items ← g value
  return partsFrom v.2 sequenced items.length 1 (items.map (Payload.of item))

/-- A splitter puts out the items of a list, numbered if it is to. -/
theorem computesFor_split (input item : DataType) {f : input.denote → Run (List item.denote)}
    {g : input.denote → Except Failure (List item.denote)} (hf : AmountsTo f g)
    (sequenced : Bool) :
    ComputesFor Message.face Failure.face reply (Handler.split input item f sequenced stage)
      (parted stage input item g sequenced) := by
  intro m hm
  refine follows_bind follows_expect fun value _ hvalue => ?_
  subst hvalue
  refine follows_bind (hf value) fun items _ hitems => ?_
  subst hitems
  refine follows_after (follows_parts m sequenced items.length 1 _) fun ms hms => ?_
  exact follows_pure ⟨ms, rfl, hms.1, fun part hpart => (hms.2 part hpart).trans hm⟩

/-- A transformation keeps each reply channel, so it computes for all of them. -/
theorem computes_transform (input output : DataType)
    {f : input.denote → Run (Except Cause output.denote)}
    {g : input.denote → Except Failure (Except Cause output.denote)} (hf : AmountsTo f g) :
    Computes Message.face Failure.face (Handler.transform input output f stage)
      (transformed stage input output g) :=
  computes_of_forall fun _ => computesFor_transform input output hf

/-- So does a splitter. -/
theorem computes_split (input item : DataType) {f : input.denote → Run (List item.denote)}
    {g : input.denote → Except Failure (List item.denote)} (hf : AmountsTo f g)
    (sequenced : Bool) :
    Computes Message.face Failure.face (Handler.split input item f sequenced stage)
      (parted stage input item g sequenced) :=
  computes_of_forall fun _ => computesFor_split input item hf sequenced

end Stages

end MessageFlow
