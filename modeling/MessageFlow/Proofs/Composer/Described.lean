import Mathlib.Data.List.Forall2
import MessageFlow.Proofs.Composer.Calls
import MessageFlow.Proofs.Sample
import MessageFlow.Runner

/-!
# Types that are described at run time

A transformation, a filter or a conversion is appended for a type that the program names, or for one
that is described when it runs. The two families check payloads in different ways, the one by asking
for the value, the other by comparing types ahead of it. Both are `Typed`: they act on the value of
a message of their type, and refuse every other message in the same words. There is one such handler
for what it does with a value (`typed_unique`), so the two make the same stages.

A conversion into a described type needs its converter, so it is two calls where the other is one
(`Described`). The converter that it finds is the one that was registered, whatever was known
before.
-/

namespace MessageFlow

section

variable [PayloadTypes]

/-! ## Handlers -/

/-- A handler that acts on the value of a message that holds one of a type, and refuses every other
message. -/
def Handler.Typed (handler : Handler) (input : DataType)
    (act : StageInfo → Message → input.denote → Run Outcome) : Prop :=
  ∀ stage m, (∀ value, m.payload = .of input value → handler stage m = act stage m value) ∧
    (m.payload.type ≠ input →
      handler stage m = throw (.payloadType stage input.name m.payload.type.name))

/-- A function on payloads that does with those of a type what another does with their values. -/
def Lifts {input output : DataType} (g : input.denote → Run output.denote)
    (lifted : Payload → Run Payload) : Prop :=
  ∀ value, lifted (.of input value) = .of output <$> g value

section Handlers

variable {input output : DataType} {act : StageInfo → Message → input.denote → Run Outcome}

/-- What a handler does with values says what it does. -/
theorem typed_unique {handler handler' : Handler} (h : handler.Typed input act)
    (h' : handler'.Typed input act) : handler = handler' := by
  funext stage m
  by_cases htype : m.payload.type = input
  · obtain ⟨value, hvalue⟩ := Payload.exists_of_type htype
    rw [(h stage m).1 value hvalue, (h' stage m).1 value hvalue]
  · rw [(h stage m).2 htype, (h' stage m).2 htype]

/-- A message of the declared type passes the check. -/
theorem check_of_type {stage : StageInfo} {m : Message} {value : input.denote}
    (h : m.payload = .of input value) : Handler.check stage input m = pure () := by
  have his : m.payload.is input = true := by rw [h, Payload.is, Payload.of, beq_self_eq_true]
  rw [Handler.check, if_pos his]

/-- A message of another type does not. -/
theorem check_of_ne {stage : StageInfo} {m : Message} (h : m.payload.type ≠ input) :
    Handler.check stage input m =
      throw (.payloadType stage input.name m.payload.type.name) := by
  have his : ¬ m.payload.is input = true := by simpa [Payload.is] using h
  rw [Handler.check, if_neg his]

/-- What a transformation does with a value. -/
def Handler.transforms (g : input.denote → Run output.denote) (_ : StageInfo) (m : Message)
    (value : input.denote) : Run Outcome := do
  let result ← g value
  return .reply (← Run.reply m (.of output result))

/-- What a filter does with a value. -/
def Handler.filters (accepts : input.denote → Run Bool) (rejection : Rejection) (stage : StageInfo)
    (m : Message) (value : input.denote) : Run Outcome := do
  if ← accepts value then return .reply m else Handler.reject rejection stage m

/-- A transformation is a function of values of its type. -/
theorem typed_transform (g : input.denote → Run output.denote) :
    (Handler.transform input output fun value => .ok <$> g value).Typed input
      (Handler.transforms g) := by
  intro stage m
  refine ⟨fun value hvalue => ?_, fun hne => ?_⟩
  · rw [Handler.transform, Run.expect_of_type hvalue, pure_bind, bind_map_left]
    rfl
  · rw [Handler.transform, Run.expect_of_ne hne]
    rfl

/-- So is a transformation of payloads that lifts one. -/
theorem typed_transformPayload {g : input.denote → Run output.denote}
    {lifted : Payload → Run Payload} (h : Lifts g lifted) :
    (Handler.transformPayload input lifted).Typed input (Handler.transforms g) := by
  intro stage m
  refine ⟨fun value hvalue => ?_, fun hne => ?_⟩
  · rw [Handler.transformPayload, check_of_type hvalue, pure_bind, hvalue, h value, bind_map_left]
    rfl
  · rw [Handler.transformPayload, check_of_ne hne]
    rfl

/-- A filter is a predicate on values of its type. -/
theorem typed_filter (accepts : input.denote → Run Bool) (rejection : Rejection) :
    (Handler.filter input accepts rejection).Typed input (Handler.filters accepts rejection) := by
  intro stage m
  refine ⟨fun value hvalue => ?_, fun hne => ?_⟩
  · rw [Handler.filter, Run.expect_of_type hvalue, pure_bind]
    rfl
  · rw [Handler.filter, Run.expect_of_ne hne]
    rfl

/-- So is a filter by payloads that lifts one. -/
theorem typed_filterPayload {accepts : input.denote → Run Bool} {lifted : Payload → Run Bool}
    (h : ∀ value, lifted (.of input value) = accepts value) (rejection : Rejection) :
    (Handler.filterPayload input lifted rejection).Typed input
      (Handler.filters accepts rejection) := by
  intro stage m
  refine ⟨fun value hvalue => ?_, fun hne => ?_⟩
  · rw [Handler.filterPayload, check_of_type hvalue, pure_bind, hvalue, h value]
    rfl
  · rw [Handler.filterPayload, check_of_ne hne]
    rfl

end Handlers

/-! ## Calls -/

/-- The calls that do for a described type what a call does for one that the program names. Any call
may be left as it is. -/
inductive Call.Described : Call → List Call → Prop where
  | same (c : Call) : Described c [c]
  | transform (input output : DataType) (g : input.denote → Run output.denote)
      (lifted : Payload → Run Payload) : Lifts g lifted →
      Described (.stage (.transform input output (fun value => .ok <$> g value) .standard))
        [.stage (.transformPayload (some input) lifted)]
  | filter (input : DataType) (accepts : input.denote → Run Bool) (lifted : Payload → Run Bool) :
      (∀ value, lifted (.of input value) = accepts value) →
      Described (.stage (.filter input accepts .standard))
        [.stage (.filterPayload (some input) lifted)]
  | convert (target : ConvertTarget) :
      Described (.stage (.convert target .standard))
        [.registerConverter target, .stage (.convertTo (some target.type))]

/-- What a group of calls returns for one call: its result, after those of the calls that only
prepare for it. -/
def Call.stead (result : Except Failure (List Nat)) (group : List Call) :
    List (Except Failure (List Nat)) :=
  List.replicate (group.length - 1) (.ok []) ++ [result]

/-- Calls one after the other, up to the first that is refused. -/
def Composer.calling (cs : List Call) : Composer Unit :=
  cs.forM fun c => do let _ ← c.perform

section Calls

variable {c : Call} {group : List Call}

/-- The composer of a transformation of a described type is that of the one for a named type. -/
theorem transform_eq_transformPayload {input output : DataType}
    {g : input.denote → Run output.denote} {lifted : Payload → Run Payload} (h : Lifts g lifted) :
    Composer.transform input output (fun value => .ok <$> g value) .standard =
      Composer.transformPayload (some input) lifted := by
  unfold Composer.transform Composer.transformPayload Composer.declared
  rw [pure_bind, typed_unique (typed_transform g) (typed_transformPayload h)]

/-- A filter and the filter by payloads that lifts it are one and the same. -/
theorem filter_eq_filterPayload {input : DataType} {accepts : input.denote → Run Bool}
    {lifted : Payload → Run Bool} (h : ∀ value, lifted (.of input value) = accepts value) :
    Composer.filter input accepts .standard = Composer.filterPayload (some input) lifted := by
  unfold Composer.filter Composer.filterPayload Composer.declared
  rw [pure_bind, ← typed_unique (typed_filter accepts .drop) (typed_filterPayload h .drop)]
  rfl

/-- A converter that was just registered is the one that is found. -/
theorem convert_eq_convertTo (target : ConvertTarget) :
    Composer.convert target .standard =
      (do Composer.registerConverter target; Composer.convertTo (some target.type)) := by
  have hexec : ∀ d, (Composer.convert target .standard).exec d =
      Change.exec
        (do Composer.registerConverter target; Composer.convertTo (some target.type)) d := by
    intro d
    have hlearn : (Composer.registerConverter target).exec d = (.ok (), d.learning (some target)) :=
      rfl
    have hknown : (d.learning (some target)).converters.get target.type = some target :=
      d.converters.get_register_self target
    rw [Composer.convert, Change.exec_bind, Change.exec_bind, hlearn]
    dsimp only
    rw [Factory.exec_convertTo, hknown]
  exact funext hexec

/-- A call with the same composer leaves and returns the same. -/
theorem call_of_perform {c' : Call} (h : c'.perform = c.perform) (d : FlowDefinition) :
    d.afterAll [c'] = c.after d ∧ d.results [c'] = Call.stead (c.result d) [c'] := by
  constructor
  · show c'.after d = c.after d
    rw [Call.after, h, Call.after]
  · show [c'.result d] = [c.result d]
    rw [Call.result, h, Call.result]

/-- A group of calls leaves what the call leaves that it stands for, and returns the same. -/
theorem described_call (h : c.Described group) (d : FlowDefinition) :
    d.afterAll group = c.after d ∧ d.results group = Call.stead (c.result d) group := by
  cases h with
  | same => exact ⟨rfl, rfl⟩
  | transform input output g lifted hlifted =>
    refine call_of_perform ?_ d
    simp only [Call.perform, Factory.perform, transform_eq_transformPayload hlifted]
  | filter input accepts lifted hlifted =>
    refine call_of_perform ?_ d
    simp only [Call.perform, Factory.perform, filter_eq_filterPayload hlifted]
  | convert target =>
    have hperform : (Call.stage (.convert target .standard)).perform.exec d =
        (Call.stage (.convertTo (some target.type))).perform.exec (d.learning (some target)) := by
      simp only [Call.perform, Factory.perform, convert_eq_convertTo, bind_assoc]
      rw [Change.exec_bind]
      rfl
    simp only [FlowDefinition.afterAll, FlowDefinition.results, Call.after, Call.result, hperform]
    exact ⟨rfl, rfl⟩

/-- Up to its first refusal a group of calls is the composer of the call that it stands for. -/
theorem calling_described (h : c.Described group) :
    Composer.calling group = Composer.calling [c] := by
  cases h with
  | same => rfl
  | transform input output g lifted hlifted =>
    simp only [Composer.calling, List.forM_eq_forM, List.forM_cons, Call.perform, Factory.perform,
      transform_eq_transformPayload hlifted]
  | filter input accepts lifted hlifted =>
    simp only [Composer.calling, List.forM_eq_forM, List.forM_cons, Call.perform, Factory.perform,
      filter_eq_filterPayload hlifted]
  | convert target =>
    simp [Composer.calling, List.forM_cons, Call.perform, Factory.perform,
      convert_eq_convertTo]

variable {cs : List Call} {groups : List (List Call)}

theorem afterAll_append (d : FlowDefinition) (cs cs' : List Call) :
    d.afterAll (cs ++ cs') = (d.afterAll cs).afterAll cs' := by
  induction cs generalizing d with
  | nil => rfl
  | cons c cs ih => exact ih (c.after d)

theorem results_append (d : FlowDefinition) (cs cs' : List Call) :
    d.results (cs ++ cs') = d.results cs ++ (d.afterAll cs).results cs' := by
  induction cs generalizing d with
  | nil => rfl
  | cons c cs ih => exact congrArg (c.result d :: ·) (ih (c.after d))

/-- Calls leave the same definition as those that describe them, with the same results. -/
theorem described_calls (h : List.Forall₂ Call.Described cs groups) (d : FlowDefinition) :
    d.afterAll groups.flatten = d.afterAll cs ∧
      d.results groups.flatten = (List.zipWith Call.stead (d.results cs) groups).flatten := by
  induction h generalizing d with
  | nil => exact ⟨rfl, rfl⟩
  | @cons c group cs groups hc _ ih =>
    obtain ⟨hafter, hresults⟩ := described_call hc d
    obtain ⟨hafterAll, hrest⟩ := ih (c.after d)
    rw [List.flatten_cons, afterAll_append, results_append, hafter, hresults, hafterAll, hrest]
    exact ⟨rfl, rfl⟩

/-- Calls are made one after the other. -/
theorem calling_append (cs cs' : List Call) :
    Composer.calling (cs ++ cs') = (do Composer.calling cs; Composer.calling cs') := by
  unfold Composer.calling
  simp [List.forM_append]

/-- Composers that make these calls are one and the same. -/
theorem calling_describeds (h : List.Forall₂ Call.Described cs groups) :
    Composer.calling groups.flatten = Composer.calling cs := by
  induction h with
  | nil => rfl
  | @cons c group cs groups hc _ ih =>
    rw [List.flatten_cons, calling_append, calling_described hc, ih, ← calling_append]
    rfl

end Calls

/-- Typed and described calls agree. Calls may be replaced by others for described types, one by
one: every one of them returns the same as before, from any definition on, and they leave the same
definition, so the same flow is finished from it, or the same refused. Composed as a whole, up to
the first refusal, the flow is the same too, and so is whatever happens to a message that is put
into any channel of it. The stages of both kinds call their function for the messages that hold a
value of their type, and refuse all others without touching anything. -/
theorem described_as_typed {cs : List Call} {groups : List (List Call)}
    (h : List.Forall₂ Call.Described cs groups) :
    (∀ d : FlowDefinition,
      d.results groups.flatten = (List.zipWith Call.stead (d.results cs) groups).flatten ∧
      d.afterAll groups.flatten = d.afterAll cs ∧
      Composer.finish.exec (d.afterAll groups.flatten) = Composer.finish.exec (d.afterAll cs)) ∧
    (∀ (b : FlowBuilder) (registry : ChannelRegistry) (ref : ChannelRef) (m : Message),
      b.compose (Composer.calling groups.flatten) = b.compose (Composer.calling cs) ∧
      (do (← Runner.create (← b.compose (.calling groups.flatten)) registry).dispatch ref m) =
        (do (← Runner.create (← b.compose (.calling cs)) registry).dispatch ref m)) ∧
    (∀ (input output : DataType) (g : input.denote → Run output.denote)
      (lifted : Payload → Run Payload), Lifts g lifted →
      (Handler.transform input output fun value => .ok <$> g value).Typed input
        (Handler.transforms g) ∧
      (Handler.transformPayload input lifted).Typed input (Handler.transforms g)) ∧
    ∀ (input : DataType) (accepts : input.denote → Run Bool) (lifted : Payload → Run Bool),
      (∀ value, lifted (.of input value) = accepts value) →
      (Handler.filter input accepts .drop).Typed input (Handler.filters accepts .drop) ∧
      (Handler.filterPayload input lifted .drop).Typed input (Handler.filters accepts .drop) := by
  refine ⟨fun d => ?_, fun b registry ref m => ?_, fun input output g lifted hlifted => ?_,
    fun input accepts lifted hlifted => ?_⟩
  · obtain ⟨hafter, hresults⟩ := described_calls h d
    rw [hafter]
    exact ⟨hresults, rfl, rfl⟩
  · rw [calling_describeds h]
    exact ⟨rfl, rfl⟩
  · exact ⟨typed_transform g, typed_transformPayload hlifted⟩
  · exact ⟨typed_filter accepts .drop, typed_filterPayload hlifted .drop⟩

end

open Sample

def numbers : ConvertTarget := ⟨.number, _, DataType.decoder?_number⟩

/-- Texts are decoded, and numbers are doubled. -/
def doubling : List Call :=
  [ .stage (.convert numbers .standard),
    .stage (.transform .number .wide (fun n => .ok <$> pure (2 * n.toInt)) .standard) ]

/-- The same for types that are described. -/
def doublingDescribed : List (List Call) :=
  [ [.registerConverter numbers, .stage (.convertTo (some .number))],
    [.stage (.transformPayload (some .number) fun
      | ⟨.number, n⟩ => pure (.of .wide (2 * n.toInt))
      | p => pure p)] ]

/-- Either way the calls succeed, and make one flow of two stages. -/
theorem described_as_typed_doubling :
    let d : FlowDefinition := .start "f" (.channel "in" false) .standard
    Composer.finish.exec (d.afterAll doublingDescribed.flatten) =
        Composer.finish.exec (d.afterAll doubling) ∧
      (Composer.finish.exec (d.afterAll doublingDescribed.flatten)).1.toOption.map
        (·.stages.map (·.endpoint.info.id)) = some ["f.convert#0", "f.transform#1"] ∧
      (d.results doublingDescribed.flatten).map Except.isOk = [true, true, true] := by
  intro d
  have hdescribed : List.Forall₂ Call.Described doubling doublingDescribed :=
    .cons (.convert numbers) (.cons (.transform .number .wide _ _ fun _ => rfl) .nil)
  obtain ⟨halike, -⟩ := described_as_typed hdescribed
  obtain ⟨hresults, -, hfinish⟩ := halike d
  rw [hfinish, hresults]
  exact ⟨rfl, by decide +kernel, by decide +kernel⟩

end MessageFlow
