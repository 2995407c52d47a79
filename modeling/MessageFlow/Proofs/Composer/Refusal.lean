import MessageFlow.Proofs.Composer.Recast
import MessageFlow.Proofs.Sample

/-!
# Refused calls

A refused call leaves everything as it was, except that `convert` has made its target known by then
(`after_of_refused`). So a refusal shows in one place only: a conversion into a declared type finds
the target of a `convert` that was refused before it.

`results_of_succeeded` compares two runs: a list of calls, and those of its calls that were not
refused. Both go through the same definitions up to the targets that are known
(`perform_knowing`), and they part at the first conversion that only a refused call made possible.
-/

namespace MessageFlow

/-! ## One refused call -/

section

variable [PayloadTypes] {d : FlowDefinition}

/-- A call that is refused leaves nothing but what it made known. -/
theorem after_of_refused (hd : d.components.Consistent) {c : Call} {failure : Failure}
    (h : c.result d = .error failure) : c.after d = d.learning c.learns := by
  have hstep := c.step_of_call hd
  rw [h] at hstep
  generalize c.after d = d' at hstep
  cases hstep
  rfl

/-- A refused call touches nothing but the conversions: stages, components, cursor, flag, counter
and source are what they were. -/
theorem wiring_of_refused (hd : Reachable d) {c : Call} {failure : Failure}
    (h : c.result d = .error failure) :
    c.after d = { d with converters := (c.after d).converters } := by
  rw [after_of_refused (consistent_of_reachable hd) h]
  rfl

end

section

open Sample

/-- The anonymous channel that the second stage would need has its name taken by that stage. -/
theorem wiring_of_refused_bridge :
    let d := (Call.stage (.bridge .standard)).after (.start "f" (.channel "in" false) .standard)
    let c := Call.stage (.bridge { EndpointSpec.standard with id := some "f.channel#0" })
    c.result d = .error (.duplicateName "f.channel#0") ∧
      c.after d = { d with converters := (c.after d).converters } :=
  ⟨rfl, wiring_of_refused (.call _ (.start _ _ _)) rfl⟩

end

/-! ## Which targets are known -/

section

variable [PayloadTypes] {d : FlowDefinition} {known : ConverterRegistry}

namespace ConverterRegistry

/-- What is known after a registration is the new target, or was known before. -/
theorem contains_register {target : ConvertTarget} {type : DataType} :
    (known.register target).contains type = true ↔
      known.contains type = true ∨ target.type = type := by
  unfold contains
  by_cases htype : type = target.type
  · subst htype
    simp [get_register_self]
  · simp [get_register_of_ne known target htype, Ne.symm htype]

/-- So it is with what a call makes known. -/
theorem contains_learning {target : Option ConvertTarget} {type : DataType} :
    (known.learning target).contains type = true ↔
      known.contains type = true ∨ ∃ t, target = some t ∧ t.type = type := by
  cases target with
  | none => simp [learning]
  | some t => simp [learning, contains_register]

end ConverterRegistry

/-- Whether a conversion into a declared type would find a target. -/
def FlowDefinition.Resolves (d : FlowDefinition) (type : DataType) : Prop :=
  (Call.stage (.convertTo (some type))).result d ≠
    .error (.typeResolution .convert (.noConverter type.name))

section Refusals

variable {kind : StageKind} {fault : TypeFault}

/-- Looking for an output is never refused for want of a conversion. -/
theorem outputOf_ne_typeResolution (d : FlowDefinition) (place : Nat) :
    d.outputOf place ≠ .error (.typeResolution kind fault) := by
  unfold FlowDefinition.outputOf
  cases d.components.get place with
  | none => simp
  | some component =>
    cases component with
    | source text => by_cases hplace : place = d.sourcePlace <;> simp [hplace]
    | _ => simp

theorem checkInput_ne_typeResolution (d : FlowDefinition) (needed : List String) :
    d.checkInput needed ≠ .error (.typeResolution kind fault) := by
  refine look_bind_ne_error ?_ ?_
  · unfold FlowDefinition.existingInput
    cases d.cursor with
    | component place => exact outputOf_ne_typeResolution d place
    | _ => simp
  · intro found
    cases found with
    | some input =>
      simp only [FlowDefinition.checkSubscriber]
      split <;> simp
    | none =>
      simp only [FlowDefinition.checkAnonymous]
      split <;> simp

theorem checkChannel_ne_typeResolution (d : FlowDefinition) (ref : ChannelRef) :
    d.checkChannel ref ≠ .error (.typeResolution kind fault) := by
  unfold FlowDefinition.checkChannel
  split <;> simp

/-- What is wrong with names or the cursor is not said in terms of types. -/
theorem checkRequest_ne_typeResolution (d : FlowDefinition) (r : StageRequest) :
    d.checkRequest r ≠ .error (.typeResolution kind fault) := by
  have hinput : ∀ needed, d.checkInput needed ≠ .error (.typeResolution kind fault) := by
    intro needed
    exact checkInput_ne_typeResolution d needed
  unfold FlowDefinition.checkRequest FlowDefinition.checkStage
  by_cases hid : d.components.contains (r.info d.id d.stages.length).id = true
  · simp [hid]
  simp only [hid]
  cases r.spec.output with
  | none => simpa using hinput _
  | some ref =>
    by_cases hname : ref.name = (r.info d.id d.stages.length).id
    · simp [hname]
    · simp only [hname, if_false]
      exact look_bind_ne_error (checkChannel_ne_typeResolution d ref) fun _ => hinput _

end Refusals

/-- A type resolves if a conversion for it is known. -/
theorem resolves_iff (hd : d.components.Consistent) (type : DataType) :
    d.Resolves type ↔ d.converters.contains type = true := by
  have hresult : (Call.stage (.convertTo (some type))).result d =
      ((Factory.convertTo (some type)).admitted d).map fun _ => [] := by
    have hlearns : (Factory.convertTo (some type)).learns = none := rfl
    unfold Call.result
    rw [Call.exec_stage hd, hlearns, FlowDefinition.learning_none]
    cases (Factory.convertTo (some type)).admitted d <;> rfl
  unfold FlowDefinition.Resolves
  rw [hresult, Factory.admitted]
  cases hknown : d.converters.get type with
  | none => simp [Factory.checkNeeds, Factory.needs, ConverterRegistry.contains, hknown]
  | some target =>
    have hcontains : d.converters.contains type = true := by
      simp [ConverterRegistry.contains, hknown]
    rw [Factory.checkNeeds_of_contains rfl hcontains, look_ok_bind, Factory.request,
      ConverterRegistry.ofType?_of_get hknown, look_ok_bind]
    refine iff_of_true ?_ hcontains
    have hne : d.checkRequest ⟨.convert, type, target.handler, .standard⟩ ≠
        .error (.typeResolution .convert (.noConverter type.name)) :=
      checkRequest_ne_typeResolution d _
    cases hcheck : d.checkRequest ⟨.convert, type, target.handler, .standard⟩ with
    | error failure =>
      intro he
      cases he
      exact hne hcheck
    | ok _ => simp

/-- After a refused stage, conversions find what they found before, and the target of a refused
`convert` on top. -/
theorem resolves_after_refused (hd : Reachable d) {f : Factory} {failure : Failure}
    (h : (Call.stage f).result d = .error failure) (type : DataType) :
    ((Call.stage f).after d).Resolves type ↔
      d.Resolves type ∨ ∃ target, f.learns = some target ∧ target.type = type := by
  rw [resolves_iff (consistent_of_reachable (hd.call _)),
    resolves_iff (consistent_of_reachable hd), after_of_refused (consistent_of_reachable hd) h]
  exact ConverterRegistry.contains_learning

/-! ## Two runs -/

namespace FlowDefinition

/-- The definition with other targets known. -/
def knowing (d : FlowDefinition) (known : ConverterRegistry) : FlowDefinition :=
  { d with converters := known }

theorem knowing_eq_recast (d : FlowDefinition) (known : ConverterRegistry) :
    d.knowing known = d.recast (fun stage => stage) d.config known := by
  unfold knowing recast
  rw [List.map_id']

/-- What is known makes no difference to the finished flow. -/
theorem finished_knowing : (d.knowing known).finished = d.finished := by
  rw [knowing_eq_recast, finished_recast (recasts_self d.config) rfl]
  cases d.finished with
  | error failure => rfl
  | ok flow => simp [Except.map]

end FlowDefinition

/-- A call does the same whatever is known, except that a conversion into a declared type must find
its target. -/
theorem perform_knowing (hd : d.components.Consistent) (c : Call) (known : ConverterRegistry)
    (hneeds : ∀ type, c.needs = some type → known.contains type = d.converters.contains type) :
    c.result (d.knowing known) = c.result d ∧
      c.after (d.knowing known) = (c.after d).knowing (known.learning c.learns) := by
  have hconfig : (c.after d).config = d.config :=
    congrArg (·.2.2) (origin_step (c.step_of_call hd))
  rw [FlowDefinition.knowing_eq_recast, FlowDefinition.knowing_eq_recast, hconfig]
  exact perform_recast hd (recasts_self d.config) c known hneeds

/-- A call that needs what is not known is refused for it. -/
theorem result_of_unknown (hd : d.components.Consistent) {c : Call} {type : DataType}
    (hneeds : c.needs = some type) (h : d.converters.contains type = false) :
    c.result d = .error (.typeResolution .convert (.noConverter type.name)) := by
  cases c with
  | stage f =>
    have hlearns := Factory.learns_of_needs hneeds
    have hcheck : f.checkNeeds d.converters =
        .error (.typeResolution .convert (.noConverter type.name)) := by
      have hf : f.needs = some type := hneeds
      simp [Factory.checkNeeds, hf, h]
    unfold Call.result
    rw [Call.exec_stage hd, hlearns, FlowDefinition.learning_none, Factory.admitted, hcheck]
    rfl
  | _ => cases hneeds

/-- Whether the conversions into declared types that succeed would succeed too if a refused call
made nothing known. `known` is what would be known then. -/
def FlowDefinition.Founded (d : FlowDefinition) (known : ConverterRegistry) : List Call → Prop
  | [] => True
  | c :: cs =>
    ((c.result d).isOk = true → ∀ type, c.needs = some type → known.contains type = true) ∧
      (c.after d).Founded (if (c.result d).isOk then known.learning c.learns else known) cs

/-- The calls that are not refused go through the same definitions without the others, up to what
is known, until a conversion misses its target. -/
theorem succeeded_knowing (cs : List Call) (known : ConverterRegistry)
    (hd : d.components.Consistent)
    (hknown : ∀ type, known.contains type = true → d.converters.contains type = true) :
    ((d.knowing known).results (d.succeeded cs) = (d.results cs).filter (·.isOk) ↔
        d.Founded known cs) ∧
      (d.Founded known cs → ∃ known',
        (d.knowing known).afterAll (d.succeeded cs) = (d.afterAll cs).knowing known') := by
  induction cs generalizing d known with
  | nil => exact ⟨iff_of_true rfl trivial, fun _ => ⟨known, rfl⟩⟩
  | cons c cs ih =>
    have hd' : (c.after d).components.Consistent := consistent_step (c.step_of_call hd) hd
    cases hresult : c.result d with
    | error failure =>
      -- Left out: what the call made known is known in the other run only.
      have hafter := after_of_refused hd hresult
      have hsame : d.knowing known = (c.after d).knowing known := by rw [hafter]; rfl
      have hknown' : ∀ type, known.contains type = true →
          (c.after d).converters.contains type = true := fun type htype => by
        rw [hafter]
        exact ConverterRegistry.contains_learning.2 (Or.inl (hknown type htype))
      have hrest := ih known hd' hknown'
      simpa [FlowDefinition.succeeded, FlowDefinition.results, FlowDefinition.Founded,
        FlowDefinition.afterAll, hresult, Except.isOk, Except.toBool, hsame] using hrest
    | ok places =>
      by_cases hneeds : ∀ type, c.needs = some type → known.contains type = true
      · -- Both runs do the same.
        obtain ⟨hsame, hafter⟩ := perform_knowing hd c known fun type htype => by
          rw [hneeds type htype, hknown type (hneeds type htype)]
        have hknown' : ∀ type, (known.learning c.learns).contains type = true →
            (c.after d).converters.contains type = true := fun type htype => by
          rw [converters_after hd]
          exact ConverterRegistry.contains_learning.2
            ((ConverterRegistry.contains_learning.1 htype).imp (hknown type) id)
        have hrest := ih (known.learning c.learns) hd' hknown'
        simpa [FlowDefinition.succeeded, FlowDefinition.results, FlowDefinition.Founded,
          FlowDefinition.afterAll, hresult, Except.isOk, Except.toBool, hsame, hafter,
          iff_true_intro hneeds] using hrest
      · -- The conversion found its target only because of a call that is left out now.
        simp only [Classical.not_forall] at hneeds
        obtain ⟨type, htype, hunknown⟩ := hneeds
        have hrefused := result_of_unknown (d := d.knowing known) hd htype
          (eq_false_of_ne_true hunknown)
        have hnot : ¬d.Founded known (c :: cs) := fun h =>
          hunknown (h.1 (by rw [hresult]; rfl) type htype)
        refine ⟨iff_of_false ?_ hnot, fun h => absurd h hnot⟩
        simp [FlowDefinition.succeeded, FlowDefinition.results, hresult, Except.isOk,
          Except.toBool, hrefused]

/-- What refusals leave behind. A conversion into a type finds a target after a refused stage
exactly if it found one before, or the refused stage was a `convert` into that type. Leaving out the
refused calls of a list changes neither what the other calls return nor the flow that is made in the
end, exactly if no conversion succeeds because of a refused call. -/
theorem refusals_show_in_conversions (hd : Reachable d) :
    (∀ (f : Factory) (failure : Failure), (Call.stage f).result d = .error failure →
      ∀ type, ((Call.stage f).after d).Resolves type ↔
        d.Resolves type ∨ ∃ target, f.learns = some target ∧ target.type = type) ∧
    ∀ cs : List Call,
      (d.results (d.succeeded cs) = (d.results cs).filter (·.isOk) ∧
        (Composer.finish.exec (d.afterAll (d.succeeded cs))).1 =
          (Composer.finish.exec (d.afterAll cs)).1) ↔
      d.Founded d.converters cs := by
  refine ⟨fun f failure h type => resolves_after_refused hd h type, ?_⟩
  intro cs
  obtain ⟨hresults, hafter⟩ := succeeded_knowing cs d.converters
    (consistent_of_reachable hd) fun _ => id
  constructor
  · intro h
    exact hresults.1 h.1
  · intro h
    refine ⟨hresults.2 h, ?_⟩
    obtain ⟨known', hknown'⟩ := hafter h
    have hself : d.knowing d.converters = d := rfl
    rw [hself] at hknown'
    rw [Composer.result_finish, Composer.result_finish, hknown', FlowDefinition.finished_knowing]

end

open Sample

/-- A refused `convert`: its id is the name of the source. -/
def refusedConvert : Factory :=
  .convert ⟨.number, _, DataType.decoder?_number⟩ { EndpointSpec.standard with id := some "in" }

/-- A conversion finds the target of the refused `convert`, and without it there is no flow. -/
theorem refusals_show_in_conversions_channel :
    let d := FlowDefinition.start "f" (.channel "in" false) .standard
    (Call.stage refusedConvert).result d = .error (.duplicateName "in") ∧
      ((Call.stage refusedConvert).after d).Resolves .number ∧
      ¬(d.results (d.succeeded [.stage refusedConvert, .stage (.convertTo (some .number))]) =
          (d.results [.stage refusedConvert, .stage (.convertTo (some .number))]).filter (·.isOk) ∧
        (Composer.finish.exec (d.afterAll (d.succeeded
            [.stage refusedConvert, .stage (.convertTo (some .number))]))).1 =
          (Composer.finish.exec (d.afterAll
            [.stage refusedConvert, .stage (.convertTo (some .number))])).1) := by
  have h := refusals_show_in_conversions (.start "f" (.channel "in" false) .standard)
  refine ⟨rfl, (h.1 refusedConvert _ rfl .number).2 (Or.inr ⟨_, rfl, rfl⟩), ?_⟩
  intro hsame
  have hfounded := ((h.2 _).1 hsame).2.1 rfl .number rfl
  exact absurd hfounded (by decide)

/-- A refused stage does change what conversions find: nothing of numbers was known before. -/
theorem convert_refused_resolves :
    let d := FlowDefinition.start "f" (.channel "in" false) .standard
    (Call.stage refusedConvert).result d = .error (.duplicateName "in") ∧
      ¬d.Resolves .number ∧ ((Call.stage refusedConvert).after d).Resolves .number := by
  have hd : Reachable (.start "f" (.channel "in" false) .standard) := .start _ _ _
  refine ⟨rfl, ?_, ?_⟩
  · rw [resolves_iff (consistent_of_reachable hd)]
    decide
  · rw [resolves_iff (consistent_of_reachable (hd.call _))]
    rfl

end MessageFlow
