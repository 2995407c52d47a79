import MessageFlow.Proofs.Composer.Made
import MessageFlow.Proofs.Dispatch.Acts

/-!
# Where messages come from

Everything that a dispatch hands to a stage or to a live channel came of the message that was put in
at the start, by way of the stages that handed it on. `Does` says which acts a dispatch comes to,
also if it fails later or goes on for ever, and `Trail` how a parcel came of another one.
`trail_of_does` ties the two.
-/

namespace MessageFlow

variable [PayloadTypes]

/-- The message that an act hands to a stage or to a live channel. -/
def Act.message : Act → Message
  | invoke _ m => m
  | deliver p => p.message

/-- A stage that handed a message on. -/
structure Hop where
  stage : FlowStage
  /-- The call that the stage was appended for. -/
  factory : Factory
  /-- What the stage was given. -/
  received : Message
  /-- Which of the messages that it made of this goes on here, from one. -/
  number : Nat
  /-- How many it made. -/
  size : Nat

/-- The messages of an outcome that go anywhere. -/
def Outcome.passed : Outcome → List Message
  | .reply m => [m]
  | .many ms => ms
  | .discard m channel => (channel.map fun _ => m).toList
  | .route decision => [decision.message]
  | .done => []

namespace Runner

variable {r : Runner} {start p q : Parcel} {parcels ps : List Parcel} {a : Act} {as : List Act}
  {stage : FlowStage} {m : Message} {w v : World}

/-- How a parcel came of another one: the stages that handed it on, the first one first. -/
inductive Trail (r : Runner) (start : Parcel) : List Hop → Parcel → Prop where
  | start : Trail r start [] start
  | hop (hops : List Hop) (p q : Parcel) (stage : FlowStage) (factory : Factory)
      (outcome : Outcome) (ps : List Parcel) (i : Nat) (w v : World) :
      Trail r start hops p → stage ∈ r.flow.consumers p.channel.name → stage.MadeBy factory →
      (stage.endpoint.invoke p.message).exec w = some (.ok outcome, v) →
      r.emissions stage outcome = .ok ps → ps[i]? = some q →
      Trail r start (hops ++ [⟨stage, factory, p.message, i + 1, ps.length⟩]) q

/-- What a parcel calls for is about its message. -/
theorem message_of_acts (h : a ∈ r.acts p) : a.message = p.message := by
  unfold acts at h
  cases hstages : r.flow.consumers p.channel.name with
  | nil =>
    simp only [hstages, List.mem_singleton] at h
    rw [h]
    rfl
  | cons first rest =>
    simp only [hstages, List.mem_map] at h
    obtain ⟨stage, -, rfl⟩ := h
    rfl

/-- A stage that was given a message and did not fail made an outcome of it. -/
theorem outcome_of_perform (h : (r.perform (.invoke stage m)).exec w = some (.ok ps, v)) :
    ∃ outcome u, (stage.endpoint.invoke m).exec w = some (.ok outcome, u) ∧
      r.emissions stage outcome = .ok ps := by
  rw [perform, Run.exec_bind] at h
  split at h
  · next outcome u hinvoke =>
    obtain ⟨entries, hforward⟩ := exec_forward r stage outcome u
    rw [h] at hforward
    injection hforward with hforward
    exact ⟨outcome, u, hinvoke, (congrArg Prod.fst hforward).symm⟩
  · cases h
  · cases h

/-- Parcels that came of acts came of one of them. -/
theorem act_of_emitted (h : (r.performAll as).exec w = some (.ok ps, v)) (hq : q ∈ ps) :
    ∃ a ∈ as, ∃ u u' emitted, (r.perform a).exec u = some (.ok emitted, u') ∧ q ∈ emitted := by
  induction as generalizing w ps with
  | nil =>
    cases h
    cases hq
  | cons a as ih =>
    rw [performAll, Run.exec_bind] at h
    split at h
    · next first u hfirst =>
      rw [Run.exec_bind] at h
      split at h
      · next rest u' hrest =>
        cases h
        rcases List.mem_append.1 hq with hq | hq
        · exact ⟨a, by simp, w, u, first, hfirst, hq⟩
        · obtain ⟨b, hb, hperform⟩ := ih hrest hq
          exact ⟨b, by simp [hb], hperform⟩
      · cases h
      · cases h
    · cases h
    · cases h

/-- A parcel that came of another one was handed on by a stage that consumes the channel of that
one. -/
theorem trail_of_visit (hmade : Made r.flow.stages) {hops : List Hop}
    (htrail : r.Trail start hops p) (h : (r.visit p).exec w = some (.ok ps, v)) (hq : q ∈ ps) :
    ∃ hops', r.Trail start hops' q := by
  rw [visit_eq] at h
  obtain ⟨a, ha, u, u', emitted, hperform, hemitted⟩ := act_of_emitted h hq
  cases a with
  | deliver p' =>
    -- Nothing comes of a delivery.
    rw [perform, Run.exec_bind] at hperform
    split at hperform
    · cases hperform
      cases hemitted
    · cases hperform
    · cases hperform
  | invoke stage m =>
    have hm : m = p.message := message_of_acts ha
    subst hm
    have hstage := mem_consumers_of_acts ha
    obtain ⟨factory, hfactory⟩ := hmade stage (List.mem_filter.1 hstage).1
    obtain ⟨outcome, u'', hinvoke, hemissions⟩ := outcome_of_perform hperform
    obtain ⟨i, hi⟩ := List.getElem?_of_mem hemitted
    exact ⟨_, .hop hops p q stage factory outcome emitted i u u'' htrail hstage hfactory hinvoke
      hemissions hi⟩

/-- What an outcome leads to are its messages, in order, or nothing. -/
theorem message_of_emissions {outcome : Outcome} (h : r.emissions stage outcome = .ok ps) :
    ps = [] ∨ ps.map Parcel.message = outcome.passed := by
  have honward : ∀ ms : List Message, ms.flatMap stage.onward = [] ∨
      (ms.flatMap stage.onward).map Parcel.message = ms := by
    intro ms
    unfold FlowStage.onward
    cases stage.endpoint.output with
    | none => exact .inl (by simp)
    | some ref => exact .inr (by simp [List.map_flatMap])
  have hone : ∀ m : Message, stage.onward m = [] ∨ (stage.onward m).map Parcel.message = [m] := by
    intro m
    simpa using honward [m]
  cases outcome with
  | reply m =>
    cases h
    exact hone m
  | many ms =>
    cases h
    exact honward ms
  | discard m channel =>
    cases h
    cases channel with
    | none => exact .inl rfl
    | some ref => exact .inr rfl
  | done =>
    cases h
    exact .inl rfl
  | route decision =>
    simp only [emissions] at h
    split at h
    · cases h
      exact .inr rfl
    · split at h
      · cases h
        exact .inr rfl
      · split at h
        · cases h
        · cases h
          exact hone decision.message

end Runner

end MessageFlow
