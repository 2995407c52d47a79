import MessageFlow.Proofs.Composer.Sketch
import MessageFlow.Proofs.Sample

/-!
# Outputs are written once

Stages and the source have an output channel each, and it is the one thing of a stage that may
still be set after the stage was appended. A `Site` is where such an output is kept. `Upholds` says
what becomes of them: stages stay where and what they are, an output that is set stays as it is, and
of the outputs that are not set only the one at the cursor can be.

Setting an output overwrites what is there, so this rests on what every caller has looked at before:
`outputAt_connected` says what is written, and `upholds_wired` that nothing was there.
-/

namespace MessageFlow

section

variable [PayloadTypes]

/-- What has an output channel of its own. -/
inductive Site where
  | source
  /-- The stage at an index. -/
  | stage (index : Nat)
  deriving DecidableEq, Repr

/-- Where the output of a component is kept. A channel has none beside itself. -/
def FlowComponent.site : FlowComponent → Option Site
  | endpoint index => some (.stage index)
  | source _ => some .source
  | _ => none

namespace FlowDefinition

variable {d d' d'' : FlowDefinition} {ref : ChannelRef} {place : Nat} {site : Site}
  {r : StageRequest}

/-- The output channel that is set at a site. -/
def outputAt (d : FlowDefinition) : Site → Option ChannelRef
  | .source => d.sourceOutput
  | .stage index => d.stages[index]?.bind (·.endpoint.output)

/-- Whether there is something at a site. -/
def HasSite (d : FlowDefinition) : Site → Prop
  | .source => True
  | .stage index => index < d.stages.length

/-- The site of the component that the cursor is on. A component that was registered by hand has
the site of the stage that it stands for. -/
def siteAtCursor (d : FlowDefinition) : Option Site :=
  match d.cursor with
  | .component place => (d.components.get place).bind FlowComponent.site
  | _ => none

/-- Stages stay where and what they are, and outputs are written once. -/
structure Upholds (d d' : FlowDefinition) : Prop where
  /-- A stage keeps its index and everything but its output. -/
  stages : ∀ (index : Nat) (stage : FlowStage), d.stages[index]? = some stage →
    ∃ kept : FlowStage, d'.stages[index]? = some kept ∧ kept.input = stage.input ∧
      kept.endpoint.unwired = stage.endpoint.unwired
  /-- An output that is set stays as it is. -/
  written : ∀ site ref, d.outputAt site = some ref → d'.outputAt site = some ref
  /-- One that is not set stays so, unless the cursor is on what has it. -/
  unwritten : ∀ site, d.HasSite site → d.outputAt site = none →
    d'.outputAt site = none ∨ d.siteAtCursor = some site

/-- The cursor is on one component only. -/
theorem Upholds.unique (h : d.Upholds d') {site site' : Site}
    (hsite : d.HasSite site ∧ d.outputAt site = none ∧ d'.outputAt site ≠ none)
    (hsite' : d.HasSite site' ∧ d.outputAt site' = none ∧ d'.outputAt site' ≠ none) :
    site = site' := by
  have hcursor := (h.unwritten site hsite.1 hsite.2.1).resolve_left hsite.2.2
  have hcursor' := (h.unwritten site' hsite'.1 hsite'.2.1).resolve_left hsite'.2.2
  rw [hcursor] at hcursor'
  exact Option.some.inj hcursor'

/-- Stages that are appended leave the others and all outputs alone. -/
theorem Upholds.append (h : d.Upholds d') (hsource : d''.sourceOutput = d'.sourceOutput)
    (hbehind : d'.stages <+: d''.stages) : d.Upholds d'' := by
  have hstage : ∀ (index : Nat) (stage : FlowStage), d'.stages[index]? = some stage →
      d''.stages[index]? = some stage := by
    intro index stage hstage
    obtain ⟨more, hmore⟩ := hbehind
    rw [← hmore, List.getElem?_append_left (List.getElem?_eq_some_iff.1 hstage).1, hstage]
  refine ⟨?_, ?_, ?_⟩
  · intro index stage hold
    obtain ⟨kept, hkept, hsame⟩ := h.stages index stage hold
    exact ⟨kept, hstage index kept hkept, hsame⟩
  · intro site ref href
    have hwritten := h.written site ref href
    cases site with
    | source => exact hsource.trans hwritten
    | stage index =>
      obtain ⟨kept, hkept, hout⟩ := Option.bind_eq_some_iff.1 hwritten
      exact Option.bind_eq_some_iff.2 ⟨kept, hstage index kept hkept, hout⟩
  · intro site hhas hnone
    refine (h.unwritten site hhas hnone).imp_left fun hstill => ?_
    cases site with
    | source => exact hsource.trans hstill
    | stage index =>
      -- The stage was there before, so it is the one that is there now.
      obtain ⟨kept, hkept, -⟩ := h.stages index _ (List.getElem?_eq_getElem hhas)
      have hout : d'.outputAt (.stage index) = kept.endpoint.output := by
        simp [outputAt, hkept]
      have hout' : d''.outputAt (.stage index) = kept.endpoint.output := by
        simp [outputAt, hstage index kept hkept]
      rw [hout', ← hout, hstill]

theorem upholds_refl (d : FlowDefinition) : d.Upholds d :=
  ⟨fun _ stage hstage => ⟨stage, hstage, rfl, rfl⟩, fun _ _ href => href,
    fun _ _ hnone => .inl hnone⟩

/-- What sets no output. -/
theorem upholds_of_appends (hsource : d'.sourceOutput = d.sourceOutput)
    (hbehind : d.stages <+: d'.stages) : d.Upholds d' :=
  (upholds_refl d).append hsource hbehind

/-- Connecting a component writes to its site, and nowhere else. -/
theorem outputAt_connected {other : Site} (h : (d.components.get place).bind FlowComponent.site ≠
    some other) (ref : ChannelRef) : (d.connected place ref).outputAt other = d.outputAt other := by
  unfold connected outputAt
  cases hget : d.components.get place with
  | none => cases other <;> rfl
  | some component =>
    rw [hget] at h
    cases component with
    | endpoint index =>
      cases other with
      | source => rfl
      | stage other =>
        have hne : index ≠ other := fun he => h (by rw [he]; rfl)
        simp [hne]
    | source text =>
      cases other with
      | source => exact absurd rfl h
      | stage other => rfl
    | _ => cases other <;> rfl

theorem stage_connected {index : Nat} {stage : FlowStage} (h : d.stages[index]? = some stage)
    (place : Nat) (ref : ChannelRef) :
    ∃ kept : FlowStage, (d.connected place ref).stages[index]? = some kept ∧
      kept.input = stage.input ∧ kept.endpoint.unwired = stage.endpoint.unwired := by
  unfold connected
  dsimp only
  split
  · next wiredIndex _ =>
    rw [List.getElem?_modify, h]
    by_cases hindex : wiredIndex = index
    · exact ⟨stage.withOutput ref, by simp [hindex], rfl, rfl⟩
    · exact ⟨stage, by simp [hindex], rfl, rfl⟩
  · exact ⟨stage, h, rfl, rfl⟩

/-- What awaits its output has none at its site. -/
theorem site_of_outputOf (h : d.outputOf place = .ok none) :
    ∃ site, (d.components.get place).bind FlowComponent.site = some site ∧
      d.outputAt site = none := by
  rcases outputOf_eq_none.1 h with ⟨index, hget, hout⟩ | ⟨text, hget, -, hout⟩
  · exact ⟨.stage index, by rw [hget]; rfl, hout⟩
  · exact ⟨.source, by rw [hget]; rfl, hout⟩

/-- Wiring the component at the cursor, which was found to await its output. -/
theorem upholds_wired (h : d.existingInput = .ok none) (ref : ChannelRef) :
    d.Upholds (d.wired ref) := by
  obtain ⟨place, hcursor, hout⟩ := existingInput_eq_none.1 h
  obtain ⟨site, hsite, hunset⟩ := site_of_outputOf hout
  rw [wired_of_component hcursor]
  have hother : ∀ other, other ≠ site → (d.connected place ref).outputAt other =
      d.outputAt other := by
    intro other hne
    apply outputAt_connected
    intro hsame
    rw [hsite] at hsame
    exact hne (Option.some.inj hsame).symm
  refine ⟨fun index stage hstage => stage_connected hstage place ref, ?_, ?_⟩
  · intro other ref' hset
    -- What is set is elsewhere.
    rw [hother other]
    · exact hset
    · intro he
      rw [he, hunset] at hset
      cases hset
  · intro other _ hnone
    by_cases he : other = site
    · right
      unfold siteAtCursor
      rw [hcursor, he]
      exact hsite
    · left
      rw [hother other he, hnone]

/-- The anonymous channel is registered behind what the cursor is on. -/
theorem upholds_extended (h : d.existingInput = .ok none) : d.Upholds d.extended := by
  obtain ⟨place, hcursor, hout⟩ := existingInput_eq_none.1 h
  obtain ⟨site, hsite, -⟩ := site_of_outputOf hout
  obtain ⟨component, hget, -⟩ := Option.bind_eq_some_iff.1 hsite
  have hget' : d.withAnonymous.components.get place = some component :=
    ComponentRegistry.get_push_of_get hget _ _
  have hwired := upholds_wired h d.anonymousRef
  rw [wired_of_component hcursor] at hwired
  rw [extended_of_component hcursor]
  -- The registry has grown, which makes no difference at the cursor.
  have hsame : (d.withAnonymous.connected place d.anonymousRef).stages =
        (d.connected place d.anonymousRef).stages ∧
      (d.withAnonymous.connected place d.anonymousRef).sourceOutput =
        (d.connected place d.anonymousRef).sourceOutput := by
    unfold connected
    dsimp only
    rw [hget, hget']
    exact ⟨rfl, rfl⟩
  exact hwired.append hsame.2 (hsame.1 ▸ List.prefix_refl _)

theorem upholds_appended (d : FlowDefinition) (hlook : ∃ found, d.existingInput = .ok found)
    (r : StageRequest) : d.Upholds (d.appended r) := by
  obtain ⟨found, hfound⟩ := hlook
  cases found with
  | some input =>
    rw [appended_of_some hfound]
    exact upholds_of_appends rfl (List.prefix_append _ _)
  | none =>
    rw [appended_of_none hfound]
    exact (upholds_extended hfound).append rfl (List.prefix_append _ _)

/-- A bridge has its output from the start. -/
theorem upholds_continued (hjoin : d.Joins ref d') : d.Upholds (d'.continued ref) := by
  cases hjoin with
  | nowhere => exact upholds_of_appends rfl (List.prefix_refl _)
  | there => exact upholds_of_appends rfl (List.prefix_refl _)
  | wire hopen => exact (upholds_wired hopen ref).append rfl (List.prefix_refl _)
  | bridge origin =>
    have hinput : (d.onChannel origin).existingInput = .ok (some origin) := rfl
    rw [appended_of_some hinput]
    exact upholds_of_appends rfl (List.prefix_append _ _)

theorem existingInput_of_checkRequest (h : d.checkRequest r = .ok ()) :
    ∃ found, d.existingInput = .ok found := by
  rcases (admits_of_checkStage h).input with ⟨input, hinput, -⟩ | ⟨hinput, -⟩
  · exact ⟨some input, hinput⟩
  · exact ⟨none, hinput⟩

theorem upholds_step {c : Call} {result : Except Failure (List Nat)} (h : Step d c result d') :
    d.Upholds d' := by
  cases h with
  | refused => exact upholds_of_appends rfl (List.prefix_refl _)
  | appended f r hadmitted =>
    obtain ⟨-, -, hcheck⟩ := Factory.admitted_eq_ok.1 hadmitted
    obtain ⟨hstages, hwritten, hunwritten⟩ :=
      upholds_appended (d.learning f.learns) (existingInput_of_checkRequest hcheck) r
    exact ⟨hstages, hwritten, hunwritten⟩
  | continued ref d' _ hjoin => exact upholds_continued hjoin
  | added => exact upholds_of_appends rfl (List.prefix_refl _)
  | addedAll => exact upholds_of_appends rfl (List.prefix_refl _)
  | learned => exact upholds_of_appends rfl (List.prefix_refl _)
  | moved => exact upholds_of_appends rfl (List.prefix_refl _)
  | flagged => exact upholds_of_appends rfl (List.prefix_refl _)

/-! ## Finishing -/

/-- Finishing an open end sets the output at the cursor; any other end stays as it is. -/
theorem upholds_ended {output : Option ChannelRef} (h : d.ended = .ok (output, d')) :
    d.Upholds d' := by
  rcases ended_eq_ok h with rfl | ⟨hopen, -, rfl⟩
  · exact upholds_refl _
  · exact upholds_extended hopen

/-- What finishing leaves: the definition as it was, or with its end. -/
theorem upholds_finish (d : FlowDefinition) : d.Upholds (Composer.finish.exec d).2 := by
  unfold Composer.finish
  simp only [Change.exec_bind, Change.exec_ask]
  cases d.entrance with
  | error failure => exact upholds_refl d
  | ok input =>
    simp only [Composer.exec_ending]
    cases hended : d.ended with
    | error failure => exact upholds_refl d
    | ok ended =>
      have hend := upholds_ended hended
      simp only [Change.exec_get, Change.exec_set]
      cases ended.2.checkInputs with
      | error failure => exact hend
      | ok => exact hend.append rfl (List.prefix_refl _)

/-- A finished flow has the stages and the outputs that its definition is left with. -/
theorem finished_outputs {flow : Flow} (h : (Composer.finish.exec d).1 = .ok flow) :
    flow.stages = (Composer.finish.exec d).2.stages ∧
      (d.source.channelRef = none → (Composer.finish.exec d).2.sourceOutput = some flow.input) := by
  unfold Composer.finish at h ⊢
  simp only [Change.exec_bind, Change.exec_ask] at h ⊢
  cases hentrance : d.entrance with
  | error failure => simp [hentrance] at h
  | ok input =>
    simp only [hentrance, Composer.exec_ending] at h ⊢
    cases hended : d.ended with
    | error failure => simp [hended] at h
    | ok ended =>
      simp only [hended, Change.exec_get, Change.exec_set] at h ⊢
      cases hinputs : ended.2.checkInputs with
      | error failure => simp [hinputs] at h
      | ok =>
        simp only [hinputs, Change.exec_pure, Except.ok.injEq] at h ⊢
        subst h
        refine ⟨rfl, fun hsource => ?_⟩
        have hentry := entry_of_entrance hentrance
        rw [entry, hsource, Option.none_or] at hentry
        exact (upholds_ended hended).written .source input hentry

/-! ## Whole compositions -/

theorem upholds_call (hd : Reachable d) (c : Call) : d.Upholds (c.after d) :=
  upholds_step (c.step_of_call (consistent_of_reachable hd))

/-- An output that is set stays so through any calls. -/
theorem written_afterAll (hd : Reachable d) (cs : List Call) {site : Site}
    (h : d.outputAt site = some ref) : (d.afterAll cs).outputAt site = some ref := by
  induction cs generalizing d with
  | nil => exact h
  | cons c cs ih => exact ih (hd.call c) ((upholds_call hd c).written site ref h)

end FlowDefinition

/-- Wiring is written once. Whatever is called on a definition that a composer may see, and also
when it is finished, be it refused or not: the stages so far keep their index and everything but
their output, an output that is set stays as it is, and at most one that is not set gets set, which
is that of the component the cursor was on. So an output that is set once is the one that the
finished flow has, whatever was called in between. -/
theorem wiring_written_once {d : FlowDefinition} (hd : Reachable d) :
    (∀ d', (∃ c : Call, d' = c.after d) ∨ d' = (Composer.finish.exec d).2 →
      d.Upholds d' ∧
        ∀ site site', d.HasSite site ∧ d.outputAt site = none ∧ d'.outputAt site ≠ none →
          d.HasSite site' ∧ d.outputAt site' = none ∧ d'.outputAt site' ≠ none → site = site') ∧
      (∀ flow, (Composer.finish.exec d).1 = .ok flow →
        flow.stages = (Composer.finish.exec d).2.stages ∧
          (d.source.channelRef = none →
            (Composer.finish.exec d).2.sourceOutput = some flow.input)) ∧
      ∀ cs site ref, d.outputAt site = some ref →
        (Composer.finish.exec (d.afterAll cs)).2.outputAt site = some ref := by
  refine ⟨?_, fun flow hflow => FlowDefinition.finished_outputs hflow, ?_⟩
  · intro d' hd'
    have hupholds : d.Upholds d' := by
      rcases hd' with ⟨c, rfl⟩ | rfl
      · exact FlowDefinition.upholds_call hd c
      · exact FlowDefinition.upholds_finish d
    exact ⟨hupholds, fun site site' hsite hsite' => hupholds.unique hsite hsite'⟩
  · intro cs site ref href
    exact (FlowDefinition.upholds_finish _).written site ref
      (FlowDefinition.written_afterAll hd cs href)

end

open Sample

/-- Two bridges from one channel, the first of which is not wired yet. The cursor is set to an alias
of the first, and a channel is given then: it becomes the output of the first bridge, and the second
keeps the one it has. -/
theorem wiring_written_once_alias :
    let d := (FlowDefinition.start "f" (.channel "in" false) .standard).afterAll
      [.stage (.bridge .standard), .addComponent (.endpoint 0) (some "alias"),
        .setChannel (some (.named "in")),
        .stage (.bridge { EndpointSpec.standard with output := some (.named "out") }),
        .setComponent (some 2)]
    let d' := (Call.channel (.named "x")).after d
    d.siteAtCursor = some (.stage 0) ∧ d.outputAt (.stage 0) = none ∧
      d'.outputAt (.stage 0) = some (.named "x") ∧ d'.outputAt (.stage 1) = some (.named "out") ∧
      ∃ kept, d'.stages[0]? = some kept ∧ kept.endpoint.info = ⟨"f.bridge#0", .bridge⟩ := by
  intro d d'
  obtain ⟨hcall, -, -⟩ := wiring_written_once
    (reachable_afterAll (.start "f" (.channel "in" false) .standard)
      [.stage (.bridge .standard), .addComponent (.endpoint 0) (some "alias"),
        .setChannel (some (.named "in")),
        .stage (.bridge { EndpointSpec.standard with output := some (.named "out") }),
        .setComponent (some 2)])
  obtain ⟨⟨hstages, hwritten, -⟩, -⟩ := hcall d' (.inl ⟨_, rfl⟩)
  obtain ⟨kept, hkept, -, hsame⟩ := hstages 0 _ rfl
  refine ⟨rfl, rfl, rfl, hwritten (.stage 1) (.named "out") rfl, kept, hkept, ?_⟩
  exact congrArg Endpoint.info hsame

end MessageFlow
