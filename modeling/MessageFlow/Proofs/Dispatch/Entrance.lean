import MessageFlow.Proofs.Composer.Outputs
import MessageFlow.Proofs.Composer.Soundness
import MessageFlow.Proofs.Composer.Subscriber
import MessageFlow.Proofs.Dispatch.Served
import MessageFlow.Proofs.Sample

/-!
# The entrance of a flow

Messages enter a flow by its input. Nothing checks that a stage consumes it: the first stage goes to
where the cursor is, and a cursor that was set by hand may be elsewhere by then. `Misplaces` says of
a call that it appends the first stage elsewhere. Without a cursor that is set by hand there is no
such call (`entered_step`), and a stage that is on the entrance stays there, so whatever is sent to
the finished flow is given to a stage first.

A dispatch looks for a channel by its name at two points, when a router has decided and when a
message is delivered. A name that a stage consumes is found at both, unless a message asks for its
reply there (`strays_of_failed`).
-/

namespace MessageFlow

section

variable [PayloadTypes]

/-- Whether a call sets the cursor by hand. -/
def Call.setsCursor : Call → Bool
  | setChannel _ | setComponent _ => true
  | _ => false

namespace FlowDefinition

variable {d d' : FlowDefinition} {ref : ChannelRef} {r : StageRequest} {moved : Prop}

/-- Whether the next stage would be on the channel that messages enter by, or ahead of all other
stages behind a source that awaits its output. -/
def AtEntrance (d : FlowDefinition) : Prop :=
  ∃ found, d.existingInput = .ok found ∧
    found.map ChannelRef.name = d.entry.map ChannelRef.name

/-- Whether a call appends the first stage to where messages do not enter. -/
def Misplaces (d : FlowDefinition) (c : Call) : Prop :=
  d.stages = [] ∧ (c.after d).stages ≠ [] ∧ ¬ d.AtEntrance

/-- Ahead of all stages the cursor is on the entrance, or was moved; else a stage is there. -/
def Entered (d : FlowDefinition) (moved : Prop) : Prop :=
  d.stages = [] ∧ (d.AtEntrance ∨ moved) ∨
    ∃ ref, d.entry = some ref ∧ ref.name ∈ inputNames d.stages

/-- A channel that messages enter by is the entrance for good. -/
theorem entry_of_upholds (h : d.Upholds d') (hsource : d'.source = d.source)
    (hentry : d.entry = some ref) : d'.entry = some ref := by
  unfold entry at hentry ⊢
  rw [hsource]
  cases hchannel : d.source.channelRef with
  | some channel => simpa [hchannel] using hentry
  | none =>
    rw [hchannel, Option.none_or] at hentry
    rw [Option.none_or]
    exact h.written .source ref hentry

theorem inputNames_of_upholds (h : d.Upholds d') {name : String}
    (hname : name ∈ inputNames d.stages) : name ∈ inputNames d'.stages := by
  obtain ⟨stage, hstage, rfl⟩ := List.mem_map.1 hname
  obtain ⟨index, hindex⟩ := List.mem_iff_getElem?.1 hstage
  obtain ⟨kept, hkept, hinput, -⟩ := h.stages index stage hindex
  exact List.mem_map.2 ⟨kept, List.mem_of_getElem? hkept, by rw [hinput]⟩

/-- A stage on the entrance stays there. -/
theorem entered_of_upholds (h : d.Upholds d') (hsource : d'.source = d.source)
    (hentry : d.entry = some ref) (hname : ref.name ∈ inputNames d.stages) : d'.Entered moved :=
  .inr ⟨ref, entry_of_upholds h hsource hentry, inputNames_of_upholds h hname⟩

/-- Ahead of all stages it is the source that awaits an output. -/
theorem source_of_open (hd : d.Sound) (hnil : d.stages = []) (h : d.existingInput = .ok none) :
    ∃ place text, d.cursor = .component place ∧ d.components.get place = some (.source text) ∧
      d.source.channelRef = none := by
  obtain ⟨place, hcursor, hout⟩ := existingInput_eq_none.1 h
  rcases outputOf_eq_none.1 hout with ⟨index, hget, -⟩ | ⟨text, hget, -⟩
  · have hlt := hd.endpoints place index hget
    rw [hnil] at hlt
    cases hlt
  · exact ⟨place, text, hcursor, hget, ((hd.source place).1 ⟨text, hget⟩).1⟩

/-- A source that awaits its output gets its entrance when it is wired. -/
theorem entry_wired (hd : d.Sound) (hnil : d.stages = []) (h : d.existingInput = .ok none)
    (ref : ChannelRef) : (d.wired ref).entry = some ref := by
  obtain ⟨place, text, hcursor, hget, hchannel⟩ := source_of_open hd hnil h
  rw [wired_of_component hcursor]
  simp [entry, connected, hget, hchannel]

/-- The first stage is where messages enter. -/
theorem entered_appended (hd : d.Sound) (hnil : d.stages = []) (hat : d.AtEntrance)
    (r : StageRequest) : (d.appended r).Entered moved := by
  obtain ⟨found, hinput, hname⟩ := hat
  have hbehind : ∀ (d' : FlowDefinition) (stage : FlowStage),
      stage.input.name ∈ inputNames (d'.withStage stage).stages := by
    intro d' stage
    exact List.mem_map_of_mem (List.mem_append_right _ List.mem_cons_self)
  cases found with
  | some input =>
    rw [appended_of_some hinput]
    obtain ⟨ref, hentry, href⟩ := Option.map_eq_some_iff.1 hname.symm
    exact .inr ⟨ref, hentry, href ▸ hbehind d (d.nextStage r input)⟩
  | none =>
    rw [appended_of_none hinput]
    refine .inr ⟨d.anonymousRef, ?_, hbehind d.extended (d.nextStage r d.anonymousRef)⟩
    obtain ⟨place, text, hcursor, hget, hchannel⟩ := source_of_open hd hnil hinput
    have hget' : d.withAnonymous.components.get place = some (.source text) :=
      ComponentRegistry.get_push_of_get hget _ _
    have hchannel' : d.withAnonymous.source.channelRef = none := hchannel
    show d.extended.entry = some d.anonymousRef
    rw [extended_of_component hcursor]
    simp [entry, connected, hget', hchannel']

/-- Going on to a channel from the entrance is to be at it still, or to have left a bridge there. -/
theorem entered_continued (hd : d.Sound) (hnil : d.stages = []) (hat : d.AtEntrance)
    (hjoin : d.Joins ref d') : (d'.continued ref).Entered moved := by
  cases hjoin with
  | nowhere hempty =>
    obtain ⟨found, hinput, -⟩ := hat
    simp [existingInput, hempty] at hinput
  | there current hcurrent hsame =>
    obtain ⟨found, hinput, hname⟩ := hat
    rw [hcurrent] at hinput
    cases hinput
    refine .inl ⟨hnil, .inl ⟨some ref, existingInput_of_channel rfl, ?_⟩⟩
    exact (congrArg some hsame.symm).trans hname
  | wire hopen =>
    refine .inl ⟨?_, .inl ⟨some ref, existingInput_of_channel rfl, ?_⟩⟩
    · exact List.length_eq_zero_iff.1 ((wired_length d ref).trans (hnil ▸ rfl))
    · exact (congrArg (Option.map ChannelRef.name) (entry_wired hd hnil hopen ref)).symm
  | bridge origin horigin =>
    obtain ⟨found, hinput, hname⟩ := hat
    rw [horigin] at hinput
    cases hinput
    have hmoved : (d.onChannel origin).Sound := sound_moved hd (holds_channel d origin) d.implicit
    exact entered_appended hmoved hnil ⟨some origin, rfl, hname⟩ (.bridgeTo ref)

/-- What the cursor is on is found among more components too. -/
theorem atEntrance_registered (hd : d.Sound) (hat : d.AtEntrance) {components : ComponentRegistry}
    (hget : ∀ place c, d.components.get place = some c → components.get place = some c) :
    AtEntrance { d with components } := by
  obtain ⟨found, hinput, hname⟩ := hat
  refine ⟨found, ?_, hname⟩
  unfold existingInput at hinput ⊢
  cases hcursor : d.cursor with
  | channel ref => simpa [hcursor] using hinput
  | empty => simp [hcursor] at hinput
  | component place =>
    obtain ⟨c, hc⟩ := hd.cursor place hcursor
    have hout : d.outputOf place = .ok found := by simpa [hcursor] using hinput
    show outputOf { d with components } place = .ok found
    unfold outputOf at hout ⊢
    rw [hc] at hout
    rw [hget place c hc]
    cases c with
    | source text =>
      by_cases hplace : place = d.sourcePlace
      · simpa [hplace] using hout
      · simp [hplace] at hout
    | bean => cases hout
    | _ => exact hout

/-- From the entrance a call moves the cursor off only by hand. -/
theorem entered_of_atEntrance {c : Call} {result : Except Failure (List Nat)} (hd : d.Sound)
    (hnil : d.stages = []) (hat : d.AtEntrance) (hstep : Step d c result d')
    (hafter : d' = c.after d) : d'.Entered (c.setsCursor = true) := by
  cases hstep with
  | refused => exact .inl ⟨hnil, .inl hat⟩
  | appended f r => exact entered_appended (sound_learning hd f.learns) hnil hat r
  | continued ref d' _ hjoin => exact entered_continued hd hnil hat hjoin
  | added component name =>
    exact .inl ⟨hnil, .inl (atEntrance_registered hd hat fun _ _ hc =>
      ComponentRegistry.get_push_of_get hc component name)⟩
  | addedAll batch =>
    exact .inl ⟨hnil, .inl (atEntrance_registered hd hat fun _ _ hc =>
      ComponentRegistry.get_pushAll_of_get hc)⟩
  | learned => exact .inl ⟨hnil, .inl hat⟩
  | moved c cursor hraw =>
    rw [hafter]
    cases c with
    | setImplicit implicit => exact .inl ⟨hnil, .inl hat⟩
    | setChannel target =>
      rw [← hafter]
      exact .inl ⟨hnil, .inr rfl⟩
    | setComponent place =>
      rw [← hafter]
      exact .inl ⟨hnil, .inr rfl⟩
    | _ => cases hraw
  | flagged => exact .inl ⟨hnil, .inl hat⟩

theorem entered_step {c : Call} {result : Except Failure (List Nat)} (hd : d.Sound)
    (h : d.Entered moved) (hstep : Step d c result d') (hafter : d' = c.after d)
    (hplaced : moved → ¬ d.Misplaces c) : d'.Entered (moved ∨ c.setsCursor = true) := by
  rcases h with ⟨hnil, hat⟩ | ⟨ref, hentry, hname⟩
  · by_cases hthere : d.AtEntrance
    · exact (entered_of_atEntrance hd hnil hthere hstep hafter).imp_left
        fun hleft => ⟨hleft.1, hleft.2.imp_right .inr⟩
    · have hmoved := hat.resolve_left hthere
      by_cases hnil' : d'.stages = []
      · exact .inl ⟨hnil', .inr (.inl hmoved)⟩
      · exact absurd ⟨hnil, hafter ▸ hnil', hthere⟩ (hplaced hmoved)
  · exact entered_of_upholds (upholds_step hstep) (congrArg (·.2.1) (origin_step hstep)) hentry
      hname

theorem entered_start (id : String) (source : Source) (config : FlowConfig) :
    (start id source config).Entered moved := by
  refine .inl ⟨rfl, .inl ?_⟩
  cases hchannel : source.channelRef with
  | some ref =>
    exact ⟨some ref, by simp [existingInput, start, hchannel], by simp [entry, start, hchannel]⟩
  | none =>
    refine ⟨none, existingInput_eq_none.2 ⟨0, by simp [start, hchannel], ?_⟩,
      by simp [entry, start, hchannel]⟩
    refine outputOf_eq_none.2 (.inr ⟨source.describe, ?_, rfl, rfl⟩)
    rw [get_start, hchannel]
    rfl

theorem entered_afterAll (hd : d.Sound) (h : d.Entered moved) (cs : List Call)
    (hplaced : ∀ before c after, cs = before ++ c :: after →
      moved ∨ (∃ c' ∈ before, c'.setsCursor = true) → ¬ (d.afterAll before).Misplaces c) :
    (d.afterAll cs).Entered (moved ∨ ∃ c ∈ cs, c.setsCursor = true) := by
  induction cs generalizing d moved with
  | nil => exact h.imp_left fun hleft => ⟨hleft.1, hleft.2.imp_right .inl⟩
  | cons c cs ih =>
    have hstep := c.step_of_call hd.names
    have hafter := entered_step hd h hstep rfl fun hmoved => hplaced [] c cs rfl (.inl hmoved)
    refine (ih (sound_step hstep hd) hafter ?_).imp_left fun hleft =>
      ⟨hleft.1, hleft.2.imp_right ?_⟩
    · intro before c' after hcs hmoved
      refine hplaced (c :: before) c' after (by rw [hcs]; rfl) ?_
      rcases hmoved with (hmoved | hsets) | ⟨c'', hc'', hsets⟩
      · exact .inl hmoved
      · exact .inr ⟨c, List.mem_cons_self, hsets⟩
      · exact .inr ⟨c'', List.mem_cons_of_mem c hc'', hsets⟩
    · rintro ((hmoved | hsets) | ⟨c', hc', hsets⟩)
      · exact .inl hmoved
      · exact .inr ⟨c, List.mem_cons_self, hsets⟩
      · exact .inr ⟨c', List.mem_cons_of_mem c hc', hsets⟩

/-- The input of a finished flow that has stages is consumed. -/
theorem input_of_finished (h : d.Entered moved) {flow : Flow} (hflow : d.finished = .ok flow)
    (hstages : flow.stages ≠ []) : flow.input.name ∈ inputNames flow.stages := by
  obtain ⟨input, hentrance, hrest⟩ := look_bind_eq_ok.1 hflow
  obtain ⟨⟨output, d'⟩, hended, hrest⟩ := look_bind_eq_ok.1 hrest
  obtain ⟨_, -, hflow⟩ := look_bind_eq_ok.1 hrest
  cases hflow
  have hupholds := upholds_ended hended
  rcases h with ⟨hnil, -⟩ | ⟨ref, hentry, hname⟩
  · -- Finishing adds no stage.
    have hnames : inputNames d'.stages = inputNames d.stages := inputNames_ended hended
    rw [hnil] at hnames
    exact absurd (List.map_eq_nil_iff.1 hnames) hstages
  · rw [entry_of_entrance hentrance] at hentry
    cases hentry
    exact inputNames_of_upholds hupholds hname

end FlowDefinition

/-! ## Dispatch -/

namespace Runner

variable {r : Runner} {name : String} {w v : World}

/-- The ways in which an act does not find a channel of a name that a stage consumes: the stage that
it invokes says so itself, or it delivers a message that asks for its reply there and for which
nothing is registered. -/
inductive Strays (r : Runner) (w : World) (name : String) : Act → Prop where
  | invoked (stage : FlowStage) (m : Message) (v : World) :
      (stage.endpoint.invoke m).exec w = some (.error (.destination name), v) →
      Strays r w name (.invoke stage m)
  | replied (p : Parcel) (reply : ChannelRef) : p.message.headers.replyChannel = some reply →
      reply.name = name → r.channels.resolve reply = none → Strays r w name (.deliver p)

/-- What a router decides on is found if a stage consumes it. -/
theorem emissions_ne_error (hname : r.flow.consumers name ≠ []) (stage : FlowStage)
    (outcome : Outcome) : r.emissions stage outcome ≠ .error (.destination name) := by
  cases outcome with
  | route decision =>
    unfold emissions
    dsimp only
    split
    · simp
    · next hunresolved =>
      have hother : decision.channel.name ≠ name := by
        intro he
        have hresolvable : r.isResolvable decision.channel = true := by
          rw [isResolvable, he]
          simp [hname]
        exact hunresolved hresolvable
      cases decision.fallback with
      | some ref => simp
      | none => cases decision.required <;> simp [hother]
  | _ => simp [emissions]

theorem destination_of_accepts {p : Parcel} (h : r.accepts w p = .error (.destination name)) :
    r.channels.resolve (r.destination p) = none ∧ (r.destination p).name = name := by
  unfold accepts at h
  cases hresolve : r.channels.resolve (r.destination p) with
  | none =>
    simp only [hresolve] at h
    cases h
    exact ⟨rfl, rfl⟩
  | some live =>
    simp only [hresolve, LiveRef.accepts] at h
    split at h <;> cases h

/-- A message is delivered where it was put, or where it asks for its reply. -/
theorem reply_of_destination {p : Parcel} (h : r.destination p ≠ p.channel) :
    p.message.headers.replyChannel = some (r.destination p) := by
  cases hreply : p.message.headers.replyChannel with
  | none => exact absurd (destination_of_unreplied hreply) h
  | some reply =>
    unfold destination at h ⊢
    rw [hreply] at h ⊢
    split at h
    · next hend => simp [hend]
    · exact absurd rfl h

theorem strays_of_failed (hname : r.flow.consumers name ≠ []) {a : Act} {parcels : List Parcel}
    (ha : a ∈ parcels.flatMap r.acts)
    (h : (r.perform a).exec w = some (.error (.destination name), v)) : r.Strays w name a := by
  cases fails_of_perform h with
  | invoked stage m u hinvoke => exact .invoked stage m u hinvoke
  | stranded stage m outcome u _ hemissions =>
    exact absurd hemissions (emissions_ne_error hname stage outcome)
  | undelivered p haccepts =>
    obtain ⟨q, -, hq⟩ := List.mem_flatMap.1 ha
    obtain ⟨hunresolved, hto⟩ := destination_of_accepts haccepts
    -- The message is not delivered where it was put, as this is no channel of that name.
    by_cases hself : r.destination p = p.channel
    · rw [hself] at hto
      exact absurd (hto ▸ free_of_acts hq) hname
    · exact .replied p (r.destination p) (reply_of_destination hself) hto hunresolved

end Runner

/-- Messages enter a flow by a stage, unless a call appended the first stage elsewhere after the
cursor was set by hand. A finished flow that has stages has one on its input then, and whatever is
sent to the flow is given to it first. A dispatch fails for want of a channel of that name only if a
stage says so itself, or over a reply that is to go there, which is looked up in the registry. -/
theorem input_consumed (id : String) (source : Source) (config : FlowConfig) (cs : List Call)
    (hplaced : ∀ before c after, cs = before ++ c :: after →
      (∃ c' ∈ before, c'.setsCursor = true) →
        ¬ ((FlowDefinition.start id source config).afterAll before).Misplaces c)
    (flow : Flow)
    (hflow : (Composer.finish.exec
      ((FlowDefinition.start id source config).afterAll cs)).1 = .ok flow)
    (hstages : flow.stages ≠ []) :
    ∃ stage rest, flow.consumers flow.input.name = stage :: rest ∧
      ∀ r : Runner, r.flow = flow → ∀ m,
        (r.send m = do
          let outcome ← stage.endpoint.invoke m
          let emitted ← r.forward stage outcome
          let further ← r.serve m rest
          Work.run r.visit (emitted ++ further)) ∧
        ∀ w v, (r.send m).exec w = some (.error (.destination flow.input.name), v) →
          ∃ emitted before a after u,
            (⟨flow.input, m⟩ :: emitted).flatMap r.acts = before ++ a :: after ∧
              (r.performAll before).exec w = some (.ok emitted, u) ∧
              (r.perform a).exec u = some (.error (.destination flow.input.name), v) ∧
              r.Strays u flow.input.name a := by
  have hstart : (FlowDefinition.start id source config).Entered False :=
    FlowDefinition.entered_start id source config
  have hentered := FlowDefinition.entered_afterAll (FlowDefinition.sound_start id source config)
    hstart cs fun before c after hcs hmoved =>
      hplaced before c after hcs (hmoved.resolve_left not_false)
  rw [Composer.result_finish] at hflow
  have hinput := FlowDefinition.input_of_finished hentered hflow hstages
  have hconsumed : flow.consumers flow.input.name ≠ [] := by
    obtain ⟨stage, hstage, hname⟩ := List.mem_map.1 hinput
    exact List.ne_nil_of_mem (List.mem_filter.2 ⟨hstage, by simp [hname]⟩)
  obtain ⟨stage, rest, hconsumers⟩ := List.exists_cons_of_ne_nil hconsumed
  refine ⟨stage, rest, hconsumers, ?_⟩
  rintro r rfl m
  have hsend : r.send m = Work.run r.visit [⟨r.flow.input, m⟩] := rfl
  refine ⟨?_, ?_⟩
  · rw [hsend, Work.run_cons, Runner.visit]
    simp only [hconsumers, Runner.serve, bind_assoc, pure_bind, List.nil_append]
  · intro w v hfails
    have hworked := Runner.worked_of_exec hfails
    cases hworked with
    | failed emitted before a after _ u _ hacts hbefore ha =>
      refine ⟨emitted, before, a, after, u, hacts, hbefore, ha, ?_⟩
      have hmem : a ∈ (([⟨r.flow.input, m⟩] : List Parcel) ++ emitted).flatMap r.acts := by
        rw [hacts]
        exact List.mem_append_right before List.mem_cons_self
      exact Runner.strays_of_failed hconsumed hmem ha

end

open Sample

/-- The cursor was set to another channel, and back ahead of the only stage. -/
theorem input_consumed_returned :
    let cs : List Call := [.setChannel (some (.named "other")), .setChannel (some (.named "in")),
      .stage (.bridge .standard)]
    ∃ flow stage, (Composer.finish.exec
        ((FlowDefinition.start "f" (.channel "in" false) .standard).afterAll cs)).1 = .ok flow ∧
      flow.consumers "in" = [stage] ∧
      ∀ r : Runner, r.flow = flow → ∀ m,
        r.send m = (do
          let outcome ← stage.endpoint.invoke m
          let emitted ← r.forward stage outcome
          Work.run r.visit emitted) := by
  intro cs
  have hplaced : ∀ before c after, cs = before ++ c :: after →
      (∃ c' ∈ before, c'.setsCursor = true) →
        ¬ ((FlowDefinition.start "f" (.channel "in" false) .standard).afterAll before).Misplaces
          c := by
    rintro before c after hcs - ⟨-, hstages, hat⟩
    rcases before with _ | ⟨first, _ | ⟨second, _ | ⟨third, before⟩⟩⟩ <;> simp [cs] at hcs
    · obtain ⟨rfl, -⟩ := hcs
      exact hstages rfl
    · obtain ⟨rfl, rfl, -⟩ := hcs
      exact hstages rfl
    · obtain ⟨rfl, rfl, -⟩ := hcs
      exact hat ⟨some (.named "in"), rfl, rfl⟩
  obtain ⟨stage, rest, hconsumers, hserved⟩ :=
    input_consumed "f" (.channel "in" false) .standard cs hplaced _ rfl nofun
  obtain rfl : rest = [] := (List.cons.inj hconsumers).2.symm
  refine ⟨_, stage, rfl, hconsumers, fun r hr m => ?_⟩
  rw [(hserved r hr m).1]
  simp [Runner.serve]

/-- The first stage was put on another channel. The flow is finished all the same, nothing consumes
its input, and whatever is sent to it fails for want of a channel. -/
theorem input_unconsumed :
    ∃ flow, (Composer.finish.exec
        ((FlowDefinition.start "f" (.channel "in" false) .standard).afterAll
          [.setChannel (some (.named "other")), .stage (.bridge .standard)])).1 = .ok flow ∧
      flow.stages.length = 1 ∧ flow.consumers flow.input.name = [] ∧
      ∃ r v, (Runner.create flow .empty).exec (.new 0) = some (.ok r, v) ∧
        ∀ m, m.headers.replyChannel = none →
          (r.send m).exec v = some (.error (.destination flow.input.name), v) := by
  refine ⟨_, rfl, rfl, rfl, _, _, rfl, ?_⟩
  intro m hreply
  rw [Runner.send, Runner.dispatch, Work.run_cons, Runner.visit_of_free rfl, Runner.deliver_eq,
    Runner.destination_of_unreplied hreply]
  rfl

end MessageFlow
