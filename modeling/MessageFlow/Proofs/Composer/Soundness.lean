import MessageFlow.Proofs.Composer.Calls
import MessageFlow.Proofs.Sample

/-!
# What always holds of a definition

`Sound` is what a composer can rely on, whatever was called before and whatever of it was refused:
names and components agree, every stage is registered under its id as the stage that it is, a
cursor on a component is on one that is there, the anonymous channels so far are registered, and so
are the outputs of stages.

Calls only add. `Grown` says of a definition that it has all of another and more, and that what it
has more is registered; a definition that has grown from a sound one is sound (`sound_of_grown`).
The order of the checks ahead of a stage matters in one place only, `grown_withStage`: the id and
the output are free, or a channel, when the stage is registered.
-/

namespace MessageFlow

section

variable [PayloadTypes]

namespace FlowDefinition

variable {d d' : FlowDefinition} {ref : ChannelRef} {place : Nat} {r : StageRequest}

/-- The name of an anonymous channel by its number. -/
def anonymousAt (d : FlowDefinition) (number : Nat) : String :=
  d.id ++ ".channel#" ++ toString number

/-- What holds of every definition that a composer may see. -/
structure Sound (d : FlowDefinition) : Prop where
  /-- A name stands for a place exactly if the component there bears it. -/
  names : d.components.Consistent
  /-- The id of a stage stands for this very stage. -/
  stages : ∀ index stage, d.stages[index]? = some stage →
    d.components.named stage.endpoint.info.id = some (.endpoint index)
  /-- There are no components for stages that do not exist. -/
  endpoints : ∀ place index, d.components.get place = some (.endpoint index) →
    index < d.stages.length
  /-- A component that the cursor is on is registered. -/
  cursor : d.Holds d.cursor
  /-- Every anonymous channel so far is registered under its name. -/
  anonymous : ∀ number, number < d.anonymous → d.components.named (d.anonymousAt number) =
    some (.channel (.anonymous (d.anonymousAt number)))
  /-- The outputs of stages are registered as channels. -/
  outputs : ∀ stage ∈ d.stages, ∀ ref, stage.endpoint.output = some ref →
    ∃ known, d.components.channelNamed ref.name = some known
  /-- A source that is no channel is the first component, and nothing else is a source. -/
  source : ∀ place, (∃ text, d.components.get place = some (.source text)) ↔
    d.source.channelRef = none ∧ place = 0

/-- A definition that has all of another and more. What it has more is registered. -/
structure Grown (d d' : FlowDefinition) : Prop where
  id : d'.id = d.id
  source : d'.source = d.source
  components : d.components.Grows d'.components fun c => d'.checkComponent c = .ok ()
  length : d.stages.length ≤ d'.stages.length
  stages : ∀ index stage, d'.stages[index]? = some stage →
    (∃ old, d.stages[index]? = some old ∧ old.endpoint.info = stage.endpoint.info) ∨
      d'.components.named stage.endpoint.info.id = some (.endpoint index)
  outputs : ∀ stage ∈ d'.stages, ∀ ref, stage.endpoint.output = some ref →
    (∃ old ∈ d.stages, old.endpoint.output = some ref) ∨
      ∃ known, d'.components.channelNamed ref.name = some known
  cursor : d'.cursor = d.cursor ∨ d'.Holds d'.cursor
  anonymous : ∀ number, number < d'.anonymous → number < d.anonymous ∨
    d'.components.named (d'.anonymousAt number) =
      some (.channel (.anonymous (d'.anonymousAt number)))

/-- A component may be added unless it is a source, or a stage that is not there. -/
theorem checkComponent_eq_ok {c : FlowComponent} : d.checkComponent c = .ok () ↔
    (∀ text, c ≠ .source text) ∧ ∀ index, c = .endpoint index → index < d.stages.length := by
  unfold checkComponent
  cases c with
  | endpoint index =>
    by_cases hindex : d.stages.length ≤ index
    · simp [hindex]
    · have hlt : index < d.stages.length := Nat.lt_of_not_le hindex
      simp [hlt]
  | _ => simp

/-- What grows out of a sound definition is sound. -/
theorem sound_of_grown (hd : d.Sound) (h : d.Grown d') : d'.Sound := by
  refine ⟨h.components.consistent, ?_, ?_, ?_, ?_, ?_, ?_⟩
  · intro index stage hstage
    rcases h.stages index stage hstage with ⟨old, hold, hinfo⟩ | hnew
    · rw [← hinfo]
      exact h.components.named hd.names (hd.stages index old hold)
    · exact hnew
  · intro place index hget
    rcases h.components.get_or_fresh hget with hold | hfresh
    · exact Nat.lt_of_lt_of_le (hd.endpoints place index hold) h.length
    · exact (checkComponent_eq_ok.1 hfresh).2 index rfl
  · rcases h.cursor with hsame | hholds
    · intro place hplace
      obtain ⟨c, hget⟩ := hd.cursor place (hsame ▸ hplace)
      exact ⟨c, h.components.get hget⟩
    · exact hholds
  · intro number hnumber
    rcases h.anonymous number hnumber with hold | hnew
    · have hname : d'.anonymousAt number = d.anonymousAt number := by
        unfold anonymousAt
        rw [h.id]
      rw [hname]
      exact h.components.named hd.names (hd.anonymous number hold)
    · exact hnew
  · intro stage hstage ref href
    rcases h.outputs stage hstage ref href with ⟨old, hold, hout⟩ | hnew
    · obtain ⟨known, hknown⟩ := hd.outputs old hold ref hout
      rw [ComponentRegistry.channelNamed_eq_some] at hknown
      exact ⟨known, ComponentRegistry.channelNamed_eq_some.2
        (h.components.named hd.names hknown)⟩
    · exact hnew
  · intro place
    rw [h.source, ← hd.source place]
    refine exists_congr fun text => ⟨fun hget => ?_, h.components.get⟩
    rcases h.components.get_or_fresh hget with hold | hfresh
    · exact hold
    · exact absurd rfl ((checkComponent_eq_ok.1 hfresh).1 text)

/-! ## Growing -/

/-- Components that may be registered by hand make a definition grow. -/
theorem grown_registered {components : ComponentRegistry}
    (h : d.components.Grows components fun c => d.checkComponent c = .ok ()) :
    d.Grown { d with components } :=
  ⟨rfl, rfl, h, Nat.le_refl _, fun _ stage hstage => .inl ⟨stage, hstage, rfl⟩,
    fun stage hstage _ href => .inl ⟨stage, hstage, href⟩, .inl rfl, fun _ hnumber => .inl hnumber⟩

/-- A definition grows by an anonymous channel. -/
theorem grown_withAnonymous (hd : d.components.Consistent)
    (hfree : d.components.contains d.anonymousName = false) : d.Grown d.withAnonymous := by
  have hpush : (d.components.push (.channel d.anonymousRef) (some d.anonymousName)).Consistent := by
    apply ComponentRegistry.consistent_push hd
    intro n hn
    cases hn
    exact hfree
  refine ⟨rfl, rfl, ComponentRegistry.grows_push hpush (checkComponent_eq_ok.2 (by simp)),
    Nat.le_refl _, fun _ stage hstage => .inl ⟨stage, hstage, rfl⟩,
    fun stage hstage _ href => .inl ⟨stage, hstage, href⟩, .inl rfl, ?_⟩
  intro number hnumber
  -- The number of the new channel is the one that the counter stood at.
  rcases Nat.lt_succ_iff_lt_or_eq.1 hnumber with hold | rfl
  · exact .inl hold
  · exact .inr (ComponentRegistry.named_push_self _ _ _)

/-- Wiring what the cursor is on changes the output of at most one stage. -/
theorem stage_wired {index : Nat} {stage : FlowStage}
    (h : (d.wired ref).stages[index]? = some stage) :
    ∃ old, d.stages[index]? = some old ∧ old.endpoint.info = stage.endpoint.info ∧
      (stage.endpoint.output = old.endpoint.output ∨ stage.endpoint.output = some ref) := by
  have hsame : d.stages[index]? = some stage → ∃ old, d.stages[index]? = some old ∧
      old.endpoint.info = stage.endpoint.info ∧
      (stage.endpoint.output = old.endpoint.output ∨ stage.endpoint.output = some ref) :=
    fun hstage => ⟨stage, hstage, rfl, .inl rfl⟩
  unfold wired at h
  split at h
  · next place hcursor =>
    unfold connected at h
    dsimp only at h
    split at h
    · next wiredIndex hget =>
      rw [List.getElem?_modify] at h
      obtain ⟨old, hold, rfl⟩ := Option.map_eq_some_iff.1 h
      refine ⟨old, hold, ?_⟩
      split
      · exact ⟨rfl, .inr rfl⟩
      · exact ⟨rfl, .inl rfl⟩
    · exact hsame h
  · exact hsame h

/-- What the cursor is on can be wired to a channel that is registered, or is so at once. -/
theorem grown_wired {components : ComponentRegistry}
    (h : d.components.Grows components fun c => d.checkComponent c = .ok ())
    (hknown : ∃ known, components.channelNamed ref.name = some known) :
    d.Grown { d.wired ref with components } := by
  have hframe : (d.wired ref).id = d.id ∧ (d.wired ref).source = d.source ∧
      (d.wired ref).cursor = d.cursor ∧ (d.wired ref).anonymous = d.anonymous := by
    unfold wired
    split <;> exact ⟨rfl, rfl, rfl, rfl⟩
  obtain ⟨hid, hsource, hcursor, hanonymous⟩ := hframe
  have hlength := wired_length d ref
  refine ⟨hid, hsource, ?_, Nat.le_of_eq hlength.symm, ?_, ?_, .inl hcursor, ?_⟩
  · obtain ⟨hcomponents, more, hmore, hfresh⟩ := h
    refine ⟨hcomponents, more, hmore, fun entry hentry => ?_⟩
    rw [checkComponent_eq_ok]
    show _ ∧ ∀ index, entry.1 = .endpoint index → index < (d.wired ref).stages.length
    rw [hlength]
    exact checkComponent_eq_ok.1 (hfresh entry hentry)
  · intro index stage hstage
    obtain ⟨old, hold, hinfo, -⟩ := stage_wired hstage
    exact .inl ⟨old, hold, hinfo⟩
  · intro stage hstage ref' href
    obtain ⟨index, hindex⟩ := List.mem_iff_getElem?.1 hstage
    obtain ⟨old, hold, -, hsame | hwired⟩ := stage_wired hindex
    · exact .inl ⟨old, List.mem_of_getElem? hold, hsame ▸ href⟩
    · rw [hwired] at href
      cases href
      exact .inr hknown
  · intro number hnumber
    exact .inl (hanonymous ▸ hnumber)

/-- The components with one more for the next stage. -/
def pushedStage (d : FlowDefinition) (stage : FlowStage) : ComponentRegistry :=
  d.components.push (.endpoint d.stages.length) (some stage.endpoint.info.id)

/-- A stage whose id is free keeps the components consistent. -/
theorem consistent_pushedStage (hd : d.components.Consistent) {stage : FlowStage}
    (hfree : d.components.contains stage.endpoint.info.id = false) :
    (d.pushedStage stage).Consistent := by
  apply ComponentRegistry.consistent_push hd
  intro n hn
  cases hn
  exact hfree

/-- The output of a stage is registered behind the stage, if it has one. -/
theorem grows_output (hd : d.components.Consistent) {stage : FlowStage}
    (h : d.Fits stage.endpoint.info.id stage.endpoint.output) :
    (d.pushedStage stage).Grows (d.withStage stage).components
        (fun c => (d.withStage stage).checkComponent c = .ok ()) ∧
      ∀ ref, stage.endpoint.output = some ref →
        ∃ known, (d.withStage stage).components.channelNamed ref.name = some known := by
  cases hout : stage.endpoint.output with
  | none =>
    have hcomponents : (d.withStage stage).components = d.pushedStage stage := by
      simp [withStage, pushedStage, hout]
    rw [hcomponents]
    exact ⟨.refl (consistent_pushedStage hd h.id_free), by simp⟩
  | some ref =>
    have hcomponents : (d.withStage stage).components = (d.pushedStage stage).withChannel ref := by
      simp [withStage, pushedStage, hout]
    have hconsistent := consistent_withStage hd h
    rw [hcomponents] at hconsistent ⊢
    refine ⟨ComponentRegistry.grows_withChannel hconsistent
      (checkComponent_eq_ok.2 (by simp)), ?_⟩
    intro ref' href
    cases href
    exact ComponentRegistry.exists_channelNamed_withChannel _ _

/-- Behind a stage the cursor is on its output, or on the stage while this has none. -/
theorem holds_withStage (hd : d.components.Consistent) {stage : FlowStage}
    (h : d.Fits stage.endpoint.info.id stage.endpoint.output) :
    (d.withStage stage).Holds (d.withStage stage).cursor := by
  intro place hplace
  cases hout : stage.endpoint.output with
  | none =>
    have hcursor : (d.withStage stage).cursor = .component d.components.size := by
      simp [withStage, hout]
    rw [hcursor] at hplace
    cases hplace
    exact ⟨_, (grows_output hd h).1.get (ComponentRegistry.get_push_size _ _ _)⟩
  | some ref =>
    have hcursor : (d.withStage stage).cursor = .channel ref := by simp [withStage, hout]
    rw [hcursor] at hplace
    cases hplace

/-- A stage whose id is free is registered as the last one, next to its output. -/
theorem grown_withStage (hd : d.components.Consistent) {stage : FlowStage}
    (h : d.Fits stage.endpoint.info.id stage.endpoint.output) : d.Grown (d.withStage stage) := by
  have hlength : (d.withStage stage).stages.length = d.stages.length + 1 := by simp [withStage]
  have hpushed := consistent_pushedStage hd h.id_free
  have hstage : (d.withStage stage).checkComponent (.endpoint d.stages.length) = .ok () := by
    rw [checkComponent_eq_ok, hlength]
    simp
  obtain ⟨hgrows, hknown⟩ := grows_output hd h
  refine ⟨rfl, rfl, (ComponentRegistry.grows_push hpushed hstage).trans hgrows, by omega, ?_, ?_,
    .inr (holds_withStage hd h), fun _ hnumber => .inl hnumber⟩
  · intro index stage' hstage'
    have hstages : (d.withStage stage).stages = d.stages ++ [stage] := rfl
    rw [hstages, List.getElem?_append] at hstage'
    split at hstage'
    · exact .inl ⟨stage', hstage', rfl⟩
    · next hindex =>
      obtain ⟨hlast, rfl⟩ : index - d.stages.length = 0 ∧ stage = stage' := by
        simpa [List.getElem?_singleton] using hstage'
      obtain rfl : index = d.stages.length := by omega
      exact .inr (hgrows.named hpushed (ComponentRegistry.named_push_self _ _ _))
  · intro stage' hstage' ref href
    rcases List.mem_append.1 hstage' with hold | hnew
    · exact .inl ⟨stage', hold, href⟩
    · cases List.mem_singleton.1 hnew
      exact .inr (hknown ref href)

/-! ## Calls -/

theorem holds_channel (d : FlowDefinition) (ref : ChannelRef) : d.Holds (.channel ref) := by
  intro place hplace
  cases hplace

/-- The cursor and the flag beside it can be set to anything that is there. -/
theorem sound_moved (hd : d.Sound) {cursor : Cursor} (hcursor : d.Holds cursor) (implicit : Bool) :
    Sound { d with cursor, implicit } :=
  ⟨hd.names, hd.stages, hd.endpoints, hcursor, hd.anonymous, hd.outputs, hd.source⟩

/-- What is known besides does not matter. -/
theorem sound_learning (hd : d.Sound) (target : Option ConvertTarget) : (d.learning target).Sound :=
  ⟨hd.names, hd.stages, hd.endpoints, hd.cursor, hd.anonymous, hd.outputs, hd.source⟩

/-- An extension keeps a definition sound. -/
theorem sound_extended (hd : d.Sound)
    (hfree : d.components.contains d.anonymousName = false) : d.extended.Sound := by
  have hanonymous := sound_of_grown hd (grown_withAnonymous hd.names hfree)
  have hcomponents : (d.withAnonymous.wired d.anonymousRef).components =
      d.withAnonymous.components := wired_components _ _
  have hgrows : d.withAnonymous.components.Grows (d.withAnonymous.wired d.anonymousRef).components
      fun c => d.withAnonymous.checkComponent c = .ok () := by
    rw [hcomponents]
    exact .refl hanonymous.names
  have hknown : ∃ known, (d.withAnonymous.wired d.anonymousRef).components.channelNamed
      d.anonymousRef.name = some known := by
    rw [hcomponents]
    exact ⟨_, ComponentRegistry.channelNamed_push_self _ _ _⟩
  exact sound_of_grown hanonymous (grown_wired hgrows hknown)

/-- A stage that is admitted keeps a definition sound. -/
theorem sound_appended (hd : d.Sound) (h : d.checkRequest r = .ok ()) : (d.appended r).Sound := by
  have hadmits := admits_of_checkStage h
  rcases hadmits.input with ⟨input, hinput, -⟩ | ⟨hinput, -⟩
  · rw [appended_of_some hinput]
    exact sound_of_grown hd (grown_withStage hd.names hadmits.toFits)
  · obtain ⟨hfree, hfits⟩ := hadmits.fits_extended hd.names hinput
    have hextended := sound_extended hd hfree
    rw [appended_of_none hinput]
    exact sound_of_grown hextended (grown_withStage hextended.names hfits)

/-- Going on from a channel keeps a definition sound. -/
theorem sound_continued (hd : d.Sound) (hcheck : d.checkChannel ref = .ok ())
    (hjoin : d.Joins ref d') : (d'.continued ref).Sound := by
  have hconsistent : (d'.components.withChannel ref).Consistent :=
    consistent_continued (consistent_joined hd.names hjoin) (checkChannel_joined hcheck hjoin)
  have hgrows : d'.components.Grows (d'.components.withChannel ref)
      fun c => d'.checkComponent c = .ok () :=
    ComponentRegistry.grows_withChannel hconsistent (checkComponent_eq_ok.2 (by simp))
  -- Once the channel is registered the cursor goes there.
  suffices hregistered : Sound { d' with components := d'.components.withChannel ref } from
    sound_moved hregistered (holds_channel _ ref) false
  cases hjoin with
  | nowhere => exact sound_of_grown hd (grown_registered hgrows)
  | there => exact sound_of_grown hd (grown_registered hgrows)
  | wire =>
    -- The output is set first and registered then.
    rw [wired_components] at hconsistent ⊢
    exact sound_of_grown hd (grown_wired
      (ComponentRegistry.grows_withChannel hconsistent (checkComponent_eq_ok.2 (by simp)))
      (ComponentRegistry.exists_channelNamed_withChannel _ _))
  | bridge origin _ _ hrequest =>
    have hbridged : ((d.onChannel origin).appended (.bridgeTo ref)).Sound :=
      sound_appended (sound_moved hd (holds_channel d origin) d.implicit) hrequest
    exact sound_of_grown hbridged (grown_registered hgrows)

/-- Every call keeps a definition sound. -/
theorem sound_step {c : Call} {result : Except Failure (List Nat)} (h : Step d c result d')
    (hd : d.Sound) : d'.Sound := by
  cases h with
  | refused => exact sound_learning hd c.learns
  | appended f r hadmitted =>
    obtain ⟨-, -, hcheck⟩ := Factory.admitted_eq_ok.1 hadmitted
    exact sound_appended (sound_learning hd f.learns) hcheck
  | continued ref d' hcheck hjoin => exact sound_continued hd hcheck hjoin
  | added component name hfree hcheck =>
    exact sound_of_grown hd (grown_registered (ComponentRegistry.grows_push
      (ComponentRegistry.consistent_push hd.names hfree) hcheck))
  | addedAll batch hclash hcheck =>
    exact sound_of_grown hd (grown_registered
      ⟨ComponentRegistry.consistent_pushAll hclash hd.names, batch,
        ComponentRegistry.entries_pushAll _ _, hcheck⟩)
  | learned target => exact sound_learning hd (some target)
  | moved c cursor _ hcursor =>
    refine sound_moved hd ?_ d.implicit
    rcases hcursor with hsame | hholds
    · exact hsame ▸ hd.cursor
    · exact hholds
  | flagged implicit => exact sound_moved hd hd.cursor implicit

/-- A fresh definition has one component, which is its source. -/
theorem get_start (id : String) (source : Source) (config : FlowConfig) (place : Nat) :
    (start id source config).components.get place =
      if place = 0 then
        some (match source.channelRef with
          | some ref => .channel ref
          | none => .source source.describe)
      else none := by
  unfold start
  cases source.channelRef <;> cases place <;> rfl

/-- A definition is sound at first. -/
theorem sound_start (id : String) (source : Source) (config : FlowConfig) :
    (start id source config).Sound := by
  have hstages : (start id source config).stages = [] := rfl
  refine ⟨consistent_start id source config, by simp [hstages], ?_, ?_,
    fun _ hnumber => absurd hnumber (Nat.not_lt_zero _), by simp [hstages], ?_⟩
  · intro place index hget
    rw [get_start] at hget
    cases hsource : source.channelRef <;> simp [hsource] at hget
  · intro place hcursor
    cases hsource : source.channelRef with
    | some ref => simp [start, hsource] at hcursor
    | none =>
      have hplace : 0 = place := by simpa [start, hsource] using hcursor
      exact ⟨_, by rw [get_start, if_pos hplace.symm]⟩
  · intro place
    rw [get_start]
    show _ ↔ source.channelRef = none ∧ place = 0
    cases hsource : source.channelRef <;> by_cases hplace : place = 0 <;> simp [hplace]

/-- A definition is sound whatever was called. -/
theorem sound_of_reachable (h : Reachable d) : d.Sound := by
  induction h with
  | start id source config => exact sound_start id source config
  | call c _ ih => exact sound_step (c.step_of_call ih.names) ih

/-! ## Finished flows -/

/-- The stages of a definition are still there, though an output may be set. -/
def Keeps (d d' : FlowDefinition) : Prop :=
  ∀ (index : Nat) (stage : FlowStage), d.stages[index]? = some stage →
    ∃ kept : FlowStage, d'.stages[index]? = some kept ∧ kept.endpoint.info = stage.endpoint.info

theorem keeps_refl (d : FlowDefinition) : d.Keeps d :=
  fun _ stage hstage => ⟨stage, hstage, rfl⟩

theorem keeps_extended (d : FlowDefinition) : d.Keeps d.extended := by
  intro index stage hstage
  -- There are as many stages as before, so there is one at this index.
  have hlength : d.extended.stages.length = d.stages.length :=
    wired_length d.withAnonymous d.anonymousRef
  have hlt : index < d.extended.stages.length :=
    hlength ▸ (List.getElem?_eq_some_iff.1 hstage).1
  have hkept := List.getElem?_eq_getElem hlt
  obtain ⟨old, hold, hinfo, -⟩ := stage_wired hkept
  have hsame : d.stages[index]? = some old := hold
  rw [hstage] at hsame
  cases hsame
  exact ⟨_, hkept, hinfo.symm⟩

/-- Finishing a definition sets one output at most. -/
theorem sound_ended (hd : d.Sound) {output : Option ChannelRef}
    (hended : d.ended = .ok (output, d')) : d'.Sound ∧ d.Keeps d' := by
  rcases ended_eq_ok hended with rfl | ⟨-, hfree, rfl⟩
  · exact ⟨hd, keeps_refl _⟩
  · exact ⟨sound_extended hd hfree, keeps_extended d⟩

/-- No two stages of a sound definition have one id. -/
theorem Sound.index_inj (hd : d.Sound) {index index' : Nat} {stage stage' : FlowStage}
    (h : d.stages[index]? = some stage) (h' : d.stages[index']? = some stage')
    (hid : stage.endpoint.info.id = stage'.endpoint.info.id) : index = index' := by
  have hnamed := hd.stages index stage h
  rw [hid, hd.stages index' stage' h'] at hnamed
  cases hnamed
  rfl

/-- A stage of a sound definition is found by its id. -/
theorem Sound.find_stage (hd : d.Sound) {index : Nat} {stage : FlowStage}
    (h : d.stages[index]? = some stage) :
    d.stages.find? (·.endpoint.info.id == stage.endpoint.info.id) = some stage := by
  cases hfind : d.stages.find? (·.endpoint.info.id == stage.endpoint.info.id) with
  | none =>
    have hother := List.find?_eq_none.1 hfind stage (List.mem_of_getElem? h)
    simp at hother
  | some found =>
    obtain ⟨index', hindex'⟩ := List.mem_iff_getElem?.1 (List.mem_of_find?_eq_some hfind)
    have hid : found.endpoint.info.id = stage.endpoint.info.id := by
      simpa using List.find?_some hfind
    obtain rfl := hd.index_inj hindex' h hid
    rw [← hindex', h]

/-- The stages of a finished flow are found by the ids that they had all along. -/
theorem stage_of_finished (hd : d.Sound) {flow : Flow} (hflow : d.finished = .ok flow)
    {index : Nat} {stage : FlowStage} (hstage : d.stages[index]? = some stage) :
    ∃ ended, flow.stages[index]? = some ended ∧ ended.endpoint.info = stage.endpoint.info ∧
      flow.stage stage.endpoint.info.id = some ended := by
  obtain ⟨input, -, hrest⟩ := look_bind_eq_ok.1 hflow
  obtain ⟨⟨output, d'⟩, hended, hrest⟩ := look_bind_eq_ok.1 hrest
  obtain ⟨_, -, hflow⟩ := look_bind_eq_ok.1 hrest
  cases hflow
  obtain ⟨hd', hkeeps⟩ := sound_ended hd hended
  obtain ⟨ended, hindex, hinfo⟩ := hkeeps index stage hstage
  exact ⟨ended, hindex, hinfo, hinfo ▸ hd'.find_stage hindex⟩

end FlowDefinition

/-- Every definition that a composer may see is sound, whatever was called and whatever of it was
refused. So no two components bear one name and no two stages one id, and a flow that is finished
from it finds each of its stages by its id. -/
theorem reachable_sound {d : FlowDefinition} (h : Reachable d) :
    d.Sound ∧
      (∀ name place place', d.components.name place = some name →
        d.components.name place' = some name → place = place') ∧
      (∀ (index index' : Nat) (stage stage' : FlowStage), d.stages[index]? = some stage →
        d.stages[index']? = some stage' →
        stage.endpoint.info.id = stage'.endpoint.info.id → index = index') ∧
      ∀ flow, (Composer.finish.exec d).1 = .ok flow →
        ∀ (index : Nat) (stage : FlowStage), d.stages[index]? = some stage →
          ∃ ended : FlowStage, flow.stages[index]? = some ended ∧
            ended.endpoint.info = stage.endpoint.info ∧
            flow.stage stage.endpoint.info.id = some ended := by
  have hd := FlowDefinition.sound_of_reachable h
  refine ⟨hd, ?_, fun _ _ _ _ => hd.index_inj, ?_⟩
  · intro name place place' hplace hplace'
    have hfind := (hd.names name place).2 hplace
    rw [(hd.names name place').2 hplace'] at hfind
    cases hfind
    rfl
  · intro flow hflow index stage hstage
    rw [Composer.result_finish] at hflow
    exact FlowDefinition.stage_of_finished hd hflow hstage

end

open Sample

/-- The first stage is wired through an alias of it, to which the cursor was set by hand; a stage
that asks for the name of the alias is refused. -/
theorem reachable_sound_alias :
    let d := (FlowDefinition.start "f" (.channel "in" false) .standard).afterAll
      [.stage (.bridge .standard), .addComponent (.endpoint 0) (some "alias"),
        .stage (.bridge { EndpointSpec.standard with id := some "alias" }),
        .setComponent (some 2), .stage (.bridge .standard)]
    d.Sound ∧ d.anonymous = 1 ∧ d.components.find "alias" = some 2 ∧
      ∃ flow ended, (Composer.finish.exec d).1 = .ok flow ∧
        flow.stages[0]? = some ended ∧ flow.stage "f.bridge#0" = some ended ∧
        ended.endpoint.output.map ChannelRef.name = some "f.channel#0" := by
  obtain ⟨hsound, -, -, hfinished⟩ := reachable_sound
    (reachable_afterAll (.start "f" (.channel "in" false) .standard)
      [.stage (.bridge .standard), .addComponent (.endpoint 0) (some "alias"),
        .stage (.bridge { EndpointSpec.standard with id := some "alias" }),
        .setComponent (some 2), .stage (.bridge .standard)])
  obtain ⟨ended, hended, -, hfound⟩ := hfinished _ rfl 0 _ rfl
  refine ⟨hsound, rfl, rfl, _, ended, rfl, hended, hfound, ?_⟩
  cases hended
  rfl

end MessageFlow
