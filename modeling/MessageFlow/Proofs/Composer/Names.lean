import MessageFlow.Proofs.Composer.Settled

/-!
# The names of a flow

A flow gives names of its own to anonymous channels and to stages without an id. They share one
registry with each other and with the names that its composer chose.

What carries everything here is that every name in the registry is known by where it comes from:
`Taken` lists what can be there once so many stages and anonymous channels are, and a generated name
has a number that none of them has yet. A definition stays `Kempt` with each channel and each stage
that its composer chose the names of with care.
-/

namespace MessageFlow

/-! ## Generated names -/

/-- A name that a flow generates: for an anonymous channel, or for a stage of some kind. -/
def generatedName (flow part : String) (number : Nat) : String :=
  flow ++ "." ++ part ++ "#" ++ toString number

/-- Different numbers have different texts. -/
theorem toString_inj {m n : Nat} (h : toString m = toString n) : m = n := by
  have hdigits : Nat.toDigits 10 m = Nat.toDigits 10 n := by
    simpa [Nat.toString_eq_ofList_toDigits] using congrArg String.toList h
  rw [← Nat.ofDigitChars_ten_toDigits (n := m), hdigits, Nat.ofDigitChars_ten_toDigits]

/-- What stands before the mark can be told from what stands behind it. -/
theorem split_at_mark {mark : Char} {before before' after after' : List Char}
    (h : before ++ mark :: after = before' ++ mark :: after')
    (hbefore : mark ∉ before) (hbefore' : mark ∉ before') : before = before' ∧ after = after' := by
  have hfirst : before = before' := by
    have htake := congrArg (List.takeWhile (· != mark)) h
    have hall : ∀ {cs : List Char}, mark ∉ cs → ∀ c ∈ cs, (c != mark) = true := fun hcs c hc =>
      bne_iff_ne.2 fun he => hcs (he ▸ hc)
    rw [List.takeWhile_append_of_pos (hall hbefore),
      List.takeWhile_append_of_pos (hall hbefore')] at htake
    simpa using htake
  subst hfirst
  exact ⟨rfl, by simpa using h⟩

/-- Generated names are told apart by their part and their number. -/
theorem generatedName_inj {flow part part' : String} {m n : Nat}
    (h : generatedName flow part m = generatedName flow part' n)
    (hpart : '#' ∉ part.toList) (hpart' : '#' ∉ part'.toList) : part = part' ∧ m = n := by
  have hlists := congrArg String.toList h
  simp only [generatedName, String.toList_append, List.append_assoc,
    List.append_cancel_left_eq] at hlists
  -- Neither part has a mark in it, so the first mark is the one before the number.
  obtain ⟨hparts, hnumbers⟩ := split_at_mark hlists hpart hpart'
  exact ⟨String.toList_inj.1 hparts, toString_inj (String.toList_inj.1 hnumbers)⟩

theorem mark_not_mem_kind (kind : StageKind) : '#' ∉ kind.name.toList := by
  cases kind <;> decide

theorem mark_not_mem_channel : '#' ∉ "channel".toList := by
  decide

/-- No kind of stage is called a channel. -/
theorem kind_name_ne_channel (kind : StageKind) : kind.name ≠ "channel" := by
  cases kind <;> decide

/-- Ids that were generated for stages are told apart by their numbers. -/
theorem generatedName_stage_inj {flow : String} {kind kind' : StageKind} {m n : Nat}
    (h : generatedName flow kind.name m = generatedName flow kind'.name n) : m = n :=
  (generatedName_inj h (mark_not_mem_kind kind) (mark_not_mem_kind kind')).2

/-- Stages and anonymous channels do not get in each other's way. -/
theorem generatedName_stage_ne_channel {flow : String} {kind : StageKind} {m n : Nat} :
    generatedName flow kind.name m ≠ generatedName flow "channel" n := by
  intro h
  exact kind_name_ne_channel kind
    (generatedName_inj h (mark_not_mem_kind kind) mark_not_mem_channel).1

theorem generatedName_ne_empty {flow part : String} {number : Nat} :
    generatedName flow part number ≠ "" := by
  intro h
  have hlists := congrArg String.toList h
  simp [generatedName] at hlists

/-- A name of the form that a flow generates. -/
def IsGenerated (flow name : String) : Prop :=
  ∃ number, name = generatedName flow "channel" number ∨
    ∃ kind : StageKind, name = generatedName flow kind.name number

/-- Whatever does not start with the id of the flow and a dot was not generated. -/
theorem not_isGenerated {flow name : String}
    (h : ¬ (flow.toList ++ ['.']) <+: name.toList) : ¬ IsGenerated flow name := by
  rintro ⟨number, rfl | ⟨kind, rfl⟩⟩ <;>
    exact h (by simp [generatedName])

/-! ## Names in a registry -/

/-- A name that only channels bear. -/
def IsChannel (id : String) (given : List String) (name : String) : Prop :=
  name ∈ given ∨ ∃ number, name = generatedName id "channel" number

namespace ComponentRegistry

variable {r : ComponentRegistry} {taken taken' isChannel : String → Prop} {name : String}
  {component : FlowComponent} {ref : ChannelRef}

/-- Only certain names are taken, and some of them by channels only. -/
structure Clear (r : ComponentRegistry) (taken isChannel : String → Prop) : Prop where
  consistent : r.Consistent
  taken : ∀ name, r.contains name = true → taken name
  channels : ∀ name, isChannel name → r.contains name = true →
    ∃ known, r.channelNamed name = some known

/-- What is clear of more names is clear of fewer. -/
theorem Clear.mono (h : r.Clear taken isChannel) (htaken : ∀ name, taken name → taken' name) :
    r.Clear taken' isChannel :=
  ⟨h.consistent, fun name hname => htaken name (h.taken name hname), h.channels⟩

/-- A name that is not taken is free. -/
theorem Clear.free (h : r.Clear taken isChannel) (hname : ¬ taken name) :
    r.contains name = false := by
  cases hcontains : r.contains name with
  | false => rfl
  | true => exact absurd (h.taken name hcontains) hname

/-- A name for channels is free, or a channel bears it. -/
theorem Clear.free_or_channel (h : r.Clear taken isChannel) (hname : isChannel name) :
    r.contains name = false ∨ ∃ known, r.channelNamed name = some known := by
  cases hcontains : r.contains name with
  | false => exact .inl rfl
  | true => exact .inr (h.channels name hname hcontains)

/-- Components stay clear when a name is taken that was free. -/
theorem clear_push (h : r.Clear taken isChannel) (hfree : r.contains name = false)
    (hname : taken name) (hchannel : isChannel name → ∃ ref, component = .channel ref) :
    (r.push component (some name)).Clear taken isChannel := by
  have hconsistent : (r.push component (some name)).Consistent := by
    apply consistent_push h.consistent
    intro n hn
    cases hn
    exact hfree
  refine ⟨hconsistent, ?_, ?_⟩
  · intro other hother
    rcases eq_or_contains_of_push hother with he | hold
    · cases he
      exact hname
    · exact h.taken other hold
  · intro other hother hcontains
    by_cases hne : other = name
    · -- If the new name is one for channels, then the new component is a channel.
      subst hne
      obtain ⟨ref, rfl⟩ := hchannel hother
      exact ⟨ref, channelNamed_push_self r ref other⟩
    · rw [contains_push_of_ne hne] at hcontains
      rw [h.consistent.channelNamed_push_of_ne hne]
      exact h.channels other hother hcontains

/-- Components stay clear when a channel is named. -/
theorem clear_withChannel (h : r.Clear taken isChannel) (hname : taken ref.name)
    (hchannel : isChannel ref.name) : (r.withChannel ref).Clear taken isChannel := by
  unfold withChannel
  split
  · next hnone =>
    have hfree : r.contains ref.name = false := by
      rcases h.free_or_channel hchannel with hfree | ⟨known, hknown⟩
      · exact hfree
      · simp [hknown] at hnone
    exact clear_push h hfree hname fun _ => ⟨ref, rfl⟩
  · exact h

end ComponentRegistry

/-! ## Fresh names -/

variable [PayloadTypes]

/-- A name that is given once a number of stages and of anonymous channels are there. -/
inductive Taken (id : String) (source : Source) (given ids : List String)
    (stages anonymous : Nat) : String → Prop where
  | source (name : String) : source.componentName = some name →
      Taken id source given ids stages anonymous name
  | channel (name : String) : name ∈ given → Taken id source given ids stages anonymous name
  | id (name : String) : name ∈ ids → Taken id source given ids stages anonymous name
  | stage (kind : StageKind) (number : Nat) : number < stages →
      Taken id source given ids stages anonymous (generatedName id kind.name number)
  | anonymous (number : Nat) : number < anonymous →
      Taken id source given ids stages anonymous (generatedName id "channel" number)

/-- Names that are chosen for channels and stages of a flow, none of which could be generated. -/
structure Chosen (id : String) (source : Source) (given ids : List String) : Prop where
  nonempty : ∀ name ∈ given, name ≠ ""
  ungenerated : ∀ name, name ∈ given ∨ name ∈ ids ∨ source.componentName = some name →
    ¬ IsGenerated id name

/-- A stage whose id and output were chosen with care. -/
structure Suits (r : StageRequest) (source : Source) (given ids : List String) : Prop where
  id : ∀ name, r.spec.id = some name →
    name ∉ ids ∧ name ∉ given ∧ source.componentName ≠ some name
  output : ∀ ref, r.spec.output = some ref → ref.name ∈ given ∧
    (source.isFixedSubscriber = true → source.channelRef.map ChannelRef.name ≠ some ref.name)

section Fresh

variable {id : String} {source : Source} {given ids : List String} {stages anonymous : Nat}
  {r : StageRequest} {name : String}

/-- What is taken stays taken as a flow grows. -/
theorem taken_mono {ids' : List String} {stages' anonymous' : Nat}
    (h : Taken id source given ids stages anonymous name) (hids : ∀ name ∈ ids, name ∈ ids')
    (hstages : stages ≤ stages') (hanonymous : anonymous ≤ anonymous') :
    Taken id source given ids' stages' anonymous' name := by
  cases h with
  | source _ hname => exact .source name hname
  | channel _ hname => exact .channel name hname
  | id _ hname => exact .id name (hids name hname)
  | stage kind number hnumber => exact .stage kind number (Nat.lt_of_lt_of_le hnumber hstages)
  | anonymous number hnumber => exact .anonymous number (Nat.lt_of_lt_of_le hnumber hanonymous)

/-- What was chosen well for more stages was chosen well for fewer. -/
theorem Chosen.before {more : List String} (h : Chosen id source given (ids ++ more)) :
    Chosen id source given ids := by
  refine ⟨h.nonempty, fun name hname => h.ungenerated name ?_⟩
  rcases hname with hgiven | hid | hsource
  · exact .inl hgiven
  · exact .inr (.inl (List.mem_append_left more hid))
  · exact .inr (.inr hsource)

/-- A name that could be generated is taken only as such. -/
theorem not_taken_generated (h : Chosen id source given ids) (hname : IsGenerated id name)
    (hstage : ∀ kind : StageKind, ∀ number < stages, name ≠ generatedName id kind.name number)
    (hchannel : ∀ number < anonymous, name ≠ generatedName id "channel" number) :
    ¬ Taken id source given ids stages anonymous name := by
  intro htaken
  cases htaken with
  | source _ hsource => exact h.ungenerated name (.inr (.inr hsource)) hname
  | channel _ hgiven => exact h.ungenerated name (.inl hgiven) hname
  | id _ hid => exact h.ungenerated name (.inr (.inl hid)) hname
  | stage kind number hnumber => exact hstage kind number hnumber rfl
  | anonymous number hnumber => exact hchannel number hnumber rfl

/-- A chosen name is taken only if it was chosen before. -/
theorem not_taken_chosen (hgenerated : ¬ IsGenerated id name) (hids : name ∉ ids)
    (hgiven : name ∉ given) (hsource : source.componentName ≠ some name) :
    ¬ Taken id source given ids stages anonymous name := by
  intro htaken
  cases htaken with
  | source _ hname => exact hsource hname
  | channel _ hname => exact hgiven hname
  | id _ hname => exact hids hname
  | stage kind number => exact hgenerated ⟨number, .inr ⟨kind, rfl⟩⟩
  | anonymous number => exact hgenerated ⟨number, .inl rfl⟩

/-- The name of the next anonymous channel is not taken. -/
theorem not_taken_anonymous (h : Chosen id source given ids) :
    ¬ Taken id source given ids stages anonymous (generatedName id "channel" anonymous) := by
  refine not_taken_generated h ⟨anonymous, .inl rfl⟩ ?_ ?_
  · intro kind number _ he
    exact generatedName_stage_ne_channel he.symm
  · intro number hnumber he
    have hsame := (generatedName_inj he mark_not_mem_channel mark_not_mem_channel).2
    omega

/-- The id that is generated for the next stage is not taken. -/
theorem not_taken_stage (h : Chosen id source given ids) (kind : StageKind) :
    ¬ Taken id source given ids stages anonymous (generatedName id kind.name stages) := by
  refine not_taken_generated h ⟨stages, .inr ⟨kind, rfl⟩⟩ ?_ ?_
  · intro kind' number hnumber he
    have hsame := generatedName_stage_inj he
    omega
  · intro number _ he
    exact generatedName_stage_ne_channel he

theorem info_id_of_some (hid : r.spec.id = some name) : (r.info id stages).id = name := by
  simp [StageRequest.info, hid]

theorem info_id_of_none (hid : r.spec.id = none) :
    (r.info id stages).id = generatedName id r.kind.name stages := by
  simp [StageRequest.info, hid, generatedName]

/-- The id of the next stage is no name yet, and no name for a channel. -/
theorem not_taken_info (h : Chosen id source given (ids ++ r.spec.id.toList))
    (hr : Suits r source given ids) :
    ¬ Taken id source given ids stages anonymous (r.info id stages).id ∧
      ¬ IsChannel id given (r.info id stages).id := by
  cases hid : r.spec.id with
  | some name =>
    obtain ⟨hids, hgiven, hsource⟩ := hr.id name hid
    -- The id was chosen, so it has to be told from what was chosen before.
    have hname : ¬ IsGenerated id name := h.ungenerated name (.inr (.inl (by simp [hid])))
    rw [info_id_of_some hid]
    refine ⟨not_taken_chosen hname hids hgiven hsource, ?_⟩
    rintro (hgiven' | ⟨number, hnumber⟩)
    · exact hgiven hgiven'
    · exact hname ⟨number, .inl hnumber⟩
  | none =>
    -- The id is generated, so its number is new and its part is no channel's.
    simp only [hid, Option.toList_none, List.append_nil] at h
    rw [info_id_of_none hid]
    refine ⟨not_taken_stage h r.kind, ?_⟩
    rintro (hgiven | ⟨number, hnumber⟩)
    · exact h.ungenerated _ (.inl hgiven) ⟨stages, .inr ⟨r.kind, rfl⟩⟩
    · exact generatedName_stage_ne_channel hnumber

/-- The id of a stage is taken when the stage was appended. -/
theorem taken_info : Taken id source given (ids ++ r.spec.id.toList) (stages + 1) anonymous
    (r.info id stages).id := by
  cases hid : r.spec.id with
  | some name =>
    rw [info_id_of_some hid]
    exact .id name (by simp)
  | none =>
    rw [info_id_of_none hid]
    exact .stage r.kind stages (Nat.lt_succ_self _)

end Fresh

/-! ## Definitions that keep their names apart -/

namespace FlowDefinition

variable {d : FlowDefinition} {id : String} {source : Source} {given ids : List String}
  {ref : ChannelRef}

theorem anonymousName_eq (d : FlowDefinition) :
    d.anonymousName = generatedName d.id "channel" d.anonymous := by
  have hmark : ".channel#" = "." ++ ("channel" ++ "#") := rfl
  unfold anonymousName generatedName
  rw [hmark]
  simp only [String.append_assoc]

/-- The names of a definition are kept apart: it is known what is taken, and every input of a stage
is registered as a channel. -/
structure Kempt (d : FlowDefinition) (id : String) (source : Source) (given ids : List String) :
    Prop where
  origin : d.id = id ∧ d.source = source
  clear : d.components.Clear (Taken id source given ids d.stages.length d.anonymous)
    (IsChannel id given)
  inputs : ∀ name ∈ inputNames d.stages,
    name ≠ "" ∧ IsChannel id given name ∧ d.components.contains name = true

/-- The next anonymous channel can be created. -/
theorem Kempt.anonymous_free (h : d.Kempt id source given ids)
    (hchosen : Chosen id source given ids) :
    d.components.contains d.anonymousName = false := by
  rw [anonymousName_eq, h.origin.1]
  exact h.clear.free (not_taken_anonymous hchosen)

/-- A channel that was given can be named. -/
theorem Kempt.checkChannel (h : d.Kempt id source given ids) (href : ref.name ∈ given) :
    d.checkChannel ref = .ok () :=
  checkChannel_eq_ok.2 (h.clear.free_or_channel (.inl href))

/-- An anonymous channel keeps a definition in order. -/
theorem kempt_withAnonymous (h : d.Kempt id source given ids)
    (hchosen : Chosen id source given ids) : d.withAnonymous.Kempt id source given ids := by
  have hfree := h.anonymous_free hchosen
  refine ⟨h.origin, ?_, ?_⟩
  · have hclear := h.clear.mono fun name hname =>
      taken_mono hname (fun _ hid => hid) (Nat.le_refl _) (Nat.le_succ d.anonymous)
    refine ComponentRegistry.clear_push hclear hfree ?_ fun _ => ⟨_, rfl⟩
    rw [anonymousName_eq, h.origin.1]
    exact .anonymous d.anonymous (Nat.lt_succ_self _)
  · intro name hname
    obtain ⟨hne, hchannel, hcontains⟩ := h.inputs name hname
    exact ⟨hne, hchannel, ComponentRegistry.contains_push hcontains _ _⟩

/-- Wiring keeps a definition in order. -/
theorem kempt_wired (h : d.Kempt id source given ids) (ref : ChannelRef) :
    (d.wired ref).Kempt id source given ids := by
  have horigin := origin_wired d ref
  refine ⟨⟨(congrArg (·.1) horigin).trans h.origin.1,
    (congrArg (·.2.1) horigin).trans h.origin.2⟩, ?_, ?_⟩
  · rw [wired_components, wired_length, wired_anonymous]
    exact h.clear
  · rw [inputNames_wired, wired_components]
    exact h.inputs

theorem kempt_extended (h : d.Kempt id source given ids) (hchosen : Chosen id source given ids) :
    d.extended.Kempt id source given ids :=
  kempt_wired (kempt_withAnonymous h hchosen) d.anonymousRef

/-- A stage of a new id, on a channel that is registered. -/
theorem kempt_withStage (h : d.Kempt id source given ids) {stage : FlowStage}
    {ids' : List String} (hids : ∀ name ∈ ids, name ∈ ids')
    (hfree : d.components.contains stage.endpoint.info.id = false)
    (htaken : Taken id source given ids' (d.stages.length + 1) d.anonymous
      stage.endpoint.info.id)
    (hother : ¬ IsChannel id given stage.endpoint.info.id)
    (hinput : stage.input.name ≠ "" ∧ IsChannel id given stage.input.name ∧
      d.components.contains stage.input.name = true)
    (houtput : ∀ ref, stage.endpoint.output = some ref → ref.name ∈ given) :
    (d.withStage stage).Kempt id source given ids' := by
  have hclear := h.clear.mono fun name hname =>
    taken_mono hname hids (Nat.le_succ d.stages.length) (Nat.le_refl d.anonymous)
  have hpush : (d.components.push (.endpoint d.stages.length)
      (some stage.endpoint.info.id)).Clear
        (Taken id source given ids' (d.stages.length + 1) d.anonymous) (IsChannel id given) :=
    ComponentRegistry.clear_push hclear hfree htaken fun hchannel => absurd hchannel hother
  have hlength : (d.withStage stage).stages.length = d.stages.length + 1 := by simp [withStage]
  have hnames : inputNames (d.withStage stage).stages =
      inputNames d.stages ++ [stage.input.name] := by simp [withStage, inputNames]
  have hgrows : ∀ name, d.components.contains name = true →
      (d.withStage stage).components.contains name = true := fun name =>
    contains_withStage
  refine ⟨h.origin, ?_, ?_⟩
  · rw [hlength]
    show (d.withStage stage).components.Clear (Taken id source given ids' _ d.anonymous) _
    unfold withStage
    -- The id is taken first, and the output is registered after it.
    cases hout : stage.endpoint.output with
    | none => exact hpush
    | some ref =>
      exact ComponentRegistry.clear_withChannel hpush (.channel _ (houtput ref hout))
        (.inl (houtput ref hout))
  · rw [hnames]
    intro name hname
    rcases List.mem_append.1 hname with hold | hnew
    · obtain ⟨hne, hchannel, hcontains⟩ := h.inputs name hold
      exact ⟨hne, hchannel, hgrows name hcontains⟩
    · obtain rfl := List.mem_singleton.1 hnew
      exact ⟨hinput.1, hinput.2.1, hgrows _ hinput.2.2⟩

end FlowDefinition

end MessageFlow
