import MessageFlow.Proofs.Composer.Names
import MessageFlow.Proofs.Composer.Refusal
import MessageFlow.Proofs.Composer.Sketch
import MessageFlow.Proofs.Sample

/-!
# Names that never collide

`Tidy` says what care a composer has to take with names; `tidy_calls_succeed`, that nothing is
refused then, however many calls there are.

The induction is on the calls, and a definition stays `Tidied` with each: its names are kept apart,
and it is known which channel comes next.
-/

namespace MessageFlow

theorem filterMap_middle {α β : Type} (f : α → Option β) (xs ys : List α) (x : α) :
    (xs ++ x :: ys).filterMap f = xs.filterMap f ++ ((f x).toList ++ ys.filterMap f) := by
  rw [List.filterMap_append, List.filterMap_cons]
  cases f x <;> rfl

section

variable [PayloadTypes]

/-! ## What calls name -/

namespace Call

/-- The id that a call gives to its stage. -/
def stageId : Call → Option String
  | stage f => f.options.id
  | _ => none

/-- The channel that a call names: the output of its stage, or the one it continues on. -/
def channelRef : Call → Option ChannelRef
  | stage f => f.options.output
  | channel ref => some ref
  | _ => none

/-- Whether a call appends a stage that says what it takes, continues on a channel, or makes a
conversion known. -/
def isPlain : Call → Bool
  | stage (.transformPayload none _) | stage (.filterPayload none _) | stage (.convertTo none) =>
    false
  | stage _ | channel _ | registerConverter _ => true
  | _ => false

end Call

/-- The names of the channels that a source and calls name. -/
def channelNames (source : Source) (cs : List Call) : List String :=
  (source.channelRef.toList ++ cs.filterMap Call.channelRef).map ChannelRef.name

/-- Calls that choose their names with some care, and use what is known. -/
structure Tidy (id : String) (source : Source) (cs : List Call) : Prop where
  plain : ∀ c ∈ cs, c.isPlain = true
  /-- What a conversion is declared for was made known before. -/
  known : ∀ before type after, cs = before ++ .stage (.convertTo (some type)) :: after →
    ∃ c ∈ before, ∃ target, c.learns = some target ∧ target.type = type
  nonempty : ∀ name ∈ channelNames source cs, name ≠ ""
  distinct : (cs.filterMap Call.stageId).Nodup
  /-- The id of a stage is no other name. -/
  ids : ∀ name ∈ cs.filterMap Call.stageId,
    name ∉ channelNames source cs ∧ source.componentName ≠ some name
  /-- No channel is named like a source that is none, and none leads back to a fixed-subscriber
  source. -/
  channels : ∀ ref ∈ cs.filterMap Call.channelRef, source.componentName ≠ some ref.name ∧
    (source.isFixedSubscriber = true → source.channelRef.map ChannelRef.name ≠ some ref.name)
  ungenerated : ∀ name, name ∈ channelNames source cs ∨ name ∈ cs.filterMap Call.stageId ∨
    source.componentName = some name → ¬ IsGenerated id name

/-! ## Definitions after such calls -/

theorem Sketch.tip_channel (s : Sketch) (ref : ChannelRef) : (s.channel ref).tip = some ref := by
  unfold Sketch.channel
  split
  · split <;> rfl
  · rfl

namespace FlowDefinition

variable {d d' : FlowDefinition} {id : String} {source : Source} {config : FlowConfig}
  {given ids : List String} {s : Sketch} {r : StageRequest} {ref : ChannelRef}

/-- A definition after calls that choose their names with care. -/
structure Tidied (d : FlowDefinition) (id : String) (source : Source) (config : FlowConfig)
    (given ids : List String) (s : Sketch) : Prop extends d.Kempt id source given ids where
  drawn : d.Drawn id config s
  /-- The channel that comes next is one of those that were named. -/
  tip : ∀ ref, s.tip = some ref → ref.name ∈ given ∧ d.components.contains ref.name = true
  /-- Behind the first stage nothing leads back to a fixed-subscriber source. -/
  fixed : source.isFixedSubscriber = true → d.stages = [] ∨
    ∀ ref, s.tip = some ref → source.channelRef.map ChannelRef.name ≠ some ref.name

/-- A tidy definition has room for a stage on the channel it stands at. -/
theorem Tidied.checkSubscriber (h : d.Tidied id source config given ids s)
    (htip : s.tip = some ref) : d.checkSubscriber ref = .ok () := by
  unfold FlowDefinition.checkSubscriber
  rw [h.origin.2]
  cases hfixed : source.isFixedSubscriber with
  | false => simp
  | true =>
    rcases h.fixed hfixed with hnil | hother
    · simp [hnil]
    · have hne : (source.channelRef == some ref) = false := by
        have hname := hother ref htip
        cases hsource : source.channelRef with
        | none => rfl
        | some channel =>
          rw [hsource] at hname
          refine Bool.eq_false_iff.2 fun hbeq => hname ?_
          exact congrArg some (ChannelRef.beq_iff_name_eq.1 hbeq)
      simp [hne]

/-- Nothing refuses a stage whose names were chosen with care. -/
theorem checkRequest_of_tidied (h : d.Tidied id source config given ids s)
    (hchosen : Chosen id source given (ids ++ r.spec.id.toList)) (hr : Suits r source given ids) :
    d.checkRequest r = .ok () := by
  have hbefore := hchosen.before
  have hid := h.origin.1
  obtain ⟨htaken, hother⟩ : ¬ Taken id source given ids d.stages.length d.anonymous
      (r.info id d.stages.length).id ∧ ¬ IsChannel id given (r.info id d.stages.length).id :=
    not_taken_info hchosen hr
  have houtput : ∀ ref, r.spec.output = some ref → IsChannel id given ref.name := fun ref href =>
    .inl (hr.output ref href).1
  refine checkStage_of_admits ⟨⟨?_, ?_, ?_⟩, ?_⟩
  · rw [hid]
    exact h.clear.free htaken
  · intro ref href he
    rw [hid] at he
    exact hother (he ▸ houtput ref href)
  · intro ref href
    exact h.checkChannel (hr.output ref href).1
  · cases htip : s.tip with
    | some ref =>
      exact .inl ⟨ref, existingInput_of_channel (h.drawn.given ref htip), h.checkSubscriber htip⟩
    | none =>
      obtain ⟨place, hopen⟩ := h.drawn.awaited htip
      refine .inr ⟨existingInput_of_open hopen (htip ▸ h.drawn.line), h.anonymous_free hbefore,
        ?_, ?_⟩
      · intro he
        rw [hid] at he
        exact hother (he ▸ .inr ⟨d.anonymous, hid ▸ d.anonymousName_eq⟩)
      · intro ref href he
        refine hbefore.ungenerated ref.name (.inl (hr.output ref href).1) ⟨d.anonymous, .inl ?_⟩
        rw [he, anonymousName_eq, hid]

/-- With one more stage the names are still kept apart. -/
theorem kempt_appended (h : d.Tidied id source config given ids s)
    (hchosen : Chosen id source given (ids ++ r.spec.id.toList)) (hr : Suits r source given ids) :
    (d.appended r).Kempt id source given (ids ++ r.spec.id.toList) := by
  have hids : ∀ name ∈ ids, name ∈ ids ++ r.spec.id.toList := fun name hname =>
    List.mem_append_left _ hname
  have hnew : ∀ anonymous, Taken id source given (ids ++ r.spec.id.toList)
      (d.stages.length + 1) anonymous (r.info d.id d.stages.length).id := fun anonymous => by
    rw [h.origin.1]
    exact taken_info
  have hfree : ∀ anonymous, ¬ Taken id source given ids d.stages.length anonymous
      (r.info d.id d.stages.length).id ∧ ¬ IsChannel id given (r.info d.id d.stages.length).id :=
    fun anonymous => by
      rw [h.origin.1]
      exact not_taken_info hchosen hr
  have houtput : ∀ ref, r.spec.output = some ref → ref.name ∈ given := fun ref href =>
    (hr.output ref href).1
  cases htip : s.tip with
  | some ref =>
    have hinput := existingInput_of_channel (h.drawn.given ref htip)
    -- The stage goes on a channel that was named before.
    obtain ⟨hgiven, hcontains⟩ := h.tip ref htip
    rw [appended_of_some hinput]
    exact kempt_withStage h.toKempt hids (h.clear.free (hfree d.anonymous).1)
      (hnew d.anonymous) (hfree d.anonymous).2
      ⟨hchosen.nonempty ref.name hgiven, .inl hgiven, hcontains⟩ houtput
  | none =>
    obtain ⟨place, hopen⟩ := h.drawn.awaited htip
    have hinput := existingInput_of_open hopen (htip ▸ h.drawn.line)
    -- An anonymous channel comes first, and the id has to be free behind it.
    have hextended := kempt_extended h.toKempt hchosen.before
    have hlength := d.extended_length
    have hanonymous : d.anonymousRef.name = generatedName id "channel" d.anonymous := by
      rw [← h.origin.1]
      exact d.anonymousName_eq
    have hcontains : d.extended.components.contains d.anonymousRef.name = true := by
      rw [extended_components hinput]
      simp [ComponentRegistry.contains, anonymousRef, ChannelRef.name,
        ComponentRegistry.find_push_self]
    rw [appended_of_none hinput]
    refine kempt_withStage hextended hids (hextended.clear.free ?_) ?_ (hfree 0).2
      ⟨hanonymous ▸ generatedName_ne_empty, .inr ⟨_, hanonymous⟩, hcontains⟩ houtput
    · rw [hlength]
      exact (hfree _).1
    · rw [hlength]
      exact hnew _

/-- A stage that suits keeps a definition tidy. -/
theorem tidied_appended (h : d.Tidied id source config given ids s)
    (hchosen : Chosen id source given (ids ++ r.spec.id.toList)) (hr : Suits r source given ids) :
    (d.appended r).Tidied id source config given (ids ++ r.spec.id.toList) (s.stage r) := by
  have hcheck := checkRequest_of_tidied h hchosen hr
  refine ⟨kempt_appended h hchosen hr, drawn_appended h.drawn hcheck, ?_, ?_⟩
  · intro ref href
    obtain ⟨known, hknown⟩ := exists_channelNamed_appended (d := d) href
    exact ⟨(hr.output ref href).1, ComponentRegistry.contains_of_channelNamed hknown⟩
  · exact fun hfixed => .inr fun ref href => (hr.output ref href).2 hfixed

/-- On a channel, which is registered by then. -/
theorem tidied_continued (h : d'.Kempt id source given ids) (hgiven : ref.name ∈ given)
    (hdrawn : (d'.continued ref).Drawn id config { s with tip := some ref })
    (hfixed : source.isFixedSubscriber = true →
      source.channelRef.map ChannelRef.name ≠ some ref.name) :
    (d'.continued ref).Tidied id source config given ids { s with tip := some ref } := by
  refine ⟨⟨h.origin, ?_, ?_⟩, hdrawn, ?_, ?_⟩
  · exact ComponentRegistry.clear_withChannel h.clear (.channel _ hgiven) (.inl hgiven)
  · intro name hname
    obtain ⟨hne, hchannel, hcontains⟩ := h.inputs name hname
    exact ⟨hne, hchannel, ComponentRegistry.contains_withChannel hcontains ref⟩
  · intro ref' href
    cases href
    obtain ⟨known, hknown⟩ :=
      ComponentRegistry.exists_channelNamed_withChannel d'.components ref
    exact ⟨hgiven, ComponentRegistry.contains_of_channelNamed hknown⟩
  · intro hsource
    refine .inr fun ref' href => ?_
    cases href
    exact hfixed hsource

/-- A bridge to a channel that was chosen with care. -/
theorem suits_bridgeTo (hgiven : ref.name ∈ given)
    (hfixed : source.isFixedSubscriber = true →
      source.channelRef.map ChannelRef.name ≠ some ref.name) :
    Suits (.bridgeTo ref) source given ids := by
  constructor
  · intro name hid
    cases hid
  · intro output hout
    cases hout
    exact ⟨hgiven, hfixed⟩

/-- There is a way to a channel that was chosen with care, and the names are kept apart on it. -/
theorem kempt_joined (h : d.Tidied id source config given ids s)
    (hchosen : Chosen id source given ids) (hgiven : ref.name ∈ given)
    (hfixed : source.isFixedSubscriber = true →
      source.channelRef.map ChannelRef.name ≠ some ref.name) :
    ∃ d', d.Joins ref d' ∧ d'.Kempt id source given ids := by
  cases htip : s.tip with
  | none =>
    obtain ⟨place, hopen⟩ := h.drawn.awaited htip
    have hinput := existingInput_of_open hopen (htip ▸ h.drawn.line)
    exact ⟨d.wired ref, .wire hinput, kempt_wired h.toKempt ref⟩
  | some current =>
    have hcursor := h.drawn.given current htip
    have hinput := existingInput_of_channel hcursor
    by_cases hname : current.name = ref.name
    · exact ⟨d, .there current hinput hname, h.toKempt⟩
    · -- A bridge is one more stage, without an id of its own.
      have hnone : ids ++ (StageRequest.bridgeTo ref).spec.id.toList = ids := List.append_nil ids
      have hr : Suits (.bridgeTo ref) source given ids := suits_bridgeTo hgiven hfixed
      have hcheck := checkRequest_of_tidied h (hnone.symm ▸ hchosen) hr
      have hkempt := kempt_appended h (hnone.symm ▸ hchosen) hr
      rw [hnone] at hkempt
      have hjoin : d.Joins ref ((d.onChannel current).appended (.bridgeTo ref)) :=
        .bridge current hinput hname ((onChannel_of_cursor hcursor).symm ▸ hcheck)
      rw [onChannel_of_cursor hcursor] at hjoin
      exact ⟨d.appended (.bridgeTo ref), hjoin, hkempt⟩

/-- Nothing refuses a channel that was chosen with care. -/
theorem tidied_channel (h : d.Tidied id source config given ids s)
    (hchosen : Chosen id source given ids) (hgiven : ref.name ∈ given)
    (hfixed : source.isFixedSubscriber = true →
      source.channelRef.map ChannelRef.name ≠ some ref.name) :
    d.checkChannel ref = .ok () ∧ ∃ d', d.joined ref = .ok d' ∧
      (d'.continued ref).Tidied id source config given ids (s.channel ref) := by
  have hcheck := h.checkChannel hgiven
  obtain ⟨d', hjoin, hkempt⟩ := kempt_joined h hchosen hgiven hfixed
  have hdrawn := drawn_continued h.drawn hcheck hjoin
  have htip : s.channel ref = { s.channel ref with tip := some ref } := by
    rw [← Sketch.tip_channel s ref]
  rw [htip] at hdrawn ⊢
  exact ⟨hcheck, d', joined_of_joins hjoin, tidied_continued hkempt hgiven hdrawn hfixed⟩

/-- What becomes known keeps a definition tidy. -/
theorem tidied_learning (h : d.Tidied id source config given ids s)
    (target : Option ConvertTarget) :
    (d.learning target).Tidied id source config given ids s :=
  ⟨⟨h.origin, h.clear, h.inputs⟩, drawn_frame h.drawn h.drawn.consistent fun _ _ hget => hget,
    h.tip, h.fixed⟩

/-- At first the source is the only component. -/
theorem start_components (id : String) (source : Source) (config : FlowConfig) :
    ∃ component, (start id source config).components =
        ComponentRegistry.empty.push component
          ((source.channelRef.map ChannelRef.name).or source.componentName) ∧
      ∀ ref, source.channelRef = some ref → component = .channel ref := by
  cases hsource : source.channelRef with
  | some ref => exact ⟨.channel ref, by simp [start, hsource], fun _ href => by cases href; rfl⟩
  | none => exact ⟨.source source.describe, by simp [start, hsource], fun _ href => by cases href⟩

/-- A definition is tidy at first. -/
theorem tidied_start {cs : List Call} (h : Tidy id source cs) (config : FlowConfig) :
    (start id source config).Tidied id source config (channelNames source cs) []
      (Sketch.start source) := by
  obtain ⟨component, hcomponents, hchannel⟩ := start_components id source config
  -- At first the source is all that has a name.
  have hnamed : ∀ name, (start id source config).components.contains name = true →
      (source.channelRef.map ChannelRef.name).or source.componentName = some name := by
    intro name hname
    rw [hcomponents] at hname
    exact (ComponentRegistry.eq_or_contains_of_push hname).resolve_right nofun
  have hgiven : ∀ ref, source.channelRef = some ref → ref.name ∈ channelNames source cs :=
    fun ref href => by simp [channelNames, href]
  refine ⟨⟨⟨rfl, rfl⟩, ⟨consistent_start id source config, ?_, ?_⟩, nofun⟩,
    drawn_start id source config, ?_, fun _ => .inl rfl⟩
  · intro name hname
    have hnames := hnamed name hname
    cases href : source.channelRef with
    | some ref =>
      rw [href] at hnames
      cases hnames
      exact .channel _ (hgiven ref href)
    | none =>
      rw [href] at hnames
      exact .source name hnames
  · intro name hname hcontains
    have hnames := hnamed name hcontains
    cases href : source.channelRef with
    | some ref =>
      rw [href] at hnames
      cases hnames
      rw [hcomponents, hchannel ref href, href]
      exact ⟨ref, ComponentRegistry.channelNamed_push_self _ _ _⟩
    | none =>
      -- A source that is no channel bears no name of a channel.
      rw [href] at hnames
      rcases hname with hgiven' | ⟨number, rfl⟩
      · obtain ⟨ref, hmem, rfl⟩ := List.mem_map.1 hgiven'
        rw [href, Option.toList_none, List.nil_append] at hmem
        exact absurd hnames (h.channels ref hmem).1
      · exact absurd ⟨number, .inl rfl⟩ (h.ungenerated _ (.inr (.inr hnames)))
  · intro ref href
    have hsource : source.channelRef = some ref := href
    refine ⟨hgiven ref href, ?_⟩
    rw [hcomponents, hsource]
    simp [ComponentRegistry.contains, ComponentRegistry.find_push_self]

end FlowDefinition

/-! ## The calls of a list -/

theorem Source.isFixedSubscriber_of_channelRef {source : Source} (h : source.channelRef = none) :
    source.isFixedSubscriber = false := by
  cases source with
  | channel => cases h
  | _ => rfl

section Calls

variable {id : String} {source : Source} {before after cs : List Call} {c : Call} {f : Factory}
  {r : StageRequest}

/-- A call that is plain asks for a stage, if what it needs is known. -/
theorem Factory.request_of_plain (hplain : (Call.stage f).isPlain = true)
    {known : ConverterRegistry}
    (hneeds : ∀ type, f.needs = some type → known.contains type = true) :
    f.checkNeeds known = .ok () ∧ ∃ r, f.request = .ok r := by
  cases f with
  | transformPayload input f =>
    cases input with
    | none => cases hplain
    | some type => exact ⟨rfl, _, rfl⟩
  | filterPayload input accepts =>
    cases input with
    | none => cases hplain
    | some type => exact ⟨rfl, _, rfl⟩
  | convertTo type =>
    cases type with
    | none => cases hplain
    | some type =>
      have hcontains := hneeds type rfl
      obtain ⟨target, hget⟩ := Option.isSome_iff_exists.1 hcontains
      exact ⟨checkNeeds_of_contains rfl hcontains, ⟨.convert, type, target.handler, .standard⟩,
        by rw [Factory.request, ConverterRegistry.ofType?_of_get hget]⟩
  | _ => exact ⟨rfl, _, rfl⟩

/-- What was chosen for all calls was chosen well up to any of them. -/
theorem Tidy.chosen (h : Tidy id source (before ++ c :: after)) :
    Chosen id source (channelNames source (before ++ c :: after))
      (before.filterMap Call.stageId ++ c.stageId.toList) := by
  refine ⟨h.nonempty, fun name hname => h.ungenerated name ?_⟩
  rcases hname with hgiven | hid | hsource
  · exact .inl hgiven
  · refine .inr (.inl ?_)
    rw [filterMap_middle, ← List.append_assoc]
    exact List.mem_append_left _ hid
  · exact .inr (.inr hsource)

/-- The channel that a call names is one of those that are named. -/
theorem Tidy.channel (h : Tidy id source (before ++ c :: after)) {ref : ChannelRef}
    (href : c.channelRef = some ref) :
    ref.name ∈ channelNames source (before ++ c :: after) ∧
      (source.isFixedSubscriber = true →
        source.channelRef.map ChannelRef.name ≠ some ref.name) := by
  have hmem : ref ∈ (before ++ c :: after).filterMap Call.channelRef :=
    List.mem_filterMap.2 ⟨c, by simp, href⟩
  exact ⟨List.mem_map.2 ⟨ref, List.mem_append_right _ hmem, rfl⟩, (h.channels ref hmem).2⟩

/-- What a call needs some call before made known. -/
theorem Tidy.known_of_needs (h : Tidy id source (before ++ .stage f :: after)) {type : DataType}
    (hneeds : f.needs = some type) :
    ∃ c ∈ before, ∃ target, c.learns = some target ∧ target.type = type := by
  cases f with
  | convertTo declared =>
    obtain rfl : declared = some type := hneeds
    exact h.known before type after rfl
  | _ => cases hneeds

/-- What a call asks for suits what was chosen. -/
theorem Tidy.suits (h : Tidy id source (before ++ .stage f :: after))
    (hrequest : f.request = .ok r) :
    Suits r source (channelNames source (before ++ .stage f :: after))
      (before.filterMap Call.stageId) := by
  have hspec := Factory.options_of_request hrequest
  constructor
  · intro name hid
    have hstage : (Call.stage f).stageId = some name := by
      rw [hspec] at hid
      exact hid
    have hmem : name ∈ (before ++ .stage f :: after).filterMap Call.stageId :=
      List.mem_filterMap.2 ⟨_, by simp, hstage⟩
    refine ⟨?_, h.ids name hmem⟩
    intro hbefore
    have hdistinct := h.distinct
    rw [filterMap_middle, hstage] at hdistinct
    exact (List.nodup_append.1 hdistinct).2.2 name hbefore name (by simp) rfl
  · intro ref hout
    rw [hspec] at hout
    exact h.channel hout

end Calls

namespace FlowDefinition

variable {d : FlowDefinition} {id : String} {source : Source} {config : FlowConfig} {s : Sketch}
  {before after : List Call} {c : Call}

/-- One call of a list that chooses its names with care. -/
theorem tidied_call (htidy : Tidy id source (before ++ c :: after))
    (h : d.Tidied id source config (channelNames source (before ++ c :: after))
      (before.filterMap Call.stageId) s)
    (hknown : ∀ b ∈ before, ∀ target, b.learns = some target →
      d.converters.contains target.type = true) :
    c.result d = .ok [] ∧
      (c.after d).Tidied id source config (channelNames source (before ++ c :: after))
        (before.filterMap Call.stageId ++ c.stageId.toList) (s.call c) := by
  have hplain := htidy.plain c (by simp)
  have hchosen := htidy.chosen
  have hd := h.drawn.consistent
  unfold Call.result Call.after
  cases c with
  | stage f =>
    have hneeds : ∀ type, f.needs = some type →
        (d.learning f.learns).converters.contains type = true := by
      intro type hneeds
      obtain ⟨b, hb, target, hlearns, rfl⟩ := htidy.known_of_needs hneeds
      exact ConverterRegistry.contains_learning.2 (.inl (hknown b hb target hlearns))
    obtain ⟨hcheckNeeds, r, hrequest⟩ := Factory.request_of_plain hplain hneeds
    have hid : (Call.stage f).stageId = r.spec.id := by
      rw [Factory.options_of_request hrequest]
      rfl
    have hcall : s.call (.stage f) = s.stage r := by simp [Sketch.call, hrequest]
    have hsuits := htidy.suits hrequest
    have hlearning := tidied_learning h f.learns
    rw [hid] at hchosen ⊢
    have hadmitted : f.admitted (d.learning f.learns) = .ok r := Factory.admitted_eq_ok.2
      ⟨hcheckNeeds, hrequest, checkRequest_of_tidied hlearning hchosen hsuits⟩
    rw [Call.exec_stage hd, hadmitted, hcall]
    exact ⟨rfl, tidied_appended hlearning hchosen hsuits⟩
  | channel ref =>
    obtain ⟨hgiven, hfixed⟩ := htidy.channel rfl
    obtain ⟨hcheck, d', hjoin, htidied⟩ := tidied_channel h hchosen.before hgiven hfixed
    have hnone : (Call.channel ref).stageId = none := rfl
    rw [Call.exec_channel hd, hcheck, look_ok_bind, hjoin, hnone, Option.toList_none,
      List.append_nil]
    exact ⟨rfl, htidied⟩
  | registerConverter target =>
    have hnone : (Call.registerConverter target).stageId = none := rfl
    rw [hnone, Option.toList_none, List.append_nil]
    exact ⟨rfl, tidied_learning h (some target)⟩
  | addComponent => cases hplain
  | addComponents => cases hplain
  | setChannel => cases hplain
  | setComponent => cases hplain
  | setImplicit => cases hplain

/-- The calls of a list that chooses its names with care succeed one after the other. -/
theorem tidied_run (htidy : Tidy id source (before ++ after))
    (h : d.Tidied id source config (channelNames source (before ++ after))
      (before.filterMap Call.stageId) s)
    (hknown : ∀ c ∈ before, ∀ target, c.learns = some target →
      d.converters.contains target.type = true) :
    d.results after = after.map (fun _ => .ok []) ∧
      (d.afterAll after).Tidied id source config (channelNames source (before ++ after))
        ((before ++ after).filterMap Call.stageId) (after.foldl Sketch.call s) := by
  induction after generalizing before d s with
  | nil => exact ⟨rfl, by simpa [afterAll] using h⟩
  | cons c after ih =>
    -- The call moves over to those before, and the list as a whole stays what it is.
    obtain ⟨hresult, htidied⟩ := tidied_call htidy h hknown
    have hmiddle : before ++ c :: after = (before ++ [c]) ++ after := by simp
    have hids : (before ++ [c]).filterMap Call.stageId =
        before.filterMap Call.stageId ++ c.stageId.toList := by
      simpa using filterMap_middle Call.stageId before [] c
    rw [← hids] at htidied
    have hlearned : ∀ b ∈ before ++ [c], ∀ target, b.learns = some target →
        (c.after d).converters.contains target.type = true := by
      intro b hb target htarget
      rw [converters_after h.drawn.consistent, ConverterRegistry.contains_learning]
      rcases List.mem_append.1 hb with hold | hnew
      · exact .inl (hknown b hold target htarget)
      · obtain rfl := List.mem_singleton.1 hnew
        exact .inr ⟨target, htarget, rfl⟩
    rw [hmiddle] at htidy htidied ⊢
    obtain ⟨hresults, hall⟩ := ih htidy htidied hlearned
    exact ⟨by rw [results, hresult, hresults, List.map_cons], hall⟩

/-! ## Finishing -/

/-- The inputs of the stages of a kempt definition are all there. -/
theorem checkInputs_of_kempt {given ids : List String} (h : d.Kempt id source given ids) :
    d.checkInputs = .ok () := by
  have hnone : d.stages.find? (fun stage => !d.isResolvable stage.input) = none := by
    rw [List.find?_eq_none]
    intro stage hstage
    obtain ⟨hne, hchannel, hcontains⟩ :=
      h.inputs stage.input.name (List.mem_map.2 ⟨stage, hstage, rfl⟩)
    obtain ⟨known, hknown⟩ := h.clear.channels _ hchannel hcontains
    cases hinput : stage.input with
    | named name =>
      have hname : name ≠ "" := by
        rw [hinput] at hne
        exact hne
      simp [isResolvable, hname]
    | live channel => simp [isResolvable]
    | anonymous name =>
      have hnamed : d.components.channelNamed name = some known := by
        rw [hinput] at hknown
        exact hknown
      simp [isResolvable, hnamed]
  unfold checkInputs
  rw [hnone]

/-- A line with stages starts somewhere. -/
theorem exists_entry {entrance exit : Option ChannelRef} {stages : List FlowStage}
    (h : Line entrance stages exit) (hstages : stages ≠ []) : ∃ input, entrance = some input := by
  cases stages with
  | nil => exact absurd rfl hstages
  | cons stage stages =>
    obtain ⟨input, hinput, -⟩ := Option.map_eq_some_iff.1 h.1
    exact ⟨input, hinput⟩

/-- Messages can enter a definition that has stages, or whose source is no channel. -/
theorem entrance_of_entry {input : ChannelRef} (hentry : d.entry = some input)
    (h : d.stages ≠ [] ∨ d.source.channelRef = none) : d.entrance = .ok input := by
  have hfixed : (d.source.isFixedSubscriber && d.stages.isEmpty) = false := by
    rcases h with hstages | hsource
    · simp [hstages]
    · simp [Source.isFixedSubscriber_of_channelRef hsource]
  unfold entrance
  rw [hfixed]
  unfold entry at hentry
  cases hsource : d.source.channelRef with
  | some ref =>
    have hstages : d.stages ≠ [] := h.resolve_right (by simp [hsource])
    simpa [hsource, hstages] using hentry
  | none =>
    have houtput : d.sourceOutput = some input := by simpa [hsource] using hentry
    simp [houtput]

/-- A definition that has a stage or, from a source that is no channel, a channel, is finished. -/
theorem finished_of_tidied {given ids : List String} (h : d.Tidied id source config given ids s)
    (hchosen : Chosen id source given ids)
    (hend : d.stages ≠ [] ∨ source.channelRef = none ∧ s.tip ≠ none) :
    ∃ flow, d.finished = .ok flow := by
  have hline := h.drawn.line
  have hentry : ∃ input, d.entry = some input := by
    rcases hend with hstages | ⟨-, htip⟩
    · exact exists_entry hline hstages
    · obtain ⟨ref, href⟩ := Option.ne_none_iff_exists'.1 htip
      exact exists_entrance (href ▸ hline)
  obtain ⟨input, hentry⟩ := hentry
  have hentrance := entrance_of_entry hentry (hend.imp_right fun hnone => h.origin.2 ▸ hnone.1)
  have hended : ∃ output d', d.ended = .ok (output, d') ∧ d'.checkInputs = .ok () := by
    cases htip : s.tip with
    | some ref =>
      refine ⟨some ref, d, ?_, checkInputs_of_kempt h.toKempt⟩
      simp [ended, h.drawn.given ref htip]
    | none =>
      -- The end is open, and its output becomes one more anonymous channel.
      obtain ⟨place, hopen⟩ := h.drawn.awaited htip
      have hout := outputOf_of_open hopen (htip ▸ hline)
      have hstages : d.stages ≠ [] := by
        rcases hend with hstages | ⟨-, hnone⟩
        · exact hstages
        · exact absurd htip hnone
      refine ⟨some d.anonymousRef, d.extended, ?_,
        checkInputs_of_kempt (kempt_extended h.toKempt hchosen)⟩
      simp [ended, hopen.cursor, hout, (hopen.stage hstages).1, h.anonymous_free hchosen]
  obtain ⟨output, d', hended, hinputs⟩ := hended
  exact ⟨d'.toFlow input output, by simp [finished, hentrance, hended, hinputs]⟩

end FlowDefinition

/-- Continuing on a channel leaves a channel at the end, if no stage comes after it. -/
theorem tip_of_channel {cs : List Call} {s : Sketch}
    (h : s.tip ≠ none ∨ s.requests ≠ [] ∨ ∃ ref, .channel ref ∈ cs) :
    (cs.foldl Sketch.call s).tip ≠ none ∨ (cs.foldl Sketch.call s).requests ≠ [] := by
  induction cs generalizing s with
  | nil => simpa using h
  | cons c cs ih =>
    refine ih ?_
    cases c with
    | stage f =>
      cases hrequest : f.request with
      | ok r => exact .inr (.inl (by simp [Sketch.call, hrequest, Sketch.stage]))
      | error failure => simpa [Sketch.call, hrequest] using h
    | channel ref => exact .inl (by simp [Sketch.call, Sketch.tip_channel])
    | _ => simpa [Sketch.call] using h

/-- If names are chosen with some care, no call is refused: generated names are in nobody's way.
What is composed so makes a flow as soon as it has a stage, or goes from a source that is no channel
to a channel. -/
theorem tidy_calls_succeed (id : String) (source : Source) (config : FlowConfig) (cs : List Call)
    (h : Tidy id source cs) :
    let d := FlowDefinition.start id source config
    d.results cs = cs.map (fun _ => .ok []) ∧
      ((d.afterAll cs).stages ≠ [] ∨ source.channelRef = none ∧ (∃ ref, .channel ref ∈ cs) →
        ∃ flow, (Composer.finish.exec (d.afterAll cs)).1 = .ok flow) := by
  intro d
  obtain ⟨hresults, htidied⟩ : d.results cs = cs.map (fun _ => .ok []) ∧
      (d.afterAll cs).Tidied id source config (channelNames source ([] ++ cs))
        (([] ++ cs).filterMap Call.stageId) (cs.foldl Sketch.call (Sketch.start source)) :=
    FlowDefinition.tidied_run h (FlowDefinition.tidied_start h config) (by simp)
  refine ⟨hresults, fun hend => ?_⟩
  rw [Composer.result_finish]
  refine FlowDefinition.finished_of_tidied htidied ⟨h.nonempty, h.ungenerated⟩ ?_
  by_cases hstages : (d.afterAll cs).stages = []
  · obtain ⟨hsource, hchannel⟩ := hend.resolve_left (absurd hstages)
    refine .inr ⟨hsource, ?_⟩
    -- No call asked for a stage, so what was last is a channel.
    have hrequests : (cs.foldl Sketch.call (Sketch.start source)).requests = [] := by
      have hlength := htidied.drawn.length
      rw [hstages] at hlength
      exact List.eq_nil_of_length_eq_zero hlength.symm
    exact (tip_of_channel (.inr (.inr hchannel))).resolve_right (absurd hrequests)
  · exact .inl hstages

end

open Sample

/-- A conversion with an id and an output of its own, from a gateway that is known by name, then one
into the type that it made known, and a bridge to another channel. -/
theorem tidy_calls_succeed_gateway :
    let target : ConvertTarget := ⟨.string, .string, rfl⟩
    let source : Source := .gateway .string { GatewaySpec.standard with beanName := some "gate" }
    let cs : List Call :=
      [.stage (.convert target
          { EndpointSpec.standard with id := some "first", output := some (.named "mid") }),
        .channel (.named "mid"), .stage (.convertTo (some .string)), .stage (.bridge .standard),
        .channel (.named "out")]
    let d := FlowDefinition.start "f" source .standard
    Tidy "f" source cs ∧ d.results cs = [.ok [], .ok [], .ok [], .ok [], .ok []] ∧
      (d.afterAll cs).stages.map (·.endpoint.info.id) = ["first", "f.convert#1", "f.bridge#2"] ∧
      ∃ flow, (Composer.finish.exec (d.afterAll cs)).1 = .ok flow := by
  intro target source cs d
  have htidy : Tidy "f" source cs := by
    refine ⟨by decide, ?_, by decide, by decide, by decide, by decide, ?_⟩
    · intro before type after h
      -- Of the five calls only the third is a conversion into a declared type.
      rcases before with _ | ⟨c₁, _ | ⟨c₂, _ | ⟨c₃, _ | ⟨c₄, _ | ⟨c₅, before⟩⟩⟩⟩⟩ <;>
        simp [cs] at h
      obtain ⟨rfl, -, rfl, -⟩ := h
      exact ⟨_, List.mem_cons_self, target, rfl, rfl⟩
    · have hgiven : ∀ name ∈ channelNames source cs, ¬ ("f".toList ++ ['.']) <+: name.toList := by
        decide
      have hids : ∀ name ∈ cs.filterMap Call.stageId,
          ¬ ("f".toList ++ ['.']) <+: name.toList := by
        decide
      rintro name (hname | hname | hname)
      · exact not_isGenerated (hgiven name hname)
      · exact not_isGenerated (hids name hname)
      · cases hname
        exact not_isGenerated (by decide)
  obtain ⟨hresults, hfinish⟩ := tidy_calls_succeed "f" source .standard cs htidy
  have hstages : (d.afterAll cs).stages.map (·.endpoint.info.id) =
      ["first", "f.convert#1", "f.bridge#2"] := by
    decide +kernel
  refine ⟨htidy, hresults, hstages, hfinish (.inl fun hnil => ?_)⟩
  simp [d, hnil] at hstages

end MessageFlow
