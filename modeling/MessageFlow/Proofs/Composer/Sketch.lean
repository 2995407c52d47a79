import MessageFlow.Proofs.Composer.Calls
import MessageFlow.Proofs.Line
import MessageFlow.Proofs.Sample

/-!
# Sketches

What a list of calls asks for, read off the calls alone: the stages in order, and for each of them
the channel that was given for its input, if one was. A channel that was not given is left open;
`number` fills the open places with anonymous channels, one after the other.

`Drawn d s` ties a definition to a sketch. The definition is the line that the sketch asks for, up
to its tip: an open tip is a component that the cursor is on and that awaits its output. Every call
that does not set the cursor by hand preserves it (`drawn_step`), so a finished flow is what its
calls asked for (`finished_line`).
-/

namespace MessageFlow

/-- The channels of links: an open one is the next anonymous channel of the flow. -/
def number (id : String) (next : Nat) : List (Option ChannelRef) → List ChannelRef
  | [] => []
  | some ref :: links => ref :: number id next links
  | none :: links =>
    .anonymous (id ++ ".channel#" ++ toString next) :: number id (next + 1) links

/-- The links of a sketch are numbered one by one, and one more after the others. -/
theorem number_concat (id : String) (next : Nat) (links : List (Option ChannelRef))
    (link : Option ChannelRef) :
    number id next (links ++ [link]) =
      number id next links ++ [link.getD
        (.anonymous (id ++ ".channel#" ++ toString (next + links.countP (·.isNone))))] := by
  induction links generalizing next with
  | nil => cases link <;> rfl
  | cons first links ih =>
    cases first with
    | some ref => simp [number, ih]
    | none => simp [number, ih, Nat.add_assoc, Nat.add_comm]

theorem modify_last {α : Type} (f : α → α) (xs : List α) (x : α) :
    (xs ++ [x]).modify xs.length f = xs ++ [f x] := by
  simpa [List.modify] using List.modifyTailIdx_add (List.modifyHead f) 0 xs [x]

section

variable [PayloadTypes]

/-- What calls ask for. -/
structure Sketch where
  /-- The stages, in order. -/
  requests : List StageRequest
  /-- For each stage the channel that was given for its input. -/
  links : List (Option ChannelRef)
  /-- The channel that was given for what comes next. -/
  tip : Option ChannelRef

namespace Sketch

/-- Nothing was asked for yet. -/
def start (source : Source) : Sketch := ⟨[], [], source.channelRef⟩

/-- With one more stage. -/
def stage (s : Sketch) (r : StageRequest) : Sketch :=
  ⟨s.requests ++ [r], s.links ++ [s.tip], r.spec.output⟩

/-- Continued on a channel. A channel of another name is reached by a bridge. -/
def channel (s : Sketch) (ref : ChannelRef) : Sketch :=
  match s.tip with
  | some current =>
    if current.name = ref.name then { s with tip := some ref } else s.stage (.bridgeTo ref)
  | none => { s with tip := some ref }

/-- With what one call asks for. -/
def call (s : Sketch) : Call → Sketch
  | .stage factory =>
    match factory.request with
    | .ok r => s.stage r
    | .error _ => s
  | .channel ref => s.channel ref
  | _ => s

/-- What a list of calls asks for. -/
def ofCalls (source : Source) (cs : List Call) : Sketch :=
  cs.foldl call (start source)

end Sketch

/-- An endpoint without its output. -/
def Endpoint.unwired (e : Endpoint) : Endpoint := { e with output := none }

namespace FlowDefinition

variable {d : FlowDefinition} {ref : ChannelRef} {place : Nat}

/-- The channel that messages enter by, if there is one. -/
def entry (d : FlowDefinition) : Option ChannelRef :=
  d.source.channelRef.or d.sourceOutput

/-- A place where something awaits its output: the last stage, or a source ahead of all stages. -/
structure Open (d : FlowDefinition) (place : Nat) : Prop where
  cursor : d.cursor = .component place
  source : d.stages = [] → d.source.channelRef = none ∧ place = d.sourcePlace ∧
    ∃ text, d.components.get place = some (.source text)
  stage : d.stages ≠ [] → d.implicit = true ∧
    d.components.get place = some (.endpoint (d.stages.length - 1))

/-- A definition is what a sketch asks for, as a flow of an id with some settings. -/
structure Drawn (d : FlowDefinition) (id : String) (config : FlowConfig) (s : Sketch) : Prop where
  id_eq : d.id = id
  config_eq : d.config = config
  consistent : d.components.Consistent
  bodies : d.stages.map (·.endpoint.unwired) =
    s.requests.mapIdx fun index r => r.endpoint id config index none
  inputs : d.stages.map FlowStage.input = number id 0 s.links
  anonymous : d.anonymous = s.links.countP (·.isNone)
  line : Line d.entry d.stages s.tip
  given : ∀ ref, s.tip = some ref → d.cursor = .channel ref
  awaited : s.tip = none → ∃ place, d.Open place

/-- What is open awaits its output: a line without an exit says so of its end. -/
theorem outputOf_of_open (h : d.Open place) (hline : Line d.entry d.stages none) :
    d.outputOf place = .ok none := by
  rw [outputOf_eq_none]
  -- Without stages it is the source that is open, otherwise the last stage.
  rcases List.eq_nil_or_concat d.stages with hnil | ⟨stages, last, hconcat⟩
  · obtain ⟨hsource, hplace, text, hget⟩ := h.source hnil
    refine Or.inr ⟨text, hget, hplace, ?_⟩
    rw [hnil] at hline
    have hentry : d.entry = none := Option.map_eq_none_iff.1 hline
    simpa [entry, hsource] using hentry
  · rw [List.concat_eq_append] at hconcat
    obtain ⟨-, hget⟩ := h.stage (by simp [hconcat])
    refine Or.inl ⟨_, hget, ?_⟩
    rw [hconcat, line_concat] at hline
    have hlast : last.endpoint.output = none := Option.map_eq_none_iff.1 hline.2
    simp [hconcat, hlast]

/-- A flow that is open at its end has no input for the next stage yet. -/
theorem existingInput_of_open (h : d.Open place) (hline : Line d.entry d.stages none) :
    d.existingInput = .ok none :=
  existingInput_eq_none.2 ⟨place, h.cursor, outputOf_of_open h hline⟩

/-- The same stages with a channel at the end. -/
structure Closes (d d' : FlowDefinition) (ref : ChannelRef) : Prop where
  id : d'.id = d.id
  config : d'.config = d.config
  entry : ∀ entrance, d.entry = some entrance → d'.entry = some entrance
  line : Line d'.entry d'.stages (some ref)
  bodies : d'.stages.map (·.endpoint.unwired) = d.stages.map (·.endpoint.unwired)
  inputs : d'.stages.map FlowStage.input = d.stages.map FlowStage.input

/-- A line that ends in a channel is closed with it. -/
theorem closes_self (h : Line d.entry d.stages (some ref)) : d.Closes d ref :=
  ⟨rfl, rfl, fun _ hentrance => hentrance, h, rfl, rfl⟩

/-- What awaits its output is the last stage, if there are stages. -/
theorem wired_stages (h : d.Open place) {stages : List FlowStage} {last : FlowStage}
    (hstages : d.stages = stages ++ [last]) (ref : ChannelRef) :
    (d.wired ref).stages = stages ++ [last.withOutput ref] := by
  obtain ⟨-, hget⟩ := h.stage (by simp [hstages])
  rw [hstages, List.length_append, List.length_singleton, Nat.add_sub_cancel] at hget
  simp [wired_of_component h.cursor, connected, hget, hstages, modify_last]

/-- Wiring closes the line with the channel that is wired. -/
theorem closes_wired (h : d.Open place) (hline : Line d.entry d.stages none)
    (ref : ChannelRef) : d.Closes (d.wired ref) ref := by
  rcases List.eq_nil_or_concat d.stages with hnil | ⟨stages, last, hconcat⟩
  · rw [wired_of_component h.cursor]
    obtain ⟨hsource, hplace, text, hget⟩ := h.source hnil
    have hentry : d.entry = none := by
      rw [hnil] at hline
      exact Option.map_eq_none_iff.1 hline
    refine ⟨rfl, rfl, ?_, ?_, ?_, ?_⟩
    · intro entrance hentrance
      rw [hentry] at hentrance
      cases hentrance
    all_goals simp [connected, hget, hnil, entry, hsource, Line]
  · rw [List.concat_eq_append] at hconcat
    obtain ⟨-, hget⟩ := h.stage (by simp [hconcat])
    have hstages := wired_stages h hconcat ref
    rw [wired_of_component h.cursor] at hstages ⊢
    have hentry : (d.connected place ref).entry = d.entry := by
      simp [connected, hget, entry]
    rw [hconcat, line_concat] at hline
    refine ⟨rfl, rfl, fun entrance hentrance => hentry.trans hentrance, ?_, ?_, ?_⟩
    · rw [hstages, hentry, line_concat]
      exact ⟨hline.1, rfl⟩
    · simp [hstages, hconcat, FlowStage.withOutput, Endpoint.unwired]
    · simp [hstages, hconcat, FlowStage.withOutput]

/-- A new anonymous channel leaves the end of a flow open. -/
theorem open_withAnonymous (h : d.Open place) : d.withAnonymous.Open place := by
  refine ⟨h.cursor, ?_, ?_⟩
  · intro hnil
    obtain ⟨hsource, hplace, text, hget⟩ := h.source hnil
    exact ⟨hsource, hplace, text, ComponentRegistry.get_push_of_get hget _ _⟩
  · intro hstages
    obtain ⟨himplicit, hget⟩ := h.stage hstages
    exact ⟨himplicit, ComponentRegistry.get_push_of_get hget _ _⟩

/-- An extension closes the line with its anonymous channel. -/
theorem closes_extended (h : d.Open place) (hline : Line d.entry d.stages none) :
    d.Closes d.extended d.anonymousRef := by
  obtain ⟨hid, hconfig, hentry, hline', hbodies, hinputs⟩ :=
    closes_wired (d := d.withAnonymous) (open_withAnonymous h) hline d.anonymousRef
  exact ⟨hid, hconfig, hentry, hline', hbodies, hinputs⟩

theorem extended_anonymous (h : d.Open place) : d.extended.anonymous = d.anonymous + 1 := by
  rw [extended_of_component h.cursor]
  rfl

/-- There are as many stages as the sketch has requests. -/
theorem Drawn.length {id : String} {config : FlowConfig} {s : Sketch}
    (h : d.Drawn id config s) : d.stages.length = s.requests.length := by
  simpa using congrArg List.length h.bodies

/-! ## What calls do to a drawn definition -/

variable {id : String} {config : FlowConfig} {s : Sketch} {r : StageRequest}

/-- A link that was given bears no number. -/
theorem number_of_given (htip : s.tip = some ref) :
    number id 0 (s.links ++ [s.tip]) = number id 0 s.links ++ [ref] := by
  rw [htip, number_concat]
  rfl

/-- The anonymous channel that would come next is the one that an open tip asks for. -/
theorem Drawn.number_of_open (h : d.Drawn id config s) (htip : s.tip = none) :
    number id 0 (s.links ++ [s.tip]) = number id 0 s.links ++ [d.anonymousRef] := by
  rw [htip, number_concat, Nat.zero_add, ← h.anonymous, ← h.id_eq]
  rfl

/-- One more stage, on the channel at the end. -/
theorem drawn_withStage {d' : FlowDefinition} {input : ChannelRef} (h : d.Drawn id config s)
    (hcloses : d.Closes d' input)
    (hlinks : number id 0 (s.links ++ [s.tip]) = number id 0 s.links ++ [input])
    (hanonymous : d'.anonymous = (s.links ++ [s.tip]).countP (·.isNone))
    (hconsistent : (d'.withStage (d.nextStage r input)).components.Consistent) :
    (d'.withStage (d.nextStage r input)).Drawn id config (s.stage r) := by
  have hstages : (d'.withStage (d.nextStage r input)).stages =
      d'.stages ++ [d.nextStage r input] := rfl
  refine ⟨hcloses.id.trans h.id_eq, hcloses.config.trans h.config_eq, hconsistent, ?_, ?_,
    hanonymous, ?_, ?_, ?_⟩
  · rw [hstages, List.map_append, hcloses.bodies, h.bodies, Sketch.stage, List.mapIdx_concat,
      ← h.length, ← h.id_eq, ← h.config_eq]
    rfl
  · rw [hstages, List.map_append, hcloses.inputs, h.inputs, Sketch.stage, hlinks]
    rfl
  · rw [hstages, line_concat]
    exact ⟨hcloses.line, rfl⟩
  · intro ref href
    have hout : (d.nextStage r input).endpoint.output = some ref := href
    simp [withStage, hout]
  · intro hnone
    have hout : (d.nextStage r input).endpoint.output = none := hnone
    refine ⟨d'.components.size, by simp [withStage, hout], ?_, ?_⟩
    · intro hnil
      rw [hstages] at hnil
      exact absurd hnil (by simp)
    · intro _
      simp [withStage, hout]

/-- Appending a stage draws it into the sketch. -/
theorem drawn_appended (h : d.Drawn id config s) (hcheck : d.checkRequest r = .ok ()) :
    (d.appended r).Drawn id config (s.stage r) := by
  have hconsistent := consistent_appended h.consistent hcheck
  cases htip : s.tip with
  | some ref =>
    have hinput : d.existingInput = .ok (some ref) := by
      simp [existingInput, h.given ref htip]
    rw [appended_of_some hinput] at hconsistent ⊢
    refine drawn_withStage h (closes_self (htip ▸ h.line)) (number_of_given htip) ?_ hconsistent
    simp [htip, h.anonymous]
  | none =>
    obtain ⟨place, hopen⟩ := h.awaited htip
    have hline : Line d.entry d.stages none := htip ▸ h.line
    have hinput := existingInput_of_open hopen hline
    have hcloses := closes_extended hopen hline
    rw [appended_of_none hinput] at hconsistent ⊢
    refine drawn_withStage h hcloses (h.number_of_open htip) ?_ hconsistent
    rw [extended_anonymous hopen, h.anonymous, htip, List.countP_append]
    rfl

/-- On a channel at the end. -/
theorem drawn_withTip {d' : FlowDefinition} (h : d.Drawn id config s) (hcloses : d.Closes d' ref)
    (hanonymous : d'.anonymous = d.anonymous)
    (hconsistent : (d'.continued ref).components.Consistent) :
    (d'.continued ref).Drawn id config { s with tip := some ref } := by
  refine ⟨hcloses.id.trans h.id_eq, hcloses.config.trans h.config_eq, hconsistent,
    hcloses.bodies.trans h.bodies, hcloses.inputs.trans h.inputs,
    hanonymous.trans h.anonymous, hcloses.line, ?_, ?_⟩
  · intro ref' href
    cases href
    rfl
  · intro hnone
    cases hnone

/-- Going on from a channel draws it into the sketch. -/
theorem drawn_continued {d' : FlowDefinition} (h : d.Drawn id config s)
    (hcheck : d.checkChannel ref = .ok ()) (hjoin : d.Joins ref d') :
    (d'.continued ref).Drawn id config (s.channel ref) := by
  have hconsistent := consistent_continued (consistent_joined h.consistent hjoin)
    (checkChannel_joined hcheck hjoin)
  cases htip : s.tip with
  | some current =>
    have hcursor := h.given current htip
    have hinput := existingInput_of_channel hcursor
    have hline : Line d.entry d.stages (some current) := htip ▸ h.line
    cases hjoin with
    | nowhere hempty =>
      rw [hcursor] at hempty
      cases hempty
    | there existing hexisting hsame =>
      rw [hinput] at hexisting
      cases hexisting
      have hcloses : d.Closes d ref := closes_self (line_congr hline (congrArg some hsame))
      simp only [Sketch.channel, htip, hsame, if_true]
      exact drawn_withTip h hcloses rfl hconsistent
    | wire hopen =>
      rw [hinput] at hopen
      cases hopen
    | bridge existing hexisting hother hrequest =>
      -- The cursor is on the channel that the bridge starts from, so this is one more stage.
      rw [hinput] at hexisting
      cases hexisting
      rw [onChannel_of_cursor hcursor] at hrequest hconsistent ⊢
      have hbridge := drawn_appended h hrequest
      simp only [Sketch.channel, htip, hother, if_false]
      exact drawn_withTip hbridge (closes_self hbridge.line) rfl hconsistent
  | none =>
    obtain ⟨place, hopen⟩ := h.awaited htip
    have hline : Line d.entry d.stages none := htip ▸ h.line
    have hinput := existingInput_of_open hopen hline
    cases hjoin with
    | nowhere hempty =>
      rw [hopen.cursor] at hempty
      cases hempty
    | there existing hexisting =>
      rw [hinput] at hexisting
      cases hexisting
    | wire =>
      simp only [Sketch.channel, htip]
      refine drawn_withTip h (closes_wired hopen hline ref) ?_ hconsistent
      rw [wired_of_component hopen.cursor]
      rfl
    | bridge existing hexisting =>
      rw [hinput] at hexisting
      cases hexisting

/-- What is registered by hand, and what becomes known, does not touch the line. -/
theorem drawn_frame (h : d.Drawn id config s) {components : ComponentRegistry}
    {converters : ConverterRegistry} (hconsistent : components.Consistent)
    (hget : ∀ place component, d.components.get place = some component →
      components.get place = some component) :
    FlowDefinition.Drawn { d with components, converters } id config s := by
  refine ⟨h.id_eq, h.config_eq, hconsistent, h.bodies, h.inputs, h.anonymous, h.line, h.given,
    ?_⟩
  intro hnone
  obtain ⟨place, hopen⟩ := h.awaited hnone
  refine ⟨place, hopen.cursor, ?_, ?_⟩
  · intro hnil
    obtain ⟨hsource, hplace, text, hsourced⟩ := hopen.source hnil
    exact ⟨hsource, hplace, text, hget _ _ hsourced⟩
  · intro hstages
    obtain ⟨himplicit, hstage⟩ := hopen.stage hstages
    exact ⟨himplicit, hget _ _ hstage⟩

/-- A call that is not refused goes into the sketch, and one that is refused does not. -/
theorem drawn_step {d' : FlowDefinition} {c : Call} {result : Except Failure (List Nat)}
    (h : d.Drawn id config s) (hstep : Step d c result d') (hraw : c.isRaw = false) :
    d'.Drawn id config (if result.isOk then s.call c else s) := by
  have hconsistent := consistent_step hstep h.consistent
  have hlearning : ∀ target, (d.learning target).Drawn id config s := fun target =>
    drawn_frame h h.consistent fun _ _ hget => hget
  cases hstep with
  | refused => exact hlearning c.learns
  | appended f r hadmitted =>
    obtain ⟨-, hrequest, hcheck⟩ := Factory.admitted_eq_ok.1 hadmitted
    have hcall : s.call (.stage f) = s.stage r := by simp [Sketch.call, hrequest]
    rw [hcall]
    exact drawn_appended (hlearning f.learns) hcheck
  | continued ref d' hcheck hjoin => exact drawn_continued h hcheck hjoin
  | added component name =>
    exact drawn_frame h hconsistent fun _ _ hget => ComponentRegistry.get_push_of_get hget _ _
  | addedAll batch =>
    exact drawn_frame h hconsistent fun _ _ hget => ComponentRegistry.get_pushAll_of_get hget
  | learned target => exact hlearning (some target)
  -- What is left sets the cursor, or the flag beside it, by hand.
  | moved c cursor hmoved =>
    rw [hraw] at hmoved
    cases hmoved
  | flagged => cases hraw

/-- The sketch has all calls that were not refused. -/
theorem drawn_afterAll {cs : List Call} (h : d.Drawn id config s)
    (hraw : ∀ c ∈ cs, c.isRaw = false) :
    (d.afterAll cs).Drawn id config ((d.succeeded cs).foldl Sketch.call s) := by
  induction cs generalizing d s with
  | nil => exact h
  | cons c cs ih =>
    have hstep := drawn_step h (c.step_of_call h.consistent) (hraw c List.mem_cons_self)
    have hrest := ih hstep fun c' hc' => hraw c' (List.mem_cons_of_mem c hc')
    simp only [afterAll, succeeded]
    split at hrest
    · next hok => simpa [hok] using hrest
    · next hrefused => simpa [hrefused] using hrest

/-- At first the sketch has the source and nothing else. -/
theorem drawn_start (id : String) (source : Source) (config : FlowConfig) :
    (start id source config).Drawn id config (Sketch.start source) := by
  have hconsistent := consistent_start id source config
  have hentry : (start id source config).entry = source.channelRef := Option.or_none
  refine ⟨rfl, rfl, hconsistent, rfl, rfl, rfl, congrArg _ hentry, ?_, ?_⟩
  · intro ref href
    have hsource : source.channelRef = some ref := href
    simp [start, hsource]
  · intro hnone
    have hsource : source.channelRef = none := hnone
    refine ⟨0, by simp [start, hsource], ?_, ?_⟩
    · intro _
      refine ⟨hsource, rfl, source.describe, ?_⟩
      simp [start, hsource, ComponentRegistry.push, ComponentRegistry.get, ComponentRegistry.empty]
    · intro hstages
      exact absurd rfl hstages

/-! ## The finished flow -/

/-- What a flow is entered by is where its line begins. -/
theorem entry_of_entrance {input : ChannelRef} (h : d.entrance = .ok input) :
    d.entry = some input := by
  unfold entrance at h
  by_cases hfixed : (d.source.isFixedSubscriber && d.stages.isEmpty) = true
  · simp [hfixed] at h
  simp only [hfixed, if_false, Bool.false_eq_true] at h
  unfold entry
  cases hsource : d.source.channelRef with
  | some ref =>
    by_cases hempty : d.stages.isEmpty = true
    · simp [hsource, hempty] at h
    · simpa [hsource, hempty] using h
  | none =>
    cases houtput : d.sourceOutput with
    | some ref => simpa [hsource, houtput] using h
    | none => simp [hsource, houtput] at h

/-- An open end is closed by an anonymous channel when the flow is finished. -/
theorem ended_of_open (hopen : d.Open place) (hline : Line d.entry d.stages none)
    {input : ChannelRef} (hentry : d.entry = some input) {output : Option ChannelRef}
    {d' : FlowDefinition} (hended : d.ended = .ok (output, d')) :
    output = some d.anonymousRef ∧ d' = d.extended := by
  -- Without a stage the entrance would be as open as the end.
  have hstages : d.stages ≠ [] := by
    intro hnil
    rw [hnil, hentry] at hline
    cases hline
  unfold ended at hended
  rw [hopen.cursor] at hended
  simp only [outputOf_of_open hopen hline, look_ok_bind, (hopen.stage hstages).1, if_true]
    at hended
  by_cases htaken : d.components.contains d.anonymousName = true
  · simp [htaken] at hended
  simp only [htaken, if_false, Bool.false_eq_true] at hended
  cases hended
  exact ⟨rfl, rfl⟩

/-- Ending closes the line, and gives the last link its channel. -/
theorem drawn_ended (h : d.Drawn id config s) {input : ChannelRef} (hentry : d.entry = some input)
    {output : Option ChannelRef} {d' : FlowDefinition} (hended : d.ended = .ok (output, d')) :
    ∃ ref, output = some ref ∧ d.Closes d' ref ∧
      number id 0 (s.links ++ [s.tip]) = number id 0 s.links ++ [ref] := by
  cases htip : s.tip with
  | some ref =>
    unfold ended at hended
    rw [h.given ref htip] at hended
    cases hended
    exact ⟨ref, rfl, closes_self (htip ▸ h.line), htip ▸ number_of_given htip⟩
  | none =>
    obtain ⟨place, hopen⟩ := h.awaited htip
    have hline : Line d.entry d.stages none := htip ▸ h.line
    obtain ⟨houtput, rfl⟩ := ended_of_open hopen hline hentry hended
    exact ⟨d.anonymousRef, houtput, closes_extended hopen hline, htip ▸ h.number_of_open htip⟩

/-- A finished flow is the line that was sketched. -/
theorem finished_of_drawn (h : d.Drawn id config s) {flow : Flow} (hflow : d.finished = .ok flow) :
    ∃ output, flow.output = some output ∧
      Line (some flow.input) flow.stages (some output) ∧
      flow.stages.map FlowStage.input ++ [output] = number id 0 (s.links ++ [s.tip]) ∧
      flow.stages.map (·.endpoint.unwired) =
        s.requests.mapIdx fun index r => r.endpoint id config index none := by
  obtain ⟨input, hentrance, hrest⟩ := look_bind_eq_ok.1 hflow
  obtain ⟨⟨output, d'⟩, hended, hrest⟩ := look_bind_eq_ok.1 hrest
  obtain ⟨_, -, hflow⟩ := look_bind_eq_ok.1 hrest
  cases hflow
  have hentry := entry_of_entrance hentrance
  obtain ⟨ref, houtput, hcloses, hlinks⟩ := drawn_ended h hentry hended
  refine ⟨ref, houtput, ?_, ?_, ?_⟩
  · have hline := hcloses.line
    rw [hcloses.entry input hentry] at hline
    exact hline
  · rw [hlinks, ← h.inputs, ← hcloses.inputs]
    rfl
  · exact hcloses.bodies.trans h.bodies

end FlowDefinition

/-- A finished flow is a line, whatever calls were refused on the way. Its stages are those that the
calls which were not refused ask for, in order, bridges included. Its channels are those that were
given, and between them the anonymous ones, numbered without a gap. -/
theorem finished_line (id : String) (source : Source) (config : FlowConfig) (cs : List Call)
    (hraw : ∀ c ∈ cs, c.isRaw = false) {flow : Flow}
    (hflow : (Composer.finish.exec ((FlowDefinition.start id source config).afterAll cs)).1 =
      .ok flow) :
    let s := Sketch.ofCalls source ((FlowDefinition.start id source config).succeeded cs)
    ∃ output, flow.output = some output ∧
      Line (some flow.input) flow.stages (some output) ∧
      flow.stages.map FlowStage.input ++ [output] = number id 0 (s.links ++ [s.tip]) ∧
      flow.stages.map (·.endpoint.unwired) =
        s.requests.mapIdx fun index r => r.endpoint id config index none := by
  have hdrawn := FlowDefinition.drawn_afterAll (FlowDefinition.drawn_start id source config) hraw
  rw [Composer.result_finish] at hflow
  exact FlowDefinition.finished_of_drawn hdrawn hflow

end

open Sample

/-- Two bridges that were asked for, one that was refused, and one between two channels. -/
theorem finished_line_bridges :
    ∃ flow output,
      (Composer.finish.exec ((FlowDefinition.start "f" (.channel "in" false) .standard).afterAll
        [.stage (.bridge .standard),
          .stage (.bridge { EndpointSpec.standard with id := some "in" }),
          .stage (.bridge .standard), .channel (.named "mid"), .channel (.named "out")])).1 =
        .ok flow ∧ flow.output = some output ∧
      Line (some flow.input) flow.stages (some output) ∧
      flow.stages.map FlowStage.input ++ [output] =
        [.named "in", .anonymous "f.channel#0", .named "mid", .named "out"] := by
  obtain ⟨output, houtput, hline, hlinks, -⟩ := finished_line "f" (.channel "in" false) .standard
    [.stage (.bridge .standard),
      .stage (.bridge { EndpointSpec.standard with id := some "in" }),
      .stage (.bridge .standard), .channel (.named "mid"), .channel (.named "out")]
    (by simp [Call.isRaw]) rfl
  exact ⟨_, output, rfl, houtput, hline, hlinks⟩

end MessageFlow
