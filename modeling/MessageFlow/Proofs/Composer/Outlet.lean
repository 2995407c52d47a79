import MessageFlow.Proofs.Composer.Sketch

/-!
# The outlet of a flow

A channel may be given more than once for the end of a flow: whatever bears the name of the current
one takes its place. The stage that sends to it keeps the reference it got first, though. `Outlet`
has both references, read off the calls. `outlet_of_finished` says of a finished flow that its last
stage sends to the one and that the flow reports the other.
-/

namespace MessageFlow

/-- The references that were given for the channel at the end of a flow. -/
structure Outlet where
  /-- The one that the last stage got. -/
  held : ChannelRef
  /-- The one that was given last. -/
  tip : ChannelRef
  same : held.name = tip.name

namespace Outlet

def of (ref : ChannelRef) : Outlet := ⟨ref, ref, rfl⟩

/-- Continued on a channel. -/
def continued (outlet : Option Outlet) (ref : ChannelRef) : Outlet :=
  match outlet with
  | some o => if h : o.tip.name = ref.name then ⟨o.held, ref, o.same.trans h⟩ else of ref
  | none => of ref

theorem mem_continued {outlet : Option Outlet} {ref : ChannelRef} {given : List ChannelRef}
    (h : ∀ o, outlet = some o → o.held ∈ given ∧ o.tip ∈ given) (href : ref ∈ given) :
    (continued outlet ref).held ∈ given ∧ (continued outlet ref).tip ∈ given := by
  unfold continued
  cases outlet with
  | none => exact ⟨href, href⟩
  | some o =>
    by_cases hname : o.tip.name = ref.name
    · simp only [hname, dif_pos]
      exact ⟨(h o rfl).1, href⟩
    · simp only [hname, dif_neg, not_false_eq_true]
      exact ⟨href, href⟩

end Outlet

variable [PayloadTypes]

/-- The references that a call gives for what is behind it. -/
def Call.gives : Call → List ChannelRef
  | .stage factory =>
    match factory.request with
    | .ok r => r.spec.output.toList
    | .error _ => []
  | .channel ref => [ref]
  | _ => []

namespace Outlet

/-- After one call. -/
def call (outlet : Option Outlet) : Call → Option Outlet
  | .stage factory =>
    match factory.request with
    | .ok r => r.spec.output.map of
    | .error _ => outlet
  | .channel ref => some (continued outlet ref)
  | _ => outlet

/-- The references that a list of calls gives for the end, if it gives any. -/
def ofCalls (source : Source) (cs : List Call) : Option Outlet :=
  cs.foldl call (source.channelRef.map of)

theorem mem_call {outlet : Option Outlet} {c : Call} {given : List ChannelRef}
    (h : ∀ o, outlet = some o → o.held ∈ given ∧ o.tip ∈ given)
    (hgives : ∀ ref ∈ c.gives, ref ∈ given) :
    ∀ o, call outlet c = some o → o.held ∈ given ∧ o.tip ∈ given := by
  intro o ho
  cases c with
  | stage factory =>
    simp only [call] at ho
    simp only [Call.gives] at hgives
    cases hrequest : factory.request with
    | error failure =>
      rw [hrequest] at ho
      exact h o ho
    | ok r =>
      rw [hrequest] at ho hgives
      obtain ⟨ref, href, rfl⟩ := Option.map_eq_some_iff.1 ho
      have hmem := hgives ref (Option.mem_toList.2 href)
      exact ⟨hmem, hmem⟩
  | channel ref =>
    cases ho
    exact mem_continued h (hgives ref (List.mem_singleton.2 rfl))
  | _ => exact h o ho

theorem mem_foldl {outlet : Option Outlet} {cs : List Call} {given : List ChannelRef}
    (h : ∀ o, outlet = some o → o.held ∈ given ∧ o.tip ∈ given)
    (hgives : ∀ c ∈ cs, ∀ ref ∈ c.gives, ref ∈ given) :
    ∀ o, cs.foldl call outlet = some o → o.held ∈ given ∧ o.tip ∈ given := by
  induction cs generalizing outlet with
  | nil => exact h
  | cons c cs ih =>
    rw [List.forall_mem_cons] at hgives
    exact ih (mem_call h hgives.1) hgives.2

/-- Both references were given. -/
theorem mem_ofCalls {source : Source} {cs : List Call} {o : Outlet}
    (h : ofCalls source cs = some o) :
    o.held ∈ source.channelRef.toList ++ cs.flatMap Call.gives ∧
      o.tip ∈ source.channelRef.toList ++ cs.flatMap Call.gives := by
  refine mem_foldl ?_ ?_ o h
  · intro o ho
    obtain ⟨ref, href, rfl⟩ := Option.map_eq_some_iff.1 ho
    have hmem := List.mem_append_left (cs.flatMap Call.gives) (Option.mem_toList.2 href)
    exact ⟨hmem, hmem⟩
  · intro c hc ref href
    exact List.mem_append_right _ (List.mem_flatMap.2 ⟨c, hc, href⟩)

/-- What was given last is the tip of the sketch. -/
theorem tip_call {s : Sketch} {outlet : Option Outlet} (h : s.tip = outlet.map tip) (c : Call) :
    (s.call c).tip = (call outlet c).map tip := by
  cases c with
  | stage factory =>
    simp only [Sketch.call, call]
    cases factory.request with
    | error failure => exact h
    | ok r =>
      show r.spec.output = (r.spec.output.map of).map tip
      cases r.spec.output <;> rfl
  | channel ref =>
    simp only [Sketch.call, Sketch.channel, call, continued, h]
    cases outlet with
    | none => rfl
    | some o =>
      by_cases hname : o.tip.name = ref.name
      · simp [hname]
      · simp only [Option.map_some, hname, if_false, dif_neg, not_false_eq_true]
        rfl
  | _ => exact h

end Outlet

namespace FlowDefinition

variable {d d' : FlowDefinition} {id : String} {config : FlowConfig} {s : Sketch}
  {outlet : Option Outlet} {ref : ChannelRef} {place : Nat}

/-- The last stage sends to the reference that it got. -/
def EndsIn (d : FlowDefinition) (outlet : Option Outlet) : Prop :=
  ∀ last, d.stages.getLast? = some last → last.endpoint.output = outlet.map Outlet.held

theorem endsIn_appended (d : FlowDefinition) (r : StageRequest) :
    (d.appended r).EndsIn (r.spec.output.map Outlet.of) := by
  have hlast : ∃ stages input, (d.appended r).stages = stages ++ [d.nextStage r input] := by
    unfold appended
    split
    · exact ⟨_, _, rfl⟩
    · exact ⟨_, _, rfl⟩
  obtain ⟨stages, input, hstages⟩ := hlast
  intro last hget
  rw [hstages, List.getLast?_concat] at hget
  cases hget
  show r.spec.output = (r.spec.output.map Outlet.of).map Outlet.held
  cases r.spec.output <;> rfl

/-- What awaits its output gets it. -/
theorem endsIn_wired (h : d.Open place) (ref : ChannelRef) :
    (d.wired ref).EndsIn (some (.of ref)) := by
  intro last hget
  rcases List.eq_nil_or_concat d.stages with hnil | ⟨stages, old, hconcat⟩
  · have hstages : (d.wired ref).stages = [] :=
      List.eq_nil_of_length_eq_zero (by rw [wired_length, hnil, List.length_nil])
    rw [hstages] at hget
    cases hget
  · rw [List.concat_eq_append] at hconcat
    rw [wired_stages h hconcat, List.getLast?_concat] at hget
    cases hget
    rfl

/-- A channel of the same name leaves the last stage with the reference it has; any other is given
to the last stage, or to a bridge behind it. -/
theorem endsIn_continued (h : d.Drawn id config s) (htip : s.tip = outlet.map Outlet.tip)
    (hends : d.EndsIn outlet) (hjoin : d.Joins ref d') :
    (d'.continued ref).EndsIn (some (Outlet.continued outlet ref)) := by
  show d'.EndsIn _
  cases outlet with
  | some o =>
    have hcursor := h.given o.tip htip
    have hinput := existingInput_of_channel hcursor
    cases hjoin with
    | nowhere hempty =>
      rw [hcursor] at hempty
      cases hempty
    | there existing hexisting hsame =>
      rw [hinput] at hexisting
      cases hexisting
      rw [Outlet.continued, dif_pos hsame]
      exact hends
    | wire hopen =>
      rw [hinput] at hopen
      cases hopen
    | bridge existing hexisting hother =>
      rw [hinput] at hexisting
      cases hexisting
      rw [Outlet.continued, dif_neg hother]
      exact endsIn_appended _ (.bridgeTo ref)
  | none =>
    have hnone : s.tip = none := htip
    obtain ⟨place, hopen⟩ := h.awaited hnone
    have hinput := existingInput_of_open hopen (hnone ▸ h.line)
    cases hjoin with
    | nowhere hempty =>
      rw [hopen.cursor] at hempty
      cases hempty
    | there existing hexisting =>
      rw [hinput] at hexisting
      cases hexisting
    | wire => exact endsIn_wired hopen ref
    | bridge existing hexisting =>
      rw [hinput] at hexisting
      cases hexisting

theorem endsIn_step {c : Call} {result : Except Failure (List Nat)} (h : d.Drawn id config s)
    (htip : s.tip = outlet.map Outlet.tip) (hends : d.EndsIn outlet) (hstep : Step d c result d')
    (hraw : c.isRaw = false) :
    d'.EndsIn (if result.isOk then Outlet.call outlet c else outlet) := by
  cases hstep with
  | refused => exact hends
  | appended f r hadmitted =>
    obtain ⟨-, hrequest, -⟩ := Factory.admitted_eq_ok.1 hadmitted
    have hcall : Outlet.call outlet (.stage f) = r.spec.output.map Outlet.of := by
      simp [Outlet.call, hrequest]
    rw [hcall]
    exact endsIn_appended _ r
  | continued ref d' hcheck hjoin => exact endsIn_continued h htip hends hjoin
  | added => exact hends
  | addedAll => exact hends
  | learned => exact hends
  | moved c cursor hmoved =>
    rw [hraw] at hmoved
    cases hmoved
  | flagged => cases hraw

theorem endsIn_afterAll {cs : List Call} (h : d.Drawn id config s)
    (htip : s.tip = outlet.map Outlet.tip) (hends : d.EndsIn outlet)
    (hraw : ∀ c ∈ cs, c.isRaw = false) :
    ((d.succeeded cs).foldl Sketch.call s).tip =
        ((d.succeeded cs).foldl Outlet.call outlet).map Outlet.tip ∧
      (d.afterAll cs).EndsIn ((d.succeeded cs).foldl Outlet.call outlet) := by
  induction cs generalizing d s outlet with
  | nil => exact ⟨htip, hends⟩
  | cons c cs ih =>
    have hstep := c.step_of_call h.consistent
    have hdrawn := drawn_step h hstep (hraw c List.mem_cons_self)
    have hends' := endsIn_step h htip hends hstep (hraw c List.mem_cons_self)
    have hrest : ∀ c' ∈ cs, c'.isRaw = false := fun c' hc' => hraw c' (List.mem_cons_of_mem c hc')
    simp only [afterAll, succeeded]
    cases hok : (c.result d).isOk with
    | true =>
      simp only [hok, if_true] at hdrawn hends' ⊢
      exact ih hdrawn (Outlet.tip_call htip c) hends' hrest
    | false =>
      simp only [hok, if_false, Bool.false_eq_true] at hdrawn hends' ⊢
      exact ih hdrawn htip hends' hrest

/-- An end that is open when the flow is finished gets an anonymous channel. -/
theorem endsIn_ended (h : d.Drawn id config s) (htip : s.tip = outlet.map Outlet.tip)
    (hends : d.EndsIn outlet) {input : ChannelRef} (hentry : d.entry = some input)
    {output : Option ChannelRef} (hended : d.ended = .ok (output, d')) :
    ∃ o : Outlet, output = some o.tip ∧ d'.EndsIn (some o) ∧
      (outlet = some o ∨ outlet = none ∧ ∃ name, o = .of (.anonymous name)) := by
  cases outlet with
  | some o =>
    unfold ended at hended
    rw [h.given o.tip htip] at hended
    cases hended
    exact ⟨o, rfl, hends, .inl rfl⟩
  | none =>
    have hnone : s.tip = none := htip
    obtain ⟨place, hopen⟩ := h.awaited hnone
    obtain ⟨houtput, rfl⟩ := ended_of_open hopen (hnone ▸ h.line) hentry hended
    exact ⟨.of d.anonymousRef, houtput,
      endsIn_wired (open_withAnonymous hopen) d.anonymousRef, .inr ⟨rfl, _, rfl⟩⟩

end FlowDefinition

/-- A finished flow reports the channel that its last stage sends to, by a reference of the same
name. The reference that the stage got may be another: of those that the calls gave for the end, it
is the first and the reported one is the last. An end that no call gave a channel for is anonymous,
and the two references are one. -/
theorem outlet_of_finished (id : String) (source : Source) (config : FlowConfig) (cs : List Call)
    (hraw : ∀ c ∈ cs, c.isRaw = false) {flow : Flow}
    (hflow : (Composer.finish.exec ((FlowDefinition.start id source config).afterAll cs)).1 =
      .ok flow) :
    let given := Outlet.ofCalls source ((FlowDefinition.start id source config).succeeded cs)
    ∃ o : Outlet, flow.output = some o.tip ∧
      (∀ last, flow.stages.getLast? = some last → last.endpoint.output = some o.held) ∧
      (given = some o ∨ given = none ∧ ∃ name, o = .of (.anonymous name)) := by
  have hstart : (Sketch.start source).tip =
      (source.channelRef.map Outlet.of).map Outlet.tip := by
    show source.channelRef = _
    cases source.channelRef <;> rfl
  have hends : (FlowDefinition.start id source config).EndsIn
      (source.channelRef.map Outlet.of) := by
    intro last hlast
    have hnone : ([] : List FlowStage).getLast? = some last := hlast
    cases hnone
  have hfirst := FlowDefinition.drawn_start id source config
  obtain ⟨htip, hends'⟩ := FlowDefinition.endsIn_afterAll hfirst hstart hends hraw
  rw [Composer.result_finish] at hflow
  obtain ⟨input, hentrance, hrest⟩ := look_bind_eq_ok.1 hflow
  obtain ⟨⟨output, d'⟩, hended, hrest⟩ := look_bind_eq_ok.1 hrest
  obtain ⟨_, -, hflow⟩ := look_bind_eq_ok.1 hrest
  cases hflow
  exact FlowDefinition.endsIn_ended (FlowDefinition.drawn_afterAll hfirst hraw) htip hends'
    (FlowDefinition.entry_of_entrance hentrance) hended

end MessageFlow
