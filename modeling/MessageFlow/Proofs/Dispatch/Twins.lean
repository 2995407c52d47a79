import MessageFlow.Proofs.Dispatch.LevelOrder
import MessageFlow.Proofs.Dispatch.Mirrors

/-!
# One dispatch in two worlds

Two messages that show the same are put into a flow of stateless stages, each in a world of its own.
Whatever is accepted in the one world is accepted in the other, so the two dispatches go the same
way: they end alike, and what they deliver shows the same (`exec_work_twins`). `Mailed` says that a
dispatch delivered parcels and did nothing else to any channel.

What is accepted alike is a matter of where messages go. Everything that a flow refers to is there
in both worlds (`Grounded`), and the reply channels of the two messages either are one channel, or
each is a queue of its own (`matched_of_replies`).
-/

namespace MessageFlow

variable [PayloadTypes]

namespace Runner

variable {r : Runner} {start start' p p' : Parcel} {ps ps' ds ds' es : List Parcel}
  {w w' u v v' : World}

/-! ## Deliveries -/

/-- The live channel that a parcel is delivered to. -/
def target (r : Runner) (p : Parcel) : Option LiveRef :=
  r.channels.resolve (r.destination p)

/-- The messages of parcels that are delivered to the channel at a place. -/
def mail (r : Runner) (place : Nat) (ds : List Parcel) : List Message :=
  (ds.filter fun d => (r.target d).any (·.key == place)).map Parcel.message

/-- Parcels were delivered, and no channel was changed besides. -/
structure Mailed (r : Runner) (ds : List Parcel) (w v : World) : Prop where
  channels : ∀ place : Nat, v.channels[place]? = w.channels[place]?.map fun live =>
    { live with box := { live.box with queued := live.box.queued ++ r.mail place ds } }
  steady : w.Steady v

/-- Mail comes in the order of what was delivered. -/
theorem mail_append (r : Runner) (place : Nat) (ds es : List Parcel) :
    r.mail place (ds ++ es) = r.mail place ds ++ r.mail place es := by
  simp [mail]

/-- Where nothing was sent nothing was mailed. -/
theorem mailed_of_still (r : Runner) (h : w.Still v) : r.Mailed [] w v := by
  refine ⟨fun place => ?_, h.2⟩
  rw [h.1]
  cases w.channels[place]? <;> simp [mail]

/-- What is mailed later comes behind what was mailed before. -/
theorem mailed_trans (h : r.Mailed ds w u) (h' : r.Mailed es u v) : r.Mailed (ds ++ es) w v := by
  refine ⟨fun place => ?_, frame_steady.trans w u v h.steady h'.steady⟩
  rw [h'.channels, h.channels, Option.map_map]
  simp [Function.comp_def, mail_append]

/-- Mail makes no difference to what channels take. -/
theorem Mailed.gates (h : r.Mailed ds w v) : v.gates = w.gates := by
  apply List.ext_getElem?
  intro place
  simp only [World.gates, List.getElem?_map, h.channels place, Option.map_map, Function.comp_def]

/-- A message that was sent was mailed. -/
theorem mailed_sent {live : LiveRef} (htarget : r.target p = some live) (w : World) :
    r.Mailed [p] w (w.sent live p.message) := by
  refine ⟨fun place => ?_, rfl, rfl⟩
  simp only [World.sent, World.posted, List.getElem?_modify]
  by_cases hplace : live.key = place
  · simp [mail, htarget, hplace]
  · simp [mail, htarget, hplace]

/-- A parcel that is accepted is mailed, and one that is refused changes nothing. -/
theorem exec_deliver_mailed (r : Runner) (p : Parcel) (w : World) :
    ∃ v, (r.deliver p).exec w = some (r.accepts w p, v) ∧
      r.Mailed (if (r.accepts w p).isOk then [p] else []) w v := by
  have hrefused : r.Mailed [] w w := mailed_of_still r (frame_still.refl w)
  rw [deliver_eq]
  unfold Runner.resolve Runner.accepts
  cases htarget : r.channels.resolve (r.destination p) with
  | none => exact ⟨w, rfl, hrefused⟩
  | some live =>
    refine ⟨_, by simpa using exec_send_eq live p.message w, ?_⟩
    cases haccepts : live.accepts w p.message.payload.type with
    | error failure => simpa [haccepts, Except.isOk, Except.toBool] using hrefused
    | ok => simpa [haccepts, Except.isOk, Except.toBool] using mailed_sent htarget w

/-! ## Twins -/

/-- Parcels of two dispatches that show the same, one by one. They came of what the dispatches began
with. -/
structure Twins (r : Runner) (start start' : Parcel) (ps ps' : List Parcel) : Prop where
  shown : ps.map (Parcel.shown Message.guise) = ps'.map (Parcel.shown Message.guise)
  trails : ∀ p ∈ ps, ∃ hops, r.Trail start hops p
  trails' : ∀ p ∈ ps', ∃ hops, r.Trail start' hops p

/-- What corresponds in two dispatches is accepted alike. -/
def Matched (r : Runner) (start start' : Parcel) (w w' : World) : Prop :=
  ∀ p p', r.Twins start start' [p] [p'] →
    Agree (fun _ _ => True) (r.accepts w p) (r.accepts w' p')

theorem twins_nil (r : Runner) (start start' : Parcel) : r.Twins start start' [] [] :=
  ⟨rfl, by simp, by simp⟩

/-- Two parcels that show the same are twins. -/
theorem twins_start (h : start.shown Message.guise = start'.shown Message.guise) :
    r.Twins start start' [start] [start'] := by
  refine ⟨by simp [h], ?_, ?_⟩
  · intro p hp
    cases List.mem_singleton.1 hp
    exact ⟨[], .start⟩
  · intro p hp
    cases List.mem_singleton.1 hp
    exact ⟨[], .start⟩

/-- Twins remain twins behind others. -/
theorem twins_append (h : r.Twins start start' ps ps') (h' : r.Twins start start' ds ds') :
    r.Twins start start' (ps ++ ds) (ps' ++ ds') := by
  refine ⟨by rw [List.map_append, List.map_append, h.shown, h'.shown], ?_, ?_⟩
  · intro p hp
    exact (List.mem_append.1 hp).elim (h.trails p) (h'.trails p)
  · intro p hp
    exact (List.mem_append.1 hp).elim (h.trails' p) (h'.trails' p)

/-- The first of some parcels has its twin, and so have the others. -/
theorem twins_cons (h : r.Twins start start' (p :: ps) ps') :
    ∃ p' rest, ps' = p' :: rest ∧ r.Twins start start' [p] [p'] ∧
      r.Twins start start' ps rest := by
  obtain ⟨p', rest, rfl, hp, hrest⟩ := List.map_eq_cons_iff.1 h.shown.symm
  refine ⟨p', rest, rfl, ⟨by simp [hp], ?_, ?_⟩, ⟨hrest.symm, ?_, ?_⟩⟩
  · exact fun q hq => h.trails q (by simp [List.mem_singleton.1 hq])
  · exact fun q hq => h.trails' q (by simp [List.mem_singleton.1 hq])
  · exact fun q hq => h.trails q (List.mem_cons_of_mem p hq)
  · exact fun q hq => h.trails' q (List.mem_cons_of_mem p' hq)

/-- Parcels that correspond are in one channel, and their messages show the same. -/
theorem shown_of_twins (h : r.Twins start start' [p] [p']) :
    p'.channel = p.channel ∧ p.message.guise = p'.message.guise := by
  have hshown : p.shown Message.guise = p'.shown Message.guise := by simpa using h.shown
  exact ⟨(congrArg Parcel.channel hshown).symm, congrArg Parcel.message hshown⟩

/-- A parcel is accepted alike while channels take what they took. -/
theorem accepts_of_gates (h : v.gates = w.gates) (p : Parcel) :
    r.accepts v p = r.accepts w p := by
  unfold accepts
  cases r.channels.resolve (r.destination p) with
  | none => rfl
  | some live =>
    show live.accepts v _ = live.accepts w _
    rw [MessageFlow.accepts_of_gates h]

/-- What is accepted alike remains so while channels take what they took. -/
theorem matched_of_gates (h : r.Matched start start' w w') (hv : v.gates = w.gates)
    (hv' : v'.gates = w'.gates) : r.Matched start start' v v' := by
  intro p p' hp
  rw [accepts_of_gates hv, accepts_of_gates hv']
  exact h p p' hp

/-- What outcomes that show the same lead to shows the same. -/
theorem mirrored_forward {stage : FlowStage} {outcome outcome' : Outcome}
    (h : outcome.Looks outcome') :
    (r.forward stage outcome).Mirrored
      (fun ps ps' => ps.map (Parcel.shown Message.guise) = ps'.map (Parcel.shown Message.guise))
      (r.forward stage outcome') := by
  intro w w' result v hexec
  obtain ⟨entries, hforward⟩ := exec_forward r stage outcome w
  obtain ⟨entries', hforward'⟩ := exec_forward r stage outcome' w'
  rw [hexec] at hforward
  cases hforward
  refine ⟨_, _, hforward', ?_, frame_still.journal w entries, frame_still.journal w' entries'⟩
  have hemissions := emissions_shown (r := r) Message.guise stage outcome
  rw [show outcome.shown Message.guise = outcome'.shown Message.guise from h,
    emissions_shown] at hemissions
  cases hps : r.emissions stage outcome with
  | error failure =>
    cases hps' : r.emissions stage outcome' with
    | error failure' =>
      rw [hps, hps'] at hemissions
      cases hemissions
      exact .error rfl
    | ok ps' =>
      rw [hps, hps'] at hemissions
      cases hemissions
  | ok ps =>
    cases hps' : r.emissions stage outcome' with
    | error failure' =>
      rw [hps, hps'] at hemissions
      cases hemissions
    | ok ps' =>
      rw [hps, hps'] at hemissions
      injection hemissions with hshown
      exact .ok hshown.symm

/-- Messages of one guise are served alike by stateless stages. -/
theorem mirrored_serve {m m' : Message} (h : m.guise = m'.guise) {stages : List FlowStage}
    (hstages : ∀ stage ∈ stages, stage.Stateless) :
    (r.serve m stages).Mirrored
      (fun ps ps' => ps.map (Parcel.shown Message.guise) = ps'.map (Parcel.shown Message.guise))
      (r.serve m' stages) := by
  induction stages with
  | nil => exact mirrored_pure rfl
  | cons stage stages ih =>
    rw [List.forall_mem_cons] at hstages
    refine mirrored_bind (mirrored_invoke hstages.1 h) fun outcome outcome' hlooks => ?_
    refine mirrored_bind (mirrored_forward hlooks) fun emitted emitted' hemitted => ?_
    refine mirrored_bind (ih hstages.2) fun rest rest' hrest => mirrored_pure ?_
    rw [List.map_append, List.map_append, hemitted, hrest]

/-- Stateless stages have the advice of the library. -/
theorem builtIn_of_stateless (hstages : ∀ stage ∈ r.flow.stages, stage.Stateless) :
    r.flow.BuiltIn :=
  fun stage hstage advice hadvice => ((hstages stage hstage).advice advice hadvice).builtIn

/-- Stateless stages are made by calls. -/
theorem made_of_stateless (hstages : ∀ stage ∈ r.flow.stages, stage.Stateless) :
    Made r.flow.stages := by
  intro stage hstage
  obtain ⟨f, hmade, -⟩ := (hstages stage hstage).made
  exact ⟨f, hmade⟩

section Stages

variable (hstages : ∀ stage ∈ r.flow.stages, stage.Stateless)

include hstages

/-- Two parcels that show the same go the same way. -/
theorem exec_visit_twins (hp : r.Twins start start' [p] [p'])
    (hmatched : r.Matched start start' w w') {result : Except Failure (List Parcel)}
    (hexec : (r.visit p).exec w = some (result, v)) :
    ∃ result' v' ds ds', (r.visit p').exec w' = some (result', v') ∧
      Agree (r.Twins start start') result result' ∧ r.Twins start start' ds ds' ∧
      r.Mailed ds w v ∧ r.Mailed ds' w' v' := by
  obtain ⟨hchannel, hguise⟩ := shown_of_twins hp
  obtain ⟨hops, htrail⟩ := hp.trails p (by simp)
  obtain ⟨hops', htrail'⟩ := hp.trails' p' (by simp)
  cases hconsumers : r.flow.consumers p.channel.name with
  | nil =>
    rw [visit_of_free hconsumers] at hexec
    rw [visit_of_free (hchannel ▸ hconsumers)]
    obtain ⟨u, hdeliver, hmailed⟩ := exec_deliver_mailed r p w
    obtain ⟨u', hdeliver', hmailed'⟩ := exec_deliver_mailed r p' w'
    rw [Run.exec_bind, hdeliver] at hexec
    rw [Run.exec_bind, hdeliver']
    have hagree := hmatched p p' hp
    generalize r.accepts w p = accepted at hagree hexec hmailed
    generalize r.accepts w' p' = accepted' at hagree hmailed'
    cases hagree with
    | ok =>
      cases hexec
      exact ⟨.ok [], u', [p], [p'], rfl, .ok (twins_nil r start start'), hp, hmailed, hmailed'⟩
    | error hface =>
      cases hexec
      exact ⟨_, u', [], [], rfl, .error hface, twins_nil r start start', hmailed, hmailed'⟩
  | cons first rest =>
    have hvisit : ∀ q : Parcel, q.channel = p.channel →
        r.visit q = r.serve q.message (r.flow.consumers p.channel.name) := by
      intro q hq
      unfold visit
      rw [hq, hconsumers]
    have hserving : ∀ stage ∈ r.flow.consumers p.channel.name, stage.Stateless :=
      fun stage hstage => hstages stage (List.mem_filter.1 hstage).1
    have hserve := hexec
    rw [hvisit p rfl] at hserve
    obtain ⟨result', v', hserve', hagree, hv, hv'⟩ :=
      mirrored_serve (r := r) hguise hserving w w' result v hserve
    rw [← hvisit p' hchannel] at hserve'
    refine ⟨result', v', [], [], hserve', ?_, twins_nil r start start', mailed_of_still r hv,
      mailed_of_still r hv'⟩
    have hmade := made_of_stateless hstages
    cases hagree with
    | error hface => exact .error hface
    | ok hparcels =>
      exact .ok ⟨hparcels, fun q hq => trail_of_visit hmade htrail hexec hq,
        fun q hq => trail_of_visit hmade htrail' hserve' hq⟩

/-- Two dispatches that begin with what shows the same end alike, and deliver what shows the
same. -/
theorem exec_work_twins (hps : r.Twins start start' ps ps')
    (hmatched : r.Matched start start' w w') {result : Except Failure Unit}
    (hexec : (Work.run r.visit ps).exec w = some (result, v)) :
    ∃ result' v' ds ds', (Work.run r.visit ps').exec w' = some (result', v') ∧
      Agree (fun _ _ => True) result result' ∧ r.Twins start start' ds ds' ∧
      r.Mailed ds w v ∧ r.Mailed ds' w' v' := by
  refine Work.run_induction (motive := fun ps w result v => ∀ ps' w',
    r.Twins start start' ps ps' → r.Matched start start' w w' →
    ∃ result' v' ds ds', (Work.run r.visit ps').exec w' = some (result', v') ∧
      Agree (fun _ _ => True) result result' ∧ r.Twins start start' ds ds' ∧
      r.Mailed ds w v ∧ r.Mailed ds' w' v') ?_ ?_ ?_ hexec ps' w' hps hmatched
  · intro w ps' w' hps _
    cases List.map_eq_nil_iff.1 hps.shown.symm
    exact ⟨.ok (), w', [], [], by simp, .ok trivial, twins_nil r start start',
      mailed_of_still r (frame_still.refl w), mailed_of_still r (frame_still.refl w')⟩
  · intro p rest w failure v hvisit ps' w' hps hmatched
    obtain ⟨p', rest', rfl, hp, -⟩ := twins_cons hps
    obtain ⟨result', v', ds, ds', hvisit', hagree, hds, hv, hv'⟩ :=
      exec_visit_twins hstages hp hmatched hvisit
    cases hagree with
    | @error _ failure' hface =>
      refine ⟨.error failure', v', ds, ds', ?_, .error hface, hds, hv, hv'⟩
      rw [Work.run_cons, Run.exec_bind, hvisit']
  · intro p rest further w u result v hvisit ih ps' w' hps hmatched
    obtain ⟨p', rest', rfl, hp, hrest⟩ := twins_cons hps
    obtain ⟨further', u', ds, ds', hvisit', hagree, hds, hu, hu'⟩ :=
      exec_visit_twins hstages hp hmatched hvisit
    cases hagree with
    | ok hfurther =>
      obtain ⟨result', v', es, es', hrun', hresult, hes, hv, hv'⟩ :=
        ih _ u' (twins_append hrest hfurther) (matched_of_gates hmatched hu.gates hu'.gates)
      refine ⟨result', v', ds ++ es, ds' ++ es', ?_, hresult, twins_append hds hes,
        mailed_trans hu hv, mailed_trans hu' hv'⟩
      rw [Work.run_cons, Run.exec_bind, hvisit']
      exact hrun'

end Stages

/-! ## Where parcels go -/

/-- A reference leads to a channel that is there, if it leads anywhere. -/
def Knows (r : Runner) (w : World) (ref : ChannelRef) : Prop :=
  ∀ live, r.channels.resolve ref = some live → live.key < w.channels.length

/-- A live channel that the flow refers to by itself: as its input, as what a stage may send to, or
as its error channel. -/
def Mentions (r : Runner) (live : LiveRef) : Prop :=
  r.flow.input = .live live ∨ (∃ stage ∈ r.flow.stages, stage.MayEmit (.live live)) ∨
    r.flow.gatewaySpec.errorChannel = some (.live live)

/-- All channels that are registered or that the flow refers to are there. -/
structure Grounded (r : Runner) (w : World) : Prop where
  registered : ∀ name live, r.channels.get name = some live → live.key < w.channels.length
  mentioned : ∀ live, r.Mentions live → live.key < w.channels.length

/-- A name leads to channels that are there, and so does a live channel that is there. -/
theorem knows_of_live (hw : r.Grounded w) {ref : ChannelRef}
    (h : ∀ live, ref = .live live → live.key < w.channels.length) : r.Knows w ref := by
  intro live hlive
  cases ref with
  | live channel =>
    cases hlive
    exact h live rfl
  | named name => exact hw.registered name live hlive
  | anonymous name => exact hw.registered name live hlive

/-- What came of a parcel is in a channel that is there, if that one is. -/
theorem knows_of_trail (hw : r.Grounded w) (hstart : r.Knows w start.channel) {hops : List Hop}
    (h : r.Trail start hops p) : r.Knows w p.channel := by
  cases h with
  | start => exact hstart
  | hop hops p q stage f outcome ps i u v _ hstage _ hinvoke hemissions hq =>
    refine knows_of_live hw fun live hlive => hw.mentioned live (.inr (.inl ⟨stage, ?_, ?_⟩))
    · exact (List.mem_filter.1 hstage).1
    · rw [← hlive]
      have htargets := mem_targets_of_emissions hemissions (List.mem_of_getElem? hq)
      exact htargets.imp_right fun hmem => ⟨_, u, outcome, v, hinvoke, hmem⟩

/-- Whether a message in the channel of a parcel goes to its reply channel. -/
def repliesAt (r : Runner) (p : Parcel) : Bool :=
  r.flow.output == some p.channel && p.channel.isAnonymous

/-- A parcel goes where it is put, unless it is a reply there and its message names a channel for
it. -/
theorem destination_eq (r : Runner) (p : Parcel) : r.destination p =
    (if r.repliesAt p then p.message.headers.replyChannel else none).getD p.channel := rfl

/-- Two messages whose replies make no difference to what is accepted: they go to one channel, which
is there, or each goes to a queue of its own. -/
inductive Counterparts (r : Runner) (w₀ w w' : World) :
    Option ChannelRef → Option ChannelRef → Prop where
  | same (reply : Option ChannelRef) : (∀ ref, reply = some ref → r.Knows w₀ ref) →
      Counterparts r w₀ w w' reply reply
  | own (queue queue' : LiveRef) : queue.IsOpen w → queue'.IsOpen w' →
      Counterparts r w₀ w w' (some (.live queue)) (some (.live queue'))

/-- A channel that was there accepts what it accepted. -/
theorem accepts_of_later {live : LiveRef} (hw : w.gates <+: v.gates)
    (h : live.key < w.channels.length) : live.accepts v = live.accepts w := by
  obtain ⟨later, hlater⟩ := hw
  refine accepts_congr ?_
  rw [← hlater]
  exact List.getElem?_append_left (by simpa [World.gates] using h)

/-- What a reference that is known stands for is accepted alike wherever there is more. -/
theorem agree_of_knows {ref : ChannelRef} (h : r.Knows u ref) (hw : u.gates <+: w.gates)
    (hw' : u.gates <+: w'.gates) (hp : r.destination p = ref) (hp' : r.destination p' = ref)
    (htype : p'.message.payload.type = p.message.payload.type) :
    Agree (fun _ _ => True) (r.accepts w p) (r.accepts w' p') := by
  unfold accepts
  rw [hp, hp']
  cases hlive : r.channels.resolve ref with
  | none => exact .error rfl
  | some live =>
    have hthere := h live hlive
    simp only [accepts_of_later hw hthere, accepts_of_later hw' hthere, htype]
    cases live.accepts u p.message.payload.type with
    | ok => exact .ok trivial
    | error failure => exact .error rfl

/-- Where everything that a flow refers to is there, what corresponds is accepted alike. -/
theorem matched_of_replies (hstages : ∀ stage ∈ r.flow.stages, stage.Stateless)
    (hu : r.Grounded u) (hw : u.gates <+: w.gates) (hw' : u.gates <+: w'.gates)
    (hstart : r.Knows u start.channel)
    (hreplies : r.Counterparts u w w' start.message.headers.replyChannel
      start'.message.headers.replyChannel) : r.Matched start start' w w' := by
  intro p p' hp
  have hadvice := builtIn_of_stateless hstages
  obtain ⟨hops, htrail⟩ := hp.trails p (by simp)
  obtain ⟨hops', htrail'⟩ := hp.trails' p' (by simp)
  obtain ⟨hchannel, hguise⟩ := shown_of_twins hp
  have htype : p'.message.payload.type = p.message.payload.type :=
    (congrArg (·.payload.type) hguise).symm
  have hreply := (inherits_of_trail hadvice htrail).replyChannel
  have hreply' := (inherits_of_trail hadvice htrail').replyChannel
  have hknown := knows_of_trail hu hstart htrail
  have hat : r.repliesAt p' = r.repliesAt p := by
    unfold repliesAt
    rw [hchannel]
  cases hreplied : r.repliesAt p with
  | false =>
    refine agree_of_knows hknown hw hw' ?_ ?_ htype
    · rw [destination_eq, hreplied]
      rfl
    · rw [destination_eq, hat, hreplied, hchannel]
      rfl
  | true =>
    have hto : r.destination p = (start.message.headers.replyChannel).getD p.channel := by
      rw [destination_eq, hreplied, hreply]
      rfl
    have hto' : r.destination p' = (start'.message.headers.replyChannel).getD p.channel := by
      rw [destination_eq, hat, hreplied, hreply', hchannel]
      rfl
    generalize start.message.headers.replyChannel = reply at hreplies hto
    generalize start'.message.headers.replyChannel = reply' at hreplies hto'
    cases hreplies with
    | same reply hsame =>
      cases reply with
      | none => exact agree_of_knows hknown hw hw' hto hto' htype
      | some ref => exact agree_of_knows (hsame ref rfl) hw hw' hto hto' htype
    | own queue queue' hopen hopen' =>
      have hresolve : r.channels.resolve (r.destination p) = some queue := by rw [hto]; rfl
      have hresolve' : r.channels.resolve (r.destination p') = some queue' := by rw [hto']; rfl
      unfold accepts
      rw [hresolve, hresolve']
      simp only [accepts_of_isOpen hopen, accepts_of_isOpen hopen']
      exact .ok trivial

/-! ## What is mailed where -/

/-- Of the channels that were opened later, only the reply channel gets mail: what goes to reply
channels, and nothing else. -/
theorem mail_of_trails (hadvice : r.flow.BuiltIn) (hu : r.Grounded u)
    (hstart : r.Knows u start.channel) {reply : Option ChannelRef}
    (hreply : start.message.headers.replyChannel = reply)
    (hds : ∀ d ∈ ds, ∃ hops, r.Trail start hops d) {place : Nat}
    (hplace : u.channels.length ≤ place) :
    r.mail place ds = if (reply.bind r.channels.resolve).any (·.key == place) then
      (ds.filter r.repliesAt).map Parcel.message else [] := by
  have htarget : ∀ d ∈ ds, (r.target d).any (·.key == place) =
      (r.repliesAt d && (reply.bind r.channels.resolve).any (·.key == place)) := by
    intro d hd
    obtain ⟨hops, htrail⟩ := hds d hd
    have hknown := knows_of_trail hu hstart htrail
    have hhere : (r.channels.resolve d.channel).any (·.key == place) = false := by
      cases hlive : r.channels.resolve d.channel with
      | none => rfl
      | some live =>
        have hlt := hknown live hlive
        have hne : live.key ≠ place := by omega
        simpa using hne
    rw [target, destination_eq, (inherits_of_trail hadvice htrail).replyChannel, hreply]
    cases r.repliesAt d with
    | false => simpa using hhere
    | true =>
      cases reply with
      | none => simpa using hhere
      | some ref => rfl
  unfold mail
  rw [List.filter_congr htarget]
  split
  · next hto => simp [hto]
  · next hto => simp [hto]

/-- Twins reply alike. -/
theorem replies_of_twins (h : r.Twins start start' ds ds') :
    ((ds.filter r.repliesAt).map Parcel.message).map Message.guise =
      ((ds'.filter r.repliesAt).map Parcel.message).map Message.guise := by
  have hfilter : ∀ es : List Parcel,
      ((es.filter r.repliesAt).map Parcel.message).map Message.guise =
        ((es.map (Parcel.shown Message.guise)).filter r.repliesAt).map Parcel.message := by
    intro es
    rw [List.filter_map, List.map_map, List.map_map]
    rfl
  rw [hfilter, hfilter, h.shown]

end Runner

end MessageFlow
