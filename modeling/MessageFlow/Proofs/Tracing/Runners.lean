import Mathlib.Data.List.Forall2
import MessageFlow.Proofs.Dispatch.Requests
import MessageFlow.Proofs.Tracing.Alike

/-!
# Runners of stages that cannot be told apart

Two runners that differ in their stages only, and whose stages differ only in what they trace
(`Runner.Alike`), do the same: each way to use a runner has a lemma here, from putting one message
into a channel (`alike_dispatch`) to waiting for a reply while pumps go on (`alike_request`). The
pumps of other runners may go on meanwhile, so runners are compared in lists.

What a runner does besides calling its stages depends on nothing in which the two differ, and does
not see what was traced.
-/

namespace MessageFlow

/-- Lists that are related are both empty or neither. -/
theorem isEmpty_of_forall₂ {α β : Type} {related : α → β → Prop} {as : List α} {bs : List β}
    (h : List.Forall₂ related as bs) : as.isEmpty = bs.isEmpty := by
  cases h <;> rfl

variable [PayloadTypes]

open Run

/-- A source that does not see what is traced. -/
def Source.Blind : Source → Prop
  | polling receive _ => receive.Blind
  | producer _ subscribe => subscribe.Blind
  | _ => True

/-- Two stages that cannot be told apart without the lines of tracing. -/
structure FlowStage.Alike (stage stage' : FlowStage) : Prop where
  input : stage'.input = stage.input
  info : stage'.endpoint.info = stage.endpoint.info
  output : stage'.endpoint.output = stage.endpoint.output
  invoke : ∀ m, (stage.endpoint.invoke m).Alike (· = ·) (stage'.endpoint.invoke m)

/-- The flow with other stages. -/
def Flow.withStages (flow : Flow) (stages : List FlowStage) : Flow :=
  { flow with stages := stages }

/-- The runner with other stages. -/
def Runner.withStages (r : Runner) (stages : List FlowStage) : Runner :=
  { r with flow := r.flow.withStages stages }

/-- The same runner with stages that cannot be told from its own. -/
inductive Runner.Alike (r : Runner) : Runner → Prop where
  | mk {stages : List FlowStage} : r.flow.source.Blind →
      List.Forall₂ FlowStage.Alike r.flow.stages stages → Runner.Alike r (r.withStages stages)

namespace Runner

variable {r r' : Runner} {stage stage' : FlowStage} {m : Message}

/-! ## Dispatching -/

/-- A channel is consumed by stages that are alike. -/
theorem alike_consumers {flow : Flow} {stages : List FlowStage}
    (h : List.Forall₂ FlowStage.Alike flow.stages stages) (name : String) :
    List.Forall₂ FlowStage.Alike (flow.consumers name)
      ((flow.withStages stages).consumers name) := by
  refine List.rel_filter (fun stage stage' hstage => ?_) h
  show (stage.input.name == name) = true ↔ (stage'.input.name == name) = true
  rw [hstage.input]

/-- Runners that are alike find the same channels. -/
theorem isResolvable_of_alike (h : r.Alike r') (ref : ChannelRef) :
    r'.isResolvable ref = r.isResolvable ref := by
  cases h with
  | mk _ hstages =>
    unfold isResolvable
    rw [isEmpty_of_forall₂ (alike_consumers hstages ref.name)]
    rfl

/-- The live channel of a reference does not depend on what was traced. -/
theorem blind_resolve (r : Runner) (ref : ChannelRef) : (r.resolve ref).Blind := by
  unfold resolve
  cases r.channels.resolve ref with
  | some live => exact alike_pure rfl
  | none => exact alike_throw _

/-- Deliveries do not depend on what was traced. -/
theorem blind_deliver (r : Runner) (p : Parcel) : (r.deliver p).Blind :=
  alike_then (blind_resolve r _) fun live => blind_send live p.message

/-- Stages that are alike put a message into the same channel. -/
theorem alike_emit (h : stage.Alike stage') (m : Message) :
    (emit stage m).Alike (· = ·) (emit stage' m) := by
  unfold emit
  rw [h.output, h.info]
  cases stage.endpoint.output with
  | some ref => exact alike_pure rfl
  | none => exact alike_then (blind_log _) fun _ => alike_pure rfl

/-- Stages that are alike put messages into the same channel. -/
theorem alike_emitAll (h : stage.Alike stage') (ms : List Message) :
    (emitAll stage ms).Alike (· = ·) (emitAll stage' ms) := by
  induction ms with
  | nil => exact alike_pure rfl
  | cons m ms ih =>
    exact alike_then (alike_emit h m) fun _ => alike_then ih fun _ => alike_pure rfl

/-- Stages that are alike forward an outcome the same way. -/
theorem alike_forward (h : r.Alike r') (hstage : stage.Alike stage') (outcome : Outcome) :
    (r.forward stage outcome).Alike (· = ·) (r'.forward stage' outcome) := by
  cases outcome with
  | reply m => exact alike_emit hstage m
  | many ms => exact alike_emitAll hstage ms
  | discard m channel => exact alike_pure rfl
  | done => exact alike_pure rfl
  | route decision =>
    -- Where a route may go depends on the channels and on who consumes them, and these agree.
    simp only [forward, isResolvable_of_alike h]
    cases r.isResolvable decision.channel with
    | true => exact alike_pure rfl
    | false =>
      cases decision.fallback with
      | some ref => exact alike_pure rfl
      | none =>
        cases decision.required with
        | true => exact alike_throw _
        | false => exact alike_emit hstage decision.message

/-- A message is served alike by stages that are alike. -/
theorem alike_serve (h : r.Alike r') (m : Message) {stages stages' : List FlowStage}
    (hstages : List.Forall₂ FlowStage.Alike stages stages') :
    (r.serve m stages).Alike (· = ·) (r'.serve m stages') := by
  induction hstages with
  | nil => exact alike_pure rfl
  | cons hstage _ ih =>
    exact alike_then (hstage.invoke m) fun outcome =>
      alike_then (alike_forward h hstage outcome) fun _ => alike_then ih fun _ => alike_pure rfl

/-- A parcel is visited alike by runners that are alike. -/
theorem alike_visit (h : r.Alike r') (p : Parcel) : (r.visit p).Alike (· = ·) (r'.visit p) := by
  cases h with
  | @mk stages hsource hstages =>
    have hconsumers := alike_consumers hstages p.channel.name
    unfold visit
    -- Either both channels have consumers, or the message is delivered on both sides.
    rw [show (r.withStages stages).flow = r.flow.withStages stages from rfl]
    generalize r.flow.consumers p.channel.name = consumers,
      (r.flow.withStages stages).consumers p.channel.name = consumers' at hconsumers
    cases hconsumers with
    | nil => exact alike_then (blind_deliver r p) fun _ => alike_pure rfl
    | cons hstage hrest => exact alike_serve (.mk hsource hstages) p.message (.cons hstage hrest)

/-- Messages on their way are seen through alike. -/
theorem alike_dispatch (h : r.Alike r') (ref : ChannelRef) (m : Message) :
    (r.dispatch ref m).Alike (· = ·) (r'.dispatch ref m) := by
  refine alike_loop (· = ·) (fun tasks _ htasks => ?_) rfl
  subst htasks
  cases tasks with
  | nil => exact alike_pure (.inr rfl)
  | cons task rest =>
    refine alike_bind (alike_visit h task) fun further _ hfurther => ?_
    exact alike_pure (.inl (congrArg (rest ++ ·) hfurther))

/-- A message is sent alike. -/
theorem alike_send (h : r.Alike r') (m : Message) :
    (r.send m).Alike (· = ·) (r'.send m) := by
  cases h with
  | mk hsource hstages => exact alike_dispatch (.mk hsource hstages) r.flow.input m

/-- A message whose failure is only logged is sent alike. -/
theorem alike_sendLogged (h : r.Alike r') (m : Message) :
    (r.sendLogged m).Alike (· = ·) (r'.sendLogged m) := by
  have hsend := alike_send h m
  cases h with
  | mk hsource hstages =>
    refine alike_then (alike_attempt hsend) fun result => ?_
    cases result with
    | ok => exact alike_pure rfl
    | error failure => exact blind_log _

/-! ## Pumping -/

/-- What a runner is doing has nothing to do with traces. -/
theorem blind_state (r : Runner) : r.state.Blind :=
  blind_look fun _ => rfl

theorem blind_update (r : Runner) (f : RunnerState → RunnerState) : (r.update f).Blind :=
  blind_modify fun _ => rfl

/-- Turns are given out whatever was traced. -/
theorem blind_nextTurn : nextTurn.Blind :=
  blind_of_untraced fun _ => rfl

/-- The place of a pump has nothing to do with traces. -/
theorem blind_place (p : Pump) (after : Option Nat) : (place p after).Blind := by
  unfold place
  split
  · exact alike_pure rfl
  · exact blind_nextTurn

/-- A pump that rests traces nothing and reads no traces. -/
theorem blind_rest (r : Runner) (p : Pump) (work : PumpWork) (after : Option Nat) :
    (r.rest p work after).Blind :=
  alike_then (blind_place p after) fun _ => alike_then (blind_look fun _ => rfl) fun _ =>
    blind_update r _

theorem blind_begin (r : Runner) (work : PumpWork) : (r.begin work).Blind :=
  alike_then blind_nextTurn fun _ => alike_then (blind_look fun _ => rfl) fun _ =>
    blind_update r _

theorem blind_completed (r : Runner) : r.completed.Blind :=
  alike_then (blind_log _) fun _ => blind_update r _

/-- A poll goes alike if the source does not read what was traced. -/
theorem alike_poll (h : r.Alike r') {receive : Run (Option Message)} (hreceive : receive.Blind)
    (max : Nat) : (r.poll receive max).Alike (· = ·) (r'.poll receive max) := by
  induction max with
  | zero => exact alike_pure rfl
  | succ max ih =>
    refine alike_then hreceive fun taken => ?_
    cases taken with
    | none => exact alike_pure rfl
    | some m => exact alike_then (alike_sendLogged h m) fun _ => ih

/-- A pump takes its turn alike. -/
theorem alike_pump (h : r.Alike r') (p : Pump) : (r.pump p).Alike (· = ·) (r'.pump p) := by
  -- Both are about either runner, and are lost once the second is the first with other stages.
  have hpoll := @alike_poll _ r r' h
  have hsend := alike_sendLogged h
  cases h with
  | @mk stages hsource =>
    unfold pump
    rw [show (r.withStages stages).flow.source = r.flow.source from rfl]
    cases p.work with
    | drain feed =>
      dsimp only
      cases p.armed with
      | false => exact blind_rest r p _ _
      | true =>
        cases feed.next.message with
        | none => exact blind_completed r
        | some m => exact alike_then (hsend m) fun _ => blind_rest r p _ _
    | poll =>
      cases hkind : r.flow.source with
      | polling receive adapter =>
        rw [hkind] at hsource
        exact alike_then (hpoll hsource _) fun _ => blind_rest r p _ _
      | _ => exact blind_update r _

theorem blind_draw : draw.Blind :=
  blind_of_untraced fun _ => rfl

/-- Whether a pump persists has nothing to do with traces. -/
theorem blind_persists (p : Pump) : p.persists.Blind := by
  refine alike_then (blind_look fun _ => rfl) fun now => ?_
  cases p.armed with
  | false => exact alike_pure rfl
  | true =>
    cases p.isDue now with
    | true => exact blind_draw
    | false => exact alike_pure rfl

/-- A pump comes to its end alike. -/
theorem alike_windDown (h : r.Alike r') (rounds : Nat) :
    (r.windDown rounds).Alike (· = ·) (r'.windDown rounds) := by
  have hstate : r.state.Alike (· = ·) r'.state := by
    cases h
    exact blind_state r
  have hgone : (r.setPump none).Alike (· = ·) (r'.setPump none) := by
    cases h
    exact blind_update r _
  induction rounds with
  | zero => exact alike_giveUp
  | succ rounds ih =>
    refine alike_then hstate fun state => ?_
    cases state.pump with
    | none => exact alike_pure rfl
    | some p =>
      refine alike_then (blind_persists p) fun persists => ?_
      cases persists with
      | true => exact alike_then (alike_pump h p) fun _ => ih
      | false => exact hgone

end Runner

/-! ## Time -/

section Time

variable {runners runners' : List Runner}

/-- The same pump, of runners that cannot be told apart. -/
inductive PumpsAlike : Runner × Pump → Runner × Pump → Prop where
  | mk {r r' : Runner} (p : Pump) : r.Alike r' → PumpsAlike (r, p) (r', p)

/-- The pumps of runners that are alike are the same. -/
theorem alike_pumps (h : List.Forall₂ Runner.Alike runners runners') :
    (pumps runners).Alike (List.Forall₂ PumpsAlike) (pumps runners') := by
  refine alike_bind (blind_look fun _ => rfl) fun states _ hstates => alike_pure ?_
  subst hstates
  refine List.rel_filterMap (fun r r' hr => ?_) h
  have hslot : r'.slot = r.slot := by
    cases hr
    rfl
  rw [hslot]
  cases states[r.slot]?.bind (·.pump) with
  | none => exact .none
  | some p => exact .some (.mk p hr)

/-- The first pump to go on is the same. -/
theorem alike_firstPump? {entries entries' : List (Runner × Pump)}
    (h : List.Forall₂ PumpsAlike entries entries') :
    Option.Rel PumpsAlike (firstPump? entries) (firstPump? entries') := by
  induction h with
  | nil => exact .none
  | @cons entry entry' rest rest' hentry _ ih =>
    unfold firstPump?
    generalize firstPump? rest = first, firstPump? rest' = first' at ih
    cases ih with
    | none => exact .some hentry
    | some hother =>
      -- Which of two pumps is first is for their dues alone to say.
      cases hentry with
      | mk p hr =>
        cases hother with
        | mk q hs =>
          dsimp only
          cases q.isBefore p with
          | true => exact .some (.mk q hs)
          | false => exact .some (.mk p hr)

/-- The first of the pumps for which the time has come. -/
theorem firstPump?_of_due {entries entries' : List (Runner × Pump)}
    (h : List.Forall₂ PumpsAlike entries entries') (isDue : Pump → Bool) :
    Option.Rel PumpsAlike (firstPump? (entries.filter fun entry => isDue entry.2))
      (firstPump? (entries'.filter fun entry => isDue entry.2)) := by
  refine alike_firstPump? (List.rel_filter (fun entry entry' hentry => ?_) h)
  cases hentry
  exact Iff.rfl

/-- Pumps that are due go on alike. -/
theorem alike_goOn (h : List.Forall₂ Runner.Alike runners runners') (time rounds : Nat) :
    (goOn runners time rounds).Alike (· = ·) (goOn runners' time rounds) := by
  induction rounds with
  | zero => exact alike_giveUp
  | succ rounds ih =>
    refine alike_bind (alike_pumps h) fun entries entries' hentries => ?_
    have hfirst := firstPump?_of_due hentries fun p => p.isDue time
    generalize firstPump? (entries.filter fun entry => entry.2.isDue time) = first,
      firstPump? (entries'.filter fun entry => entry.2.isDue time) = first' at hfirst
    cases hfirst with
    | none => exact alike_pure rfl
    | some hentry =>
      cases hentry with
      | mk p hr => exact alike_then (Runner.alike_pump hr p) fun _ => ih

theorem blind_serveReceivers : serveReceivers.Blind :=
  blind_modify fun _ => rfl

/-- Time passes alike, if nobody waits for a trace. -/
theorem alike_passUntil {α : Type} (h : List.Forall₂ Runner.Alike runners runners')
    (deadline : Nat) {done? : Run (Option α)} (hdone : done?.Blind) (rounds : Nat) :
    (passUntil runners deadline done? rounds).Alike (· = ·)
      (passUntil runners' deadline done? rounds) := by
  induction rounds with
  | zero => exact alike_giveUp
  | succ rounds ih =>
    refine alike_then blind_serveReceivers fun _ => alike_then hdone fun done => ?_
    cases done with
    | some a => exact alike_pure rfl
    | none =>
      refine alike_bind (alike_pumps h) fun entries entries' hentries => ?_
      have hfirst := firstPump?_of_due hentries fun p => p.isDueBefore deadline
      generalize firstPump? (entries.filter fun entry => entry.2.isDueBefore deadline) = first,
        firstPump? (entries'.filter fun entry => entry.2.isDueBefore deadline) = first' at hfirst
      cases hfirst with
      | none => exact alike_then (blind_modify fun _ => rfl) fun _ => alike_pure rfl
      | some hentry =>
        -- The clock goes to the first pump that is due, and all go on from there.
        cases hentry
        refine alike_then (blind_modify fun _ => rfl) fun _ => ?_
        refine alike_then (blind_look fun _ => rfl) fun now => ?_
        refine alike_then (blind_look fun _ => rfl) fun patience => ?_
        exact alike_then (alike_goOn h now patience) fun _ => ih

/-- A number of milliseconds passes alike. -/
theorem alike_elapse (h : List.Forall₂ Runner.Alike runners runners') (ms : Nat) :
    (elapse runners ms).Alike (· = ·) (elapse runners' ms) := by
  refine alike_then (blind_look fun _ => rfl) fun now => ?_
  refine alike_then (blind_look fun _ => rfl) fun patience => ?_
  exact alike_then (alike_passUntil h (now + ms) (alike_pure rfl) patience) fun _ => alike_pure rfl

/-- A message is waited for alike. -/
theorem alike_receiveWithin (h : List.Forall₂ Runner.Alike runners runners') (channel : LiveRef)
    (ms : Nat) :
    (receiveWithin runners channel ms).Alike (· = ·) (receiveWithin runners' channel ms) := by
  refine alike_then (blind_withMailbox channel _) fun taken => ?_
  cases taken with
  | some m => exact alike_pure rfl
  | none =>
    cases ms with
    | zero => exact alike_pure rfl
    | succ ms =>
      refine alike_then Runner.blind_nextTurn fun ticket => ?_
      refine alike_then (blind_withMailbox channel _) fun _ => ?_
      refine alike_then (blind_look fun _ => rfl) fun now => ?_
      refine alike_then (blind_look fun _ => rfl) fun patience => ?_
      refine alike_then (alike_passUntil h _ (blind_withMailbox channel _) patience) fun _ => ?_
      exact alike_then (blind_withMailbox channel _) fun _ => alike_pure rfl

end Time

namespace Runner

variable {r r' : Runner} {runners runners' : List Runner}

/-! ## Requests, starting and stopping -/

/-- The report of a failure has nothing to do with traces. -/
theorem blind_report (r : Runner) (failure : Failure) : (r.report failure).Blind := by
  unfold report
  cases r.flow.gatewaySpec.errorChannel with
  | none => exact alike_throw failure
  | some ref =>
    refine alike_then (blind_log _) fun _ => alike_then (blind_resolve r ref) fun live => ?_
    exact alike_then (blind_newMessage _) fun m =>
      alike_then (blind_send live m) fun _ => alike_pure rfl

/-- A request goes alike. -/
theorem alike_request (hrunners : List.Forall₂ Runner.Alike runners runners') (h : r.Alike r')
    (payload : Payload) :
    (request runners r payload).Alike (· = ·) (request runners' r' payload) := by
  have hsend := @alike_send _ r r' h
  cases h
  refine alike_then (blind_state r) fun state => alike_then (blind_update r _) fun _ => ?_
  refine alike_then (blind_openChannel _) fun queue => ?_
  refine alike_then (blind_newMessage payload) fun m => ?_
  refine alike_then (alike_attempt (hsend _)) fun result => ?_
  cases result with
  | ok => exact alike_receiveWithin hrunners queue _
  | error failure => exact blind_report r failure

/-- Starting asks the source and no stage. -/
theorem blind_start (hsource : r.flow.source.Blind) : r.start.Blind := by
  have hbegun : (do r.update fun state => { state with running := true }
                    Run.log (.started r.flow.id r.flow.source.describe) : Run Unit).Blind :=
    alike_then (blind_update r _) fun _ => blind_log _
  refine alike_then (blind_state r) fun state => ?_
  cases state.stopped with
  | true => exact alike_throw_bind _ _ _
  | false =>
    cases state.running with
    | true => exact alike_throw_bind _ _ _
    | false =>
      cases hkind : r.flow.source with
      | polling receive adapter =>
        rw [hkind] at hbegun
        exact alike_then (blind_begin r _) fun _ => hbegun
      | publisher counter feed =>
        rw [hkind] at hbegun
        have htaken : (Source.publisher counter feed).takePublisher.Blind :=
          alike_then (blind_count counter) fun _ => alike_pure rfl
        refine alike_then htaken fun taken => ?_
        cases taken with
        | some feed => exact alike_then (blind_begin r _) fun _ => hbegun
        | none => exact alike_throw_bind _ _ _
      | producer name subscribe =>
        rw [hkind] at hbegun hsource
        exact alike_then hsource fun feed => alike_then (blind_begin r _) fun _ => hbegun
      | _ =>
        rw [hkind] at hbegun
        exact hbegun

/-- The pump of a runner that is to stop is waited for alike. -/
theorem alike_outlast (hrunners : List.Forall₂ Runner.Alike runners runners') (h : r.Alike r') :
    (outlast runners r).Alike (· = ·) (outlast runners' r') := by
  refine alike_then (blind_look fun _ => rfl) fun patience => ?_
  refine alike_then (alike_windDown h patience) fun _ => ?_
  refine alike_then (blind_look fun _ => rfl) fun now => ?_
  exact alike_then (blind_look fun _ => rfl) fun patience => alike_goOn hrunners now patience

/-- A runner stops alike. -/
theorem alike_stop (hrunners : List.Forall₂ Runner.Alike runners runners') (h : r.Alike r') :
    (stop runners r).Alike (· = ·) (stop runners' r') := by
  have houtlast := alike_outlast hrunners h
  cases h with
  | @mk stages hsource =>
    have hstopped : (do r.update fun state => { state with running := false }
                        Run.log (.stopped r.flow.id) : Run Unit).Blind :=
      alike_then (blind_update r _) fun _ => blind_log _
    refine alike_then (blind_state r) fun state => ?_
    refine alike_then (blind_update r _) fun _ => ?_
    cases state.pump with
    | none => exact hstopped
    | some p => exact alike_then houtlast fun _ => hstopped

/-! ## Creating -/

/-- A queue is opened whatever was traced. -/
theorem blind_queue (channels : ChannelRegistry) (name : String) :
    (channels.queue name).Blind := by
  refine alike_then (blind_openChannel _) fun channel => ?_
  cases channels.register channel with
  | ok channels => exact alike_pure rfl
  | error failure => exact alike_throw failure

/-- Runners for flows that differ in their stages only. -/
theorem alike_create {flow : Flow} {stages : List FlowStage} (hsource : flow.source.Blind)
    (h : List.Forall₂ FlowStage.Alike flow.stages stages) (channels : ChannelRegistry) :
    (create flow channels).Alike Runner.Alike (create (flow.withStages stages) channels) := by
  have hsame : ∀ slot channels output, (pure ⟨slot, flow, channels, output⟩ : Run Runner).Alike
      Runner.Alike (pure ⟨slot, flow.withStages stages, channels, output⟩) :=
    fun slot channels output => alike_pure (.mk (r := ⟨slot, flow, channels, output⟩) hsource h)
  refine alike_bind (blind_look fun _ => rfl) fun slot _ hslot => ?_
  subst hslot
  refine alike_bind (blind_modify fun _ => rfl) fun _ _ _ => ?_
  -- A queue is opened for an output that no stage consumes, which is the same for both flows.
  have hempty : ∀ name, ((flow.withStages stages).consumers name).isEmpty =
      (flow.consumers name).isEmpty := fun name =>
    (isEmpty_of_forall₂ (alike_consumers h name)).symm
  rw [show (flow.withStages stages).output = flow.output from rfl]
  have hopened : ∀ ref : ChannelRef,
      (if !(flow.consumers ref.name).isEmpty || channels.contains ref.name then
          pure ⟨slot, flow, channels, none⟩
        else do
          let opened ← channels.queue ref.name
          return ⟨slot, flow, opened.2, some opened.1⟩ : Run Runner).Alike Runner.Alike
        (if !((flow.withStages stages).consumers ref.name).isEmpty || channels.contains ref.name
          then pure ⟨slot, flow.withStages stages, channels, none⟩
          else do
            let opened ← channels.queue ref.name
            return ⟨slot, flow.withStages stages, opened.2, some opened.1⟩) := by
    intro ref
    rw [hempty]
    split
    · exact hsame slot channels none
    · refine alike_bind (blind_queue channels ref.name) fun opened _ hopened => ?_
      subst hopened
      exact hsame slot opened.2 (some opened.1)
  cases flow.output with
  | none => exact hsame slot channels none
  | some ref =>
    cases ref with
    | live channel => exact hsame slot channels none
    | named name => exact hopened (.named name)
    | anonymous name => exact hopened (.anonymous name)

end Runner

end MessageFlow
