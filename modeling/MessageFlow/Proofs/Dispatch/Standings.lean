import MessageFlow.Proofs.Dispatch.Twins

/-!
# Where requests stand

A request is dispatched, and receives its reply when it likes. In between it stands at a queue of
its own, which nobody else's mail gets to: what is mailed goes to channels that were there before
all of the requests, or to the queue of the request that is being dispatched (`Spares`). So it finds
in its queue what it would have found had it been alone (`Stands`), as soon as it was dispatched
(`exec_ask_stands`).
-/

namespace MessageFlow

variable [PayloadTypes]

/-- How far a request is that was dispatched: it failed, its reply is still to be received from its
queue, or it was answered. -/
abbrev Standing := Except Failure (LiveRef ⊕ Option Message)

namespace Runner

/-- Dispatches a request. If that fails the failure is reported, and there is nothing to receive. -/
def ask (r : Runner) (payload : Payload) : Run (LiveRef ⊕ Option Message) := do
  let state ← r.state
  r.update fun state => { state with requests := state.requests + 1 }
  let queue ← Run.openQueue (r.flow.id ++ ".reply#" ++ toString state.requests)
  let m ← Run.newMessage payload
  match ← Run.attempt (r.send (m.withReplyChannel (.live queue))) with
  | .ok () => return .inl queue
  | .error failure => return .inr (← r.report failure)

/-- What is left of a request. -/
def settle (runners : List Runner) (r : Runner) : Standing → Run (Option Message)
  | .error failure => throw failure
  | .ok (.inl queue) => receiveWithin runners queue r.flow.gatewaySpec.replyTimeout.timer
  | .ok (.inr answer) => return answer

/-- A message came of a request with a payload: stage by stage, from what the request put in. -/
def Derived (r : Runner) (payload : Payload) (reply : Message) : Prop :=
  ∃ w hops p, r.Trail ⟨r.flow.input, (r.inquire payload w).message⟩ hops p ∧ p.message = reply

/-- A request with a payload ends as it would alone, and a reply to it came of this payload. -/
structure Answers (r : Runner) (payload : Payload)
    (result alone : Except Failure (Option Message)) : Prop where
  agree : Agree (fun a b => a.map Message.guise = b.map Message.guise) result alone
  derived : ∀ reply, result = .ok (some reply) → r.Derived payload reply

/-- How far a request is that would end with a certain result if it were alone: it has an answer, or
its queue holds one. The queue was opened after the channels that were there at first. -/
inductive Stands (r : Runner) (first : Nat) (v : World) (payload : Payload)
    (alone : Except Failure (Option Message)) : Standing → Prop where
  | answered (result : Except Failure (Option Message)) : r.Answers payload result alone →
      Stands r first v payload alone (result.map .inr)
  | waiting (queue : LiveRef) (name : String) (ms : List Message) : first ≤ queue.key →
      v.channels[queue.key]? = some ⟨name, fun _ => true, ⟨ms, [], []⟩⟩ →
      (∀ m ∈ ms, r.Derived payload m) → r.Answers payload (.ok ms.head?) alone →
      Stands r first v payload alone (.ok (.inl queue))

end Runner

/-- A request that was answered has nothing to receive. -/
theorem answered_ne_waiting (result : Except Failure (Option Message)) (queue : LiveRef) :
    result.map .inr ≠ (.ok (.inl queue) : Standing) := by
  cases result with
  | ok => exact fun heq => Sum.inr_ne_inl (Except.ok.inj heq)
  | error => exact nofun

/-- What a step leaves alone: channels at which nobody waits, and what lets requests wait. -/
structure World.Spares (spared : Nat → Prop) (w v : World) : Prop where
  channels : ∀ (place : Nat) (live : LiveChannel), spared place →
    w.channels[place]? = some live → live.box.waiting = [] → v.channels[place]? = some live
  gates : w.gates <+: v.gates
  quiet : ∀ runners, w.Quiet runners → v.Quiet runners
  patience : v.patience = w.patience

section Spares

variable {w v u : World} {spared : Nat → Prop}

/-- Channels that were there are there later on. -/
theorem length_le_of_gates (h : w.gates <+: v.gates) : w.channels.length ≤ v.channels.length := by
  simpa [World.gates] using h.length_le

/-- Whoever was quiet remains so while nobody does anything. -/
theorem quiet_of_runners (h : v.runners = w.runners) (runners : List Runner)
    (hquiet : w.Quiet runners) : v.Quiet runners := by
  intro r hr state hstate
  rw [h] at hstate
  exact hquiet r hr state hstate

theorem spares_refl (spared : Nat → Prop) (w : World) : w.Spares spared w :=
  ⟨fun _ _ _ h _ => h, List.prefix_rfl, fun _ h => h, rfl⟩

/-- What two steps spare both together spare. -/
theorem spares_trans (h : w.Spares spared u) (h' : u.Spares spared v) : w.Spares spared v where
  channels place live hplace hlive hwaiting :=
    h'.channels place live hplace (h.channels place live hplace hlive hwaiting) hwaiting
  gates := h.gates.trans h'.gates
  quiet runners hquiet := h'.quiet runners (h.quiet runners hquiet)
  patience := h'.patience.trans h.patience

/-- What spares many channels spares fewer. -/
theorem spares_mono {spared' : Nat → Prop} (h : w.Spares spared v)
    (hspared : ∀ place, spared' place → spared place) : w.Spares spared' v :=
  { h with channels := fun place live hplace => h.channels place live (hspared place hplace) }

/-- Where no channel changes and no runner does anything, all are spared. -/
theorem spares_of_steady (hchannels : v.channels = w.channels) (hsteady : w.Steady v) :
    w.Spares spared v where
  channels place live _ hlive _ := by rw [hchannels, hlive]
  gates := gates_of_channels hchannels ▸ List.prefix_rfl
  quiet := quiet_of_runners hsteady.1
  patience := hsteady.2

/-- A message for one channel is no other channel's business. -/
theorem spares_sent (live : LiveRef) (m : Message) (w : World) :
    w.Spares (· ≠ live.key) (w.sent live m) where
  channels place channel hplace hchannel _ := (posted_getElem? hplace [m]).trans hchannel
  gates := by
    have hgates : (w.sent live m).gates = w.gates := gates_of_posted rfl
    exact hgates ▸ List.prefix_rfl
  quiet := quiet_of_runners rfl
  patience := rfl

/-- Mail spares the channels that it does not go to. -/
theorem spares_of_mailed {r : Runner} {ds : List Parcel} (h : r.Mailed ds w v)
    (hmail : ∀ place, spared place → r.mail place ds = []) : w.Spares spared v where
  channels place live hplace hlive _ := by
    rw [h.channels, hlive, hmail place hplace]
    simp
  gates := h.gates ▸ List.prefix_rfl
  quiet := quiet_of_runners h.steady.1
  patience := h.steady.2

/-- Whoever idles spares every channel. -/
theorem spares_of_idled (h : w.Idled v) : w.Spares spared v where
  channels place live _ hlive hwaiting := h.channels place live hlive hwaiting
  gates := h.gates ▸ List.prefix_rfl
  quiet := quiet_of_runners h.runners
  patience := h.patience

end Spares

namespace Runner

variable {r : Runner} {runners : List Runner} {payload : Payload} {w w' v u : World}
  {alone : Except Failure (Option Message)} {standing : Standing} {first : Nat}

/-! ## Requests in two steps -/

/-- Asking is a dispatch, and a report if that fails. -/
theorem exec_ask (r : Runner) (payload : Payload) (w : World) :
    (r.ask payload).exec w =
      match (r.send (r.inquire payload w).message).exec (r.inquire payload w).world with
      | some (.ok (), v) => some (.ok (.inl (r.inquire payload w).queue), v)
      | some (.error failure, v) =>
        ((r.report failure).exec v).map fun ended => (ended.1.map .inr, ended.2)
      | none => none := by
  unfold ask
  simp only [Run.exec_bind, Runner.state, Runner.update, Run.openQueue, Run.openChannel,
    LiveChannel.queue_name, Run.newMessage, Run.freshId, Run.exec_look, Run.exec_modify,
    Run.exec_get, Run.exec_set, Run.exec_pure, Run.exec_attempt]
  unfold inquire
  rcases (r.send _).exec _ with _ | ⟨failure | ⟨⟨⟩⟩, v⟩
  · rfl
  · simp only [Option.map_some, Run.exec_bind]
    rcases (r.report failure).exec v with _ | ⟨_ | answer, v'⟩ <;> rfl
  · rfl

/-- A request is dispatched, and then it is settled. -/
theorem request_eq (runners : List Runner) (r : Runner) (payload : Payload) :
    Runner.request runners r payload = Run.attempt (r.ask payload) >>= r.settle runners := by
  apply Run.ext_exec
  intro w
  rw [exec_request, Run.exec_bind, Run.exec_attempt, exec_ask]
  rcases (r.send _).exec _ with _ | ⟨failure | ⟨⟨⟩⟩, v⟩
  · rfl
  · dsimp only
    rcases (r.report failure).exec v with _ | ⟨_ | answer, v'⟩ <;> rfl
  · rfl

/-- What a report of a failure comes to. -/
def reported (r : Runner) (failure : Failure) (w : World) : Except Failure (Option Message) :=
  match r.flow.gatewaySpec.errorChannel with
  | none => .error failure
  | some ref =>
    match r.channels.resolve ref with
    | none => .error (.destination ref.name)
    | some live => (live.accepts w .failure).map fun _ => none

/-- The error channel of a grounded runner is there. -/
theorem knows_errorChannel (hu : r.Grounded u) {ref : ChannelRef}
    (href : r.flow.gatewaySpec.errorChannel = some ref) : r.Knows u ref := by
  refine knows_of_live hu fun live hlive => hu.mentioned live (.inr (.inr ?_))
  rw [href, hlive]

/-- The input of a grounded runner is there. -/
theorem knows_input (hu : r.Grounded u) : r.Knows u r.flow.input :=
  knows_of_live hu fun live hlive => hu.mentioned live (.inl hlive)

/-- A report ends, and at most a channel that was there gets the failure. -/
theorem exec_report (hu : r.Grounded u) (failure : Failure) (w : World) :
    ∃ v, (r.report failure).exec w = some (r.reported failure w, v) ∧
      w.Spares (u.channels.length ≤ ·) v := by
  unfold report reported
  cases herror : r.flow.gatewaySpec.errorChannel with
  | none => exact ⟨w, rfl, spares_refl _ w⟩
  | some ref =>
    cases hlive : r.channels.resolve ref with
    | none =>
      refine ⟨{ w with journal := w.journal.push (.logged (.requestFailed r.flow.id failure)) },
        by simp [Runner.resolve, hlive], spares_of_steady rfl ⟨rfl, rfl⟩⟩
    | some live =>
      let m : Message := ⟨.fresh w.issued, .of .failure failure, .at w.clock⟩
      let told : World :=
        { w with
          journal := w.journal.push (.logged (.requestFailed r.flow.id failure))
          issued := w.issued + 1 }
      have htold : w.Spares (u.channels.length ≤ ·) told := spares_of_steady rfl ⟨rfl, rfl⟩
      have hexec : Run.exec (do
          Run.log (.requestFailed r.flow.id failure)
          let live ← r.resolve ref
          Run.send live (← Run.newMessage (.of .failure failure))
          return none : Run (Option Message)) w =
            (Run.send live m >>= fun _ => pure none).exec told := by
        simp [Runner.resolve, hlive, Run.newMessage, Run.freshId, told, m]
      have hsend : (Run.send live m).exec told = some (live.accepts w .failure,
          if (live.accepts w .failure).isOk then told.sent live m else told) :=
        exec_send_eq live m told
      dsimp only
      rw [hexec, Run.exec_bind, hsend, hlive]
      dsimp only
      cases live.accepts w .failure with
      | error failure' => exact ⟨told, rfl, htold⟩
      | ok =>
        refine ⟨told.sent live m, rfl, ?_⟩
        refine spares_trans htold (spares_mono (spares_sent live m told) ?_)
        intro place hplace
        have hthere : live.key < u.channels.length := knows_errorChannel hu herror live hlive
        omega

/-- Failures that look alike are reported alike. -/
theorem agree_reported (hu : r.Grounded u) {failure failure' : Failure}
    (hface : failure.face = failure'.face) (hw : u.gates <+: w.gates) (hw' : u.gates <+: w'.gates) :
    Agree (fun a b => a = none ∧ b = none) (r.reported failure w) (r.reported failure' w') := by
  unfold reported
  cases herror : r.flow.gatewaySpec.errorChannel with
  | none => exact .error hface
  | some ref =>
    dsimp only
    cases hlive : r.channels.resolve ref with
    | none => exact .error rfl
    | some live =>
      have hthere := knows_errorChannel hu herror live hlive
      dsimp only
      rw [accepts_of_later hw hthere, accepts_of_later hw' hthere]
      cases live.accepts u .failure with
      | ok => exact .ok ⟨rfl, rfl⟩
      | error failure => exact .error rfl

/-- Where the failure of a request is reported there is no reply. -/
theorem answers_reported (hu : r.Grounded u) {failure failure' : Failure}
    (hface : failure.face = failure'.face) (hw : u.gates <+: w.gates) (hw' : u.gates <+: w'.gates) :
    r.Answers payload (r.reported failure w) (r.reported failure' w') := by
  have hagree := agree_reported hu hface hw hw'
  refine ⟨agree_mono hagree fun a b hnone => ?_, fun reply hreply => ?_⟩
  · rw [hnone.1, hnone.2]
  · rw [hreply] at hagree
    generalize r.reported failure' w' = told at hagree
    cases hagree with
    | ok hnone => cases hnone.1

/-! ## Receiving -/

/-- Whoever receives from a queue of his own has the first message in it, if there is one. -/
theorem exec_receive {queue : LiveRef} {name : String} {ms : List Message}
    (hlive : w.channels[queue.key]? = some ⟨name, fun _ => true, ⟨ms, [], []⟩⟩)
    (hquiet : w.Quiet runners) (hpatience : 0 < w.patience) (time : Nat) :
    ∃ v, (receiveWithin runners queue time).exec w = some (.ok ms.head?, v) ∧
      w.Spares (· ≠ queue.key) v := by
  cases ms with
  | nil =>
    obtain ⟨v, hexec, hidled⟩ := exec_receiveWithin_none hlive rfl hquiet hpatience
    exact ⟨v, hexec, spares_of_idled hidled⟩
  | cons m rest =>
    refine ⟨_, exec_receiveWithin_some hlive rfl rfl, ?_, ?_, quiet_of_runners rfl, rfl⟩
    · intro place live hplace hother _
      rw [List.getElem?_set_ne (fun he => hplace he.symm), hother]
    · have hgates : ∀ box : Mailbox,
          (w.channels.set queue.key ⟨name, fun _ => true, box⟩).map (·.takes) = w.gates := by
        intro box
        apply List.ext_getElem?
        intro place
        rw [World.gates, List.getElem?_map, List.getElem?_map, List.getElem?_set]
        split
        · next hplace =>
          have hlt := (List.getElem?_eq_some_iff.1 hlive).1
          rw [← hplace, hlive, if_pos hlt]
          rfl
        · rfl
      exact (hgates _).symm ▸ List.prefix_rfl

/-- What is left of a request ends as it would alone, and touches no queue but its own. -/
theorem exec_settle (h : r.Stands first w payload alone standing) (hquiet : w.Quiet runners)
    (hpatience : 0 < w.patience) :
    ∃ result v, (r.settle runners standing).exec w = some (result, v) ∧
      r.Answers payload result alone ∧
      w.Spares
        (fun place => ∀ queue : LiveRef, standing = .ok (.inl queue) → place ≠ queue.key) v := by
  cases h with
  | answered result hanswers =>
    refine ⟨result, w, ?_, hanswers, spares_refl _ w⟩
    cases result <;> rfl
  | waiting queue name ms _ hlive _ hanswers =>
    obtain ⟨v, hexec, hspares⟩ := exec_receive hlive hquiet hpatience _
    exact ⟨_, v, hexec, hanswers, spares_mono hspares fun place hplace => hplace queue rfl⟩

/-- A request that is spared stands where it stood. -/
theorem stands_of_spares {spared : Nat → Prop} (h : r.Stands first w payload alone standing)
    (hspares : w.Spares spared v)
    (hspared : ∀ queue : LiveRef, standing = .ok (.inl queue) → spared queue.key) :
    r.Stands first v payload alone standing := by
  cases h with
  | answered result hanswers => exact .answered result hanswers
  | waiting queue name ms hfirst hlive hderived hanswers =>
    exact .waiting queue name ms hfirst
      (hspares.channels queue.key _ (hspared queue rfl) hlive rfl) hderived hanswers

/-! ## Dispatching -/

/-- A request opens one more channel, which refuses nothing. -/
theorem gates_inquire : (r.inquire payload w).world.gates = w.gates ++ [fun _ => true] := by
  simp [inquire, World.gates]

/-- Opening a channel spares the others. -/
theorem spares_inquire (spared : Nat → Prop) : w.Spares spared (r.inquire payload w).world where
  channels place live _ hlive _ := by
    have hlt := (List.getElem?_eq_some_iff.1 hlive).1
    simp [inquire, List.getElem?_append_left hlt, hlive]
  gates := ⟨[fun _ => true], gates_inquire.symm⟩
  quiet _ hquiet := quiet_inquire hquiet
  patience := rfl

/-- The messages of two requests with one payload show the same. -/
theorem shown_inquire :
    Parcel.shown Message.guise ⟨r.flow.input, (r.inquire payload w).message⟩ =
      Parcel.shown Message.guise ⟨r.flow.input, (r.inquire payload w').message⟩ := by
  simp [Parcel.shown, Message.guise, inquire, Message.withReplyChannel, Headers.at]

/-- The queue of a request is open. -/
theorem isOpen_inquire_queue :
    (r.inquire payload w).queue.IsOpen (r.inquire payload w).world :=
  ⟨.queue (r.inquire payload w).queue.name, by simp [inquire], rfl⟩

section Stages

variable (hstages : ∀ stage ∈ r.flow.stages, stage.Stateless)

include hstages

variable (hu : r.Grounded u)

include hu

/-- What is left in a world by the dispatch of a request: messages in its own queue, which came of
it. -/
structure Filled (r : Runner) (u : World) (payload : Payload) (w : World) (ms : List Message)
    (v : World) : Prop where
  queue : v.channels[(r.inquire payload w).queue.key]? =
    some ⟨(r.inquire payload w).queue.name, fun _ => true, ⟨ms, [], []⟩⟩
  derived : ∀ m ∈ ms, r.Derived payload m
  spares : w.Spares (u.channels.length ≤ ·) v

/-- What is mailed for a request is in its queue, as far as it is a reply. -/
theorem filled_of_mailed (hw : u.channels.length ≤ w.channels.length) {ds : List Parcel}
    (hds : ∀ d ∈ ds, ∃ hops, r.Trail ⟨r.flow.input, (r.inquire payload w).message⟩ hops d)
    (h : r.Mailed ds (r.inquire payload w).world v) :
    r.Filled u payload w ((ds.filter r.repliesAt).map Parcel.message) v := by
  let queue := (r.inquire payload w).queue
  have hkey : queue.key = w.channels.length := rfl
  have hmail : ∀ place, u.channels.length ≤ place → r.mail place ds =
      if queue.key == place then (ds.filter r.repliesAt).map Parcel.message else [] := by
    intro place hplace
    have hreply : (r.inquire payload w).message.headers.replyChannel = some (.live queue) := rfl
    exact mail_of_trails (builtIn_of_stateless hstages) hu (knows_input hu) hreply hds hplace
  refine ⟨?_, ?_, ?_⟩
  · have hopened : (r.inquire payload w).world.channels[queue.key]? =
        some (.queue queue.name) := by simp [inquire, queue]
    rw [h.channels, hopened, hmail queue.key (hkey ▸ hw)]
    simp [queue, LiveChannel.queue, Mailbox.empty]
  · intro m hm
    obtain ⟨d, hd, rfl⟩ := List.mem_map.1 hm
    obtain ⟨hops, htrail⟩ := hds d (List.mem_filter.1 hd).1
    exact ⟨w, hops, d, htrail, rfl⟩
  · -- The places of channels that were there before the request are below that of its queue.
    have hbelow : (r.inquire payload w).world.Spares
        (fun place => u.channels.length ≤ place ∧ place ≠ queue.key) v := by
      refine spares_of_mailed h fun place hplace => ?_
      rw [hmail place hplace.1]
      simp [Ne.symm hplace.2]
    have hopened : w.Spares (u.channels.length ≤ ·) (r.inquire payload w).world :=
      spares_inquire _
    refine ⟨?_, hopened.gates.trans hbelow.gates, fun runners hquiet => hbelow.quiet runners
      (hopened.quiet runners hquiet), hbelow.patience.trans hopened.patience⟩
    intro place live hplace hlive hwaiting
    have hlt := (List.getElem?_eq_some_iff.1 hlive).1
    have hne : place ≠ queue.key := by omega
    exact hbelow.channels place live ⟨hplace, hne⟩
      (hopened.channels place live hplace hlive hwaiting) hwaiting

/-- One request in two worlds. -/
theorem exec_inquire_twins (hw : u.gates <+: w.gates) (hw' : u.gates <+: w'.gates)
    {result : Except Failure Unit}
    (hexec : (r.send (r.inquire payload w).message).exec (r.inquire payload w).world =
      some (result, v)) :
    ∃ result' v' ms ms', (r.send (r.inquire payload w').message).exec (r.inquire payload w').world =
        some (result', v') ∧ Agree (fun _ _ => True) result result' ∧
      ms.map Message.guise = ms'.map Message.guise ∧ r.Filled u payload w ms v ∧
      r.Filled u payload w' ms' v' := by
  have hmatched : r.Matched ⟨r.flow.input, (r.inquire payload w).message⟩
      ⟨r.flow.input, (r.inquire payload w').message⟩ (r.inquire payload w).world
      (r.inquire payload w').world :=
    matched_of_replies hstages hu (hw.trans ⟨[fun _ => true], gates_inquire.symm⟩)
      (hw'.trans ⟨[fun _ => true], gates_inquire.symm⟩) (knows_input hu)
      (.own _ _ isOpen_inquire_queue isOpen_inquire_queue)
  obtain ⟨result', v', ds, ds', hexec', hagree, hds, hv, hv'⟩ :=
    exec_work_twins hstages (twins_start shown_inquire) hmatched hexec
  exact ⟨result', v', _, _, hexec', hagree, replies_of_twins hds,
    filled_of_mailed hstages hu (length_le_of_gates hw) hds.trails hv,
    filled_of_mailed hstages hu (length_le_of_gates hw') hds.trails' hv'⟩

/-- The dispatch of a request leaves it where it would stand alone. -/
theorem exec_ask_stands (hquiet : u.Quiet runners) (hpatience : 0 < u.patience)
    (hw : u.gates <+: w.gates) {result : Standing}
    (hexec : (r.ask payload).exec w = some (result, v)) :
    w.Spares (u.channels.length ≤ ·) v ∧
      (∀ queue : LiveRef, result = .ok (.inl queue) → queue.key = w.channels.length) ∧
      ∃ alone u', (Runner.request runners r payload).exec u = some (alone, u') ∧
        r.Stands u.channels.length v payload alone result := by
  rw [exec_ask] at hexec
  rw [exec_request]
  cases hsend : (r.send (r.inquire payload w).message).exec (r.inquire payload w).world with
  | none =>
    rw [hsend] at hexec
    cases hexec
  | some ended =>
    obtain ⟨sent, v₁⟩ := ended
    obtain ⟨sent', v', ms, ms', hsend', hagree, hms, hfilled, hfilled'⟩ :=
      exec_inquire_twins hstages hu hw List.prefix_rfl hsend
    rw [hsend] at hexec
    rw [hsend']
    cases hagree with
    | ok =>
      cases hexec
      obtain ⟨u', hreceive, -⟩ := exec_receive hfilled'.queue
        (hfilled'.spares.quiet runners hquiet) (hfilled'.spares.patience ▸ hpatience)
        r.flow.gatewaySpec.replyTimeout.timer
      refine ⟨hfilled.spares, ?_, _, u', hreceive, ?_⟩
      · intro queue hqueue
        cases hqueue
        rfl
      · refine .waiting _ _ ms (length_le_of_gates hw) hfilled.queue hfilled.derived
          ⟨.ok ?_, ?_⟩
        · rw [← List.head?_map, ← List.head?_map, hms]
        · intro reply hreply
          injection hreply with hhead
          exact hfilled.derived reply (List.mem_of_mem_head? hhead)
    | @error failure failure' hface =>
      obtain ⟨v₂, hreport, hspares⟩ := exec_report hu failure v₁
      obtain ⟨u', hreport', -⟩ := exec_report hu failure' v'
      dsimp only at hexec
      rw [hreport] at hexec
      cases hexec
      refine ⟨spares_trans hfilled.spares hspares, ?_, _, u', hreport', .answered _ ?_⟩
      · exact fun queue hqueue => absurd hqueue (answered_ne_waiting _ queue)
      · exact answers_reported hu hface (hw.trans hfilled.spares.gates) hfilled'.spares.gates

/-- A request is dispatched wherever it would end if it were alone. -/
theorem exec_ask_of_request (hw : u.gates <+: w.gates)
    {ended : Except Failure (Option Message) × World}
    (h : (Runner.request runners r payload).exec u = some ended) :
    ∃ result v, (r.ask payload).exec w = some (result, v) := by
  rw [exec_request] at h
  cases hsend : (r.send (r.inquire payload u).message).exec (r.inquire payload u).world with
  | none =>
    rw [hsend] at h
    cases h
  | some sent =>
    obtain ⟨sent, v⟩ := sent
    obtain ⟨sent', v', -, -, hsend', -⟩ := exec_inquire_twins hstages hu List.prefix_rfl hw hsend
    rw [exec_ask, hsend']
    cases sent' with
    | ok => exact ⟨_, _, rfl⟩
    | error failure =>
      obtain ⟨v'', hreport, -⟩ := exec_report hu failure v'
      dsimp only
      rw [hreport]
      exact ⟨_, _, rfl⟩

/-- A message that is sent without a reply channel of a request is no request's business, and it is
sent wherever it could be sent at first. -/
theorem exec_send_apart {m : Message}
    (hm : ∀ ref, m.headers.replyChannel = some ref → r.Knows u ref) (hw : u.gates <+: w.gates)
    (hw' : u.gates <+: w'.gates) {result : Except Failure Unit}
    (hexec : (r.send m).exec w = some (result, v)) :
    w.Spares (u.channels.length ≤ ·) v ∧ ∃ ended, (r.send m).exec w' = some ended := by
  have hmatched : r.Matched ⟨r.flow.input, m⟩ ⟨r.flow.input, m⟩ w w' :=
    matched_of_replies hstages hu hw hw' (knows_input hu) (.same _ hm)
  obtain ⟨result', v', ds, ds', hexec', -, hds, hv, -⟩ :=
    exec_work_twins hstages (twins_start rfl) hmatched hexec
  refine ⟨spares_of_mailed hv fun place hplace => ?_, _, hexec'⟩
  rw [mail_of_trails (builtIn_of_stateless hstages) hu (knows_input hu) rfl hds.trails
    hplace, if_neg]
  intro hany
  obtain ⟨live, hlive, hkey⟩ := (Option.any_eq_true _ _).1 hany
  obtain ⟨ref, href, hresolve⟩ := Option.bind_eq_some_iff.1 hlive
  have hlt := hm ref href live hresolve
  have hplace' : live.key = place := by simpa using hkey
  omega

end Stages

end Runner

end MessageFlow
