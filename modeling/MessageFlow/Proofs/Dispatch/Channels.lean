import MessageFlow.Runner

/-!
# Live channels

What a reference stands for: a live channel stands for itself, anything else for what is registered
under its name. Messages go to the end of an open queue (`exec_send`). Whether a channel takes
messages was settled when it was opened, and sending changes nothing about that (`gates`), so a
message is taken or refused as it would have been at any time (`exec_send_accepts`).
-/

namespace MessageFlow

/-! ## References -/

/-- Whether the reference is a live channel itself. -/
def ChannelRef.isLive : ChannelRef → Bool
  | live _ => true
  | _ => false

/-- The live channel that a reference is, if it is one. -/
def ChannelRef.asLive : ChannelRef → Option LiveRef
  | live channel => some channel
  | _ => none

/-- What has no live channel with it is not live. -/
theorem isLive_of_asLive {ref : ChannelRef} (h : ref.asLive = none) : ref.isLive = false := by
  cases ref with
  | live channel => cases h
  | named name => rfl
  | anonymous name => rfl

/-- What is not live is found under its name. -/
theorem resolve_eq_get {registry : ChannelRegistry} {ref : ChannelRef}
    (h : ref.isLive = false) : registry.resolve ref = registry.get ref.name := by
  cases ref with
  | live queue => cases h
  | named name => rfl
  | anonymous name => rfl

/-- A live channel stands for itself. -/
theorem resolve_of_asLive {ref : ChannelRef} {channel : LiveRef} (h : ref.asLive = some channel)
    (registry : ChannelRegistry) : registry.resolve ref = some channel := by
  cases ref <;> cases h
  rfl

/-- References of one name stand for one channel if they are live alike. -/
theorem resolve_congr {a b : ChannelRef} (hname : a.name = b.name) (hlive : a.asLive = b.asLive)
    (registry : ChannelRegistry) : registry.resolve a = registry.resolve b := by
  cases ha : a.asLive with
  | some channel => rw [resolve_of_asLive ha, resolve_of_asLive (hlive ▸ ha)]
  | none =>
    rw [resolve_eq_get (isLive_of_asLive ha), resolve_eq_get (isLive_of_asLive (hlive ▸ ha)), hname]

/-- Without a registry only what is live is found. -/
theorem resolve_empty (ref : ChannelRef) : ChannelRegistry.empty.resolve ref = ref.asLive := by
  cases ref <;> rfl

/-! ## Queues -/

variable [PayloadTypes]

/-- Whether a channel takes every message. -/
def LiveRef.IsOpen (queue : LiveRef) (w : World) : Prop :=
  ∃ live, w.channels[queue.key]? = some live ∧ live.takes = fun _ => true

/-- The live channels with messages at the end of a queue. -/
def World.posted (w : World) (queue : LiveRef) (ms : List Message) : List LiveChannel :=
  w.channels.modify queue.key fun live =>
    { live with box := { live.box with queued := live.box.queued ++ ms } }

/-- The world with a message sent to a queue. -/
def World.sent (w : World) (queue : LiveRef) (m : Message) : World :=
  { w with
    journal := w.journal.push (.logged (.queued queue.name m.id))
    channels := w.posted queue [m] }

/-- What the channels take. -/
def World.gates (w : World) : List (DataType → Bool) :=
  w.channels.map (·.takes)

/-- Whether a live channel takes payloads of a type. -/
def LiveRef.accepts (live : LiveRef) (w : World) (type : DataType) : Except Failure Unit :=
  if (w.channels[live.key]?).any fun channel => !channel.takes type then
    .error (.channelClosed live.name)
  else .ok ()

section Queues

variable {queue live : LiveRef} {w v : World} {ms : List Message}

/-- The same channels take the same messages. -/
theorem gates_of_channels (h : v.channels = w.channels) : v.gates = w.gates := by
  unfold World.gates
  rw [h]

/-- Mail makes no difference to what channels take. -/
theorem gates_of_posted (h : v.channels = w.posted queue ms) : v.gates = w.gates := by
  apply List.ext_getElem?
  intro place
  simp only [World.gates, h, World.posted, List.getElem?_map, List.getElem?_modify]
  by_cases hplace : queue.key = place
  · cases w.channels[place]? <;> simp [hplace]
  · simp [hplace]

/-- A queue that is open is there. -/
theorem lt_of_isOpen (h : queue.IsOpen w) : queue.key < w.channels.length := by
  obtain ⟨channel, hchannel, -⟩ := h
  exact (List.getElem?_eq_some_iff.1 hchannel).1

/-- A queue is open if nothing is refused at its place. -/
theorem isOpen_iff : queue.IsOpen w ↔ w.gates[queue.key]? = some fun _ => true := by
  rw [World.gates, List.getElem?_map, Option.map_eq_some_iff]
  rfl

/-- A queue remains open while channels take what they took. -/
theorem isOpen_of_gates (h : queue.IsOpen w) (hgates : v.gates = w.gates) : queue.IsOpen v := by
  rw [isOpen_iff, hgates]
  exact isOpen_iff.1 h

theorem posted_nil (w : World) (queue : LiveRef) : w.posted queue [] = w.channels := by
  have hself : (fun live : LiveChannel =>
      { live with box := { live.box with queued := live.box.queued ++ [] } }) = id := by
    funext live
    simp
  rw [World.posted, hself, List.modify_id]

/-- Mail comes behind mail. -/
theorem posted_append (hchannels : v.channels = w.posted queue ms) (later : List Message) :
    v.posted queue later = w.posted queue (ms ++ later) := by
  unfold World.posted
  rw [hchannels, World.posted, List.modify_modify_eq]
  simp [Function.comp_def]

theorem posted_congr (hchannels : v.channels = w.channels) (queue : LiveRef)
    (ms : List Message) : v.posted queue ms = w.posted queue ms := by
  unfold World.posted
  rw [hchannels]

/-- Sending a message does nothing but add it to the queue, unless it is refused. -/
theorem exec_send_eq (live : LiveRef) (m : Message) (w : World) :
    (Run.send live m).exec w =
      some (live.accepts w m.payload.type,
        if (live.accepts w m.payload.type).isOk then w.sent live m else w) := by
  cases hlive : w.channels[live.key]? with
  | none =>
    have hposted : w.posted live [m] = w.channels :=
      List.modify_eq_self (List.getElem?_eq_none_iff.1 hlive)
    simp [Run.send, Run.withMailbox, LiveRef.accepts, World.sent, hlive, hposted, Except.isOk,
      Except.toBool]
  | some channel =>
    have hset : w.channels.set live.key { channel with box := channel.box.post m } =
        w.posted live [m] := by
      have hlt := (List.getElem?_eq_some_iff.1 hlive).1
      apply List.ext_getElem?
      intro place
      rw [World.posted, List.getElem?_modify, List.getElem?_set]
      by_cases hplace : live.key = place
      · subst hplace
        rw [hlive, if_pos rfl, if_pos hlt]
        simp [Mailbox.post]
      · simp [hplace]
    cases htakes : channel.takes m.payload.type with
    | false =>
      simp [Run.send, LiveRef.accepts, hlive, htakes, Except.isOk, Except.toBool]
    | true =>
      simp [Run.send, Run.withMailbox, LiveRef.accepts, World.sent, hlive, htakes, hset,
        Except.isOk, Except.toBool]

/-- An open queue accepts whatever comes. -/
theorem accepts_of_isOpen (h : live.IsOpen w) (type : DataType) : live.accepts w type = .ok () := by
  obtain ⟨channel, hchannel, hopen⟩ := h
  simp [LiveRef.accepts, hchannel, hopen]

/-- A message that is sent to an open queue is at its end. -/
theorem exec_send (h : queue.IsOpen w) (m : Message) :
    ∃ v, (Run.send queue m).exec w = some (.ok (), v) ∧ v.channels = w.posted queue [m] := by
  refine ⟨w.sent queue m, ?_, rfl⟩
  rw [exec_send_eq, accepts_of_isOpen h]
  rfl

/-- Mail for one queue leaves the others alone. -/
theorem posted_getElem? {key : Nat} (h : key ≠ queue.key) (ms : List Message) :
    (w.posted queue ms)[key]? = w.channels[key]? :=
  List.getElem?_modify_ne _ w.channels h.symm

/-- What a channel accepts depends on what this channel takes. -/
theorem accepts_congr (h : v.gates[live.key]? = w.gates[live.key]?) :
    live.accepts v = live.accepts w := by
  funext type
  have hany : ∀ u : World, ((u.channels[live.key]?).any fun channel => !channel.takes type) =
      (u.gates[live.key]?).any fun takes => !takes type := by
    intro u
    rw [World.gates, List.getElem?_map, Option.any_map]
  unfold LiveRef.accepts
  rw [hany, hany, h]

/-- A reference is accepted alike while channels take what they took. -/
theorem accepts_of_gates (h : v.gates = w.gates) : live.accepts v = live.accepts w :=
  accepts_congr (by rw [h])

/-- A channel takes a message or refuses it, as it would have at any time. -/
theorem exec_send_accepts (live : LiveRef) (m : Message) (w : World) :
    ∃ v, (Run.send live m).exec w = some (live.accepts w m.payload.type, v) ∧
      v.gates = w.gates := by
  refine ⟨_, exec_send_eq live m w, ?_⟩
  split
  · exact gates_of_posted rfl
  · rfl

/-- Two live channels that take the same messages in every world are one. -/
theorem LiveRef.eq_of_accepts {a b : LiveRef} {type : DataType}
    (h : ∀ w, a.accepts w type = b.accepts w type) : a = b := by
  -- In this world `a` is the only channel that is closed.
  let closed : LiveChannel := ⟨"", fun _ => false, .empty⟩
  let w : World :=
    { World.new 0 with channels := List.replicate a.key (.queue "") ++ [closed] }
  have ha : a.accepts w type = .error (.channelClosed a.name) := by simp [accepts, w, closed]
  rw [h w, accepts] at ha
  by_cases hclosed : ((w.channels[b.key]?).any fun channel => !channel.takes type) = true
  · rw [if_pos hclosed] at ha
    have hname : b.name = a.name := by simpa using ha
    have hkey : b.key = a.key := by
      rcases Nat.lt_trichotomy b.key a.key with hlt | heq | hgt
      · simp [w, List.getElem?_append_left, hlt, LiveChannel.queue] at hclosed
      · exact heq
      · have hnone : w.channels[b.key]? = none := by
          rw [List.getElem?_eq_none_iff]
          simpa [w, Nat.succ_le_iff] using hgt
        simp [hnone] at hclosed
    cases a
    cases b
    simp_all
  · rw [if_neg hclosed] at ha
    cases ha

end Queues

/-! ## Runners -/

/-- A queue that is opened under a free name is registered, and open. -/
theorem exec_queue {registry : ChannelRegistry} {name : String} (h : registry.get name = none)
    (w : World) :
    ∃ queue registry' v, (registry.queue name).exec w = some (.ok (queue, registry'), v) ∧
      registry'.get name = some queue ∧ queue.IsOpen v := by
  have hfree : registry.contains name = false := by simp [ChannelRegistry.contains, h]
  refine ⟨⟨w.channels.length, name⟩, ⟨registry.entries ++ [(name, ⟨w.channels.length, name⟩)]⟩,
    { w with channels := w.channels ++ [.queue name] }, ?_, ?_, ?_⟩
  · simp [ChannelRegistry.queue, Run.openQueue, Run.openChannel, ChannelRegistry.register, hfree]
  · have hnone : registry.entries.lookup name = none := h
    simp [ChannelRegistry.get, List.lookup_append, hnone]
  · exact ⟨.queue name, by simp, rfl⟩

/-- A queue is opened for an output that is not live and that nobody takes, unless there is one. -/
theorem create_of_free {flow : Flow} {out : ChannelRef} (hout : flow.output = some out)
    (hlive : out.isLive = false) (hfree : flow.consumers out.name = [])
    (registry : ChannelRegistry) (w : World) :
    (Runner.create flow registry).exec w =
      Run.exec (if registry.contains out.name then
          return ⟨w.runners.length, flow, registry, none⟩
        else do
          let opened ← registry.queue out.name
          return ⟨w.runners.length, flow, opened.2, some opened.1⟩)
        { w with runners := w.runners ++ [.new] } := by
  simp only [Runner.create, Run.exec_bind, Run.exec_look, Run.exec_modify, hout]
  cases out with
  | live queue => cases hlive
  | named name => simp [hfree]
  | anonymous name => simp [hfree]

end MessageFlow
