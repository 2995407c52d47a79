import MessageFlow.Proofs.Dispatch.Channels
import MessageFlow.Pump

/-!
# Waiting

Whoever waits for a message has the oldest one at once, if there is one and nobody came before
(`exec_receiveWithin_some`). Otherwise time passes and pumps go on. Where no runner has a pump
nothing comes of waiting, and no channel is changed by it (`exec_receiveWithin_none`): serving
receivers hands messages over, but what is in a channel stays the same in this order.
-/

namespace MessageFlow

theorem modify_append {α : Type} {xs : List α} {place : Nat} (h : place < xs.length) (f : α → α)
    (ys : List α) : (xs ++ ys).modify place f = xs.modify place f ++ ys := by
  induction xs generalizing place with
  | nil => simp at h
  | cons x xs ih =>
    cases place with
    | zero => rfl
    | succ place =>
      have hlt : place < xs.length := by simpa using h
      simp [ih hlt]

variable [PayloadTypes]

/-- The messages in a channel, the oldest first: those that were handed to receivers, and those that
nobody has taken. -/
def LiveChannel.contents (channel : LiveChannel) : List Message :=
  channel.box.handed.map Prod.snd ++ channel.box.queued

/-- The messages in all channels. -/
def World.contents (w : World) : List (List Message) :=
  w.channels.map LiveChannel.contents

/-- The world with the waiting receivers of every channel served. -/
def World.served (w : World) : World :=
  { w with channels := w.channels.map fun c => { c with box := c.box.settle } }

/-- Nothing goes on by itself: none of the runners has a pump. -/
def World.Quiet (w : World) (runners : List Runner) : Prop :=
  ∀ r ∈ runners, ∀ state, w.runners[r.slot]? = some state → state.pump = none

/-- Time passed, and nothing came of it. The receivers of other channels may have been served. -/
structure World.Idled (w v : World) : Prop where
  /-- A channel at which nobody waits is as it was. -/
  channels : ∀ (place : Nat) (live : LiveChannel), w.channels[place]? = some live →
    live.box.waiting = [] → v.channels[place]? = some live
  contents : v.contents = w.contents
  gates : v.gates = w.gates
  runners : v.runners = w.runners
  patience : v.patience = w.patience

theorem quiet_of_idle {w : World} (h : ∀ state ∈ w.runners, state.pump = none)
    (runners : List Runner) : w.Quiet runners :=
  fun _ _ state hstate => h state (List.mem_of_getElem? hstate)

section Contents

variable {w v : World} {queue channel : LiveRef} {live : LiveChannel} {ms : List Message}

theorem contents_of_channels (h : v.channels = w.channels) : v.contents = w.contents :=
  congrArg (List.map LiveChannel.contents) h

theorem contents_posted (w : World) (queue : LiveRef) (ms : List Message) :
    (w.posted queue ms).map LiveChannel.contents = w.contents.modify queue.key (· ++ ms) := by
  apply List.ext_getElem?
  intro place
  simp only [World.contents, World.posted, List.getElem?_map, List.getElem?_modify]
  by_cases hplace : queue.key = place
  · cases w.channels[place]? <;> simp [hplace, LiveChannel.contents]
  · simp [hplace]

/-- Serving receivers neither adds nor takes messages. -/
theorem contents_served (w : World) : w.served.contents = w.contents := by
  unfold World.contents World.served
  rw [List.map_map]
  exact List.map_congr_left fun c _ => c.box.settle_conserves

theorem exec_withMailbox {α : Type} [Inhabited α] (h : w.channels[channel.key]? = some live)
    (f : Mailbox → α × Mailbox) :
    (Run.withMailbox channel f).exec w = some (.ok (f live.box).1,
      { w with channels := w.channels.set channel.key { live with box := (f live.box).2 } }) := by
  simp [Run.withMailbox, h]

theorem exec_withMailbox_self {α : Type} [Inhabited α] (h : w.channels[channel.key]? = some live)
    {f : Mailbox → α × Mailbox} (hself : (f live.box).2 = live.box) :
    (Run.withMailbox channel f).exec w = some (.ok (f live.box).1, w) := by
  obtain ⟨hlt, hhere⟩ := List.getElem?_eq_some_iff.1 h
  rw [exec_withMailbox h, hself, ← hhere, List.set_getElem_self]

/-- A mailbox that is replaced by one with the same messages. -/
theorem contents_set {box : Mailbox} (h : w.channels[channel.key]? = some live)
    (hbox : LiveChannel.contents { live with box := box } = live.contents) :
    (w.channels.set channel.key { live with box := box }).map LiveChannel.contents =
      w.contents := by
  rw [List.map_set, hbox]
  unfold World.contents
  apply List.ext_getElem?
  intro place
  rw [List.getElem?_set]
  split
  · next hplace =>
    subst hplace
    obtain ⟨hlt, hhere⟩ := List.getElem?_eq_some_iff.1 h
    simp [hlt, hhere]
  · rfl

end Contents

section Waiting

variable {w : World} {runners : List Runner} {channel : LiveRef} {live : LiveChannel}
  {m : Message} {rest : List Message} {time : Nat}

theorem exec_pumps (hquiet : w.Quiet runners) : (pumps runners).exec w = some (.ok [], w) := by
  simp only [pumps, Run.exec_bind, Run.exec_look, Run.exec_pure]
  rw [List.filterMap_eq_nil_iff.2]
  intro r hr
  cases hstate : w.runners[r.slot]? with
  | none => rfl
  | some state => simp [hquiet r hr state hstate]

/-- A result that is not there once the receivers are served is not there before the deadline. -/
theorem exec_passUntil_none {α : Type} {done? : Run (Option α)} {u : World} {deadline rounds : Nat}
    (hquiet : u.Quiet runners) (hdone : done?.exec w.served = some (.ok none, u)) :
    (passUntil runners deadline done? (rounds + 1)).exec w =
      some (.ok none, { u with clock := deadline }) := by
  have hserve : serveReceivers.exec w = some (.ok (), w.served) := rfl
  simp [passUntil, hserve, hdone, exec_pumps hquiet, firstPump?]

/-- Whoever waits for a message that is there has it at once. -/
theorem exec_receiveWithin_some (hlive : w.channels[channel.key]? = some live)
    (hwaiting : live.box.waiting = []) (hqueued : live.box.queued = m :: rest) :
    (receiveWithin runners channel time).exec w = some (.ok (some m),
      { w with
        channels := w.channels.set channel.key
          { live with box := { live.box with queued := rest } } }) := by
  have htake : live.box.take = (some m, { live.box with queued := rest }) := by
    simp [Mailbox.take, hwaiting, hqueued]
  simp [receiveWithin, Run.tryReceive, exec_withMailbox hlive, htake]

/-- Nobody waits, so nothing is handed over. -/
theorem settle_of_unwaited {box : Mailbox} (h : box.waiting = []) : box.settle = box := by
  obtain ⟨queued, waiting, handed⟩ := box
  cases h
  simp [Mailbox.settle]

/-- The world after somebody waited at a channel in vain: receivers were served, and this channel is
as it was. -/
def World.idled (w : World) (channel : LiveRef) (live : LiveChannel) (time : Nat) : World :=
  { w with
    channels := w.served.channels.set channel.key live
    turns := w.turns + 1
    clock := w.clock + time }

theorem idled_getElem? (hlive : w.channels[channel.key]? = some live) (time place : Nat) :
    (w.idled channel live time).channels[place]? =
      if channel.key = place then some live
      else w.channels[place]?.map fun c => { c with box := c.box.settle } := by
  have hlt := (List.getElem?_eq_some_iff.1 hlive).1
  simp only [World.idled, World.served, List.getElem?_set, List.getElem?_map, List.length_map]
  by_cases hplace : channel.key = place
  · simp [← hplace, hlt]
  · simp [hplace]

/-- Where nobody else waits nothing comes of waiting in vain. -/
theorem idled_of_empty (hlive : w.channels[channel.key]? = some live) (hempty : live.box = .empty)
    (time : Nat) : w.Idled (w.idled channel live time) where
  channels place other hother hunwaited := by
    rw [idled_getElem? hlive]
    split
    · next hplace =>
      rw [← hplace, hlive] at hother
      exact hother
    · rw [hother, Option.map_some, settle_of_unwaited hunwaited]
  contents := by
    have hserved : w.served.channels[channel.key]? = some live := by
      have hsettled : live.box.settle = live.box := settle_of_unwaited (by rw [hempty]; rfl)
      rw [World.served, List.getElem?_map, hlive, Option.map_some, hsettled]
    exact (contents_set (w := w.served) hserved rfl).trans (contents_served w)
  gates := by
    apply List.ext_getElem?
    intro place
    rw [World.gates, List.getElem?_map, idled_getElem? hlive, World.gates, List.getElem?_map]
    split
    · next hplace => rw [← hplace, hlive]
    · rw [Option.map_map]
      rfl
  runners := rfl
  patience := rfl

/-- Whoever waits for nothing joins those who wait, is served nothing, and leaves at the
deadline. -/
theorem exec_receiveWithin_idled (hlive : w.channels[channel.key]? = some live)
    (hempty : live.box = .empty) (hquiet : w.Quiet runners) (hpatience : 0 < w.patience)
    (htime : time ≠ 0) (htry : (Run.tryReceive channel).exec w = some (.ok none, w)) :
    (receiveWithin runners channel time).exec w =
      some (.ok none, w.idled channel live time) := by
  obtain ⟨rounds, hrounds⟩ : ∃ rounds, w.patience = rounds + 1 :=
    Nat.exists_eq_succ_of_ne_zero (Nat.ne_of_gt hpatience)
  have hlt := (List.getElem?_eq_some_iff.1 hlive).1
  let waiting : LiveChannel := { live with box := ⟨[], [w.turns], []⟩ }
  let turned : World := { w with turns := w.turns + 1 }
  let joined : World := { turned with channels := w.channels.set channel.key waiting }
  let late : World := { joined.served with clock := w.clock + time }
  have hjoin : (Run.withMailbox channel fun box => ((), box.await w.turns)).exec turned =
      some (.ok (), joined) := by
    have hwaiting : { live with box := live.box.await w.turns } = waiting := by rw [hempty]; rfl
    rw [exec_withMailbox (w := turned) hlive, hwaiting]
  have hserved : joined.served.channels[channel.key]? = some waiting := by
    simp [World.served, joined, hlt, waiting, Mailbox.settle]
  have hcollect : (Run.withMailbox channel (·.collect w.turns)).exec joined.served =
      some (.ok none, joined.served) := exec_withMailbox_self hserved rfl
  have hpass : (passUntil runners (joined.clock + time)
      (Run.withMailbox channel (·.collect w.turns)) joined.patience).exec joined =
        some (.ok none, late) := by
    have hjoined : joined.patience = rounds + 1 := hrounds
    rw [hjoined]
    exact exec_passUntil_none (w := joined) hquiet hcollect
  have hleave : (Run.withMailbox channel fun box => ((), box.leave w.turns)).exec late =
      some (.ok (), w.idled channel live time) := by
    have hback : { waiting with box := waiting.box.leave w.turns } = live := by
      simp [waiting, Mailbox.leave, ← Mailbox.empty.eq_def, ← hempty]
    rw [exec_withMailbox (w := late) hserved, hback]
    simp [late, World.served, joined, turned, World.idled, List.map_set, List.set_set]
  simp only [receiveWithin, Runner.nextTurn, Run.exec_bind, Run.exec_get, Run.exec_set,
    Run.exec_pure, Run.exec_look, htry, htime, if_false]
  rw [hjoin]
  simp only [hpass, hleave]

/-- Whoever waits for nothing gets nothing, and finds everything as it was. -/
theorem exec_receiveWithin_none (hlive : w.channels[channel.key]? = some live)
    (hempty : live.box = .empty) (hquiet : w.Quiet runners) (hpatience : 0 < w.patience) :
    ∃ v, (receiveWithin runners channel time).exec w = some (.ok none, v) ∧ w.Idled v := by
  have htake : live.box.take = (none, live.box) := by
    rw [hempty]
    rfl
  have htry : (Run.tryReceive channel).exec w = some (.ok none, w) := by
    rw [Run.tryReceive, exec_withMailbox_self hlive (by rw [htake]), htake]
  by_cases htime : time = 0
  · exact ⟨w, by simp [receiveWithin, htry, htime], fun _ _ h _ => h, rfl, rfl, rfl, rfl⟩
  · exact ⟨_, exec_receiveWithin_idled hlive hempty hquiet hpatience htime htry,
      idled_of_empty hlive hempty time⟩

/-- Whoever waits for messages in the last channel, ahead of anybody else, has the first of them if
there is any, and leaves the others. -/
theorem exec_receiveWithin_last {before : List LiveChannel} {name : String} {ms : List Message}
    (hchannels : w.channels = before ++ [⟨name, fun _ => true, ⟨ms, [], []⟩⟩])
    (hkey : channel.key = before.length) (hquiet : w.Quiet runners) (hpatience : 0 < w.patience) :
    ∃ v, (receiveWithin runners channel time).exec w = some (.ok ms.head?, v) ∧
      v.contents = before.map LiveChannel.contents ++ [ms.tail] := by
  have hlive : w.channels[channel.key]? = some ⟨name, fun _ => true, ⟨ms, [], []⟩⟩ := by
    simp [hchannels, hkey]
  cases ms with
  | nil =>
    obtain ⟨v, hexec, hidled⟩ := exec_receiveWithin_none hlive rfl hquiet hpatience
    refine ⟨v, hexec, hidled.contents.trans ?_⟩
    simp [World.contents, hchannels, LiveChannel.contents]
  | cons m rest =>
    refine ⟨_, exec_receiveWithin_some hlive rfl rfl, ?_⟩
    simp [World.contents, hchannels, hkey, LiveChannel.contents]

end Waiting

end MessageFlow
