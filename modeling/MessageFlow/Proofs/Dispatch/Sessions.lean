import MessageFlow.Proofs.Dispatch.Standings
import MessageFlow.Proofs.Sample

/-!
# Requests side by side

Those who use a runner take steps in any order: a request is dispatched, a request that was
dispatched receives its reply, a message is sent. No two requests wait at one queue (`Apart`), so no
step changes where a request stands but its own (`exec_move_apart`), and each is answered as if it
were alone (`requests_apart`).
-/

namespace MessageFlow

section

variable [PayloadTypes]

/-- A step of those who use a runner. -/
inductive Move where
  /-- A request is dispatched. -/
  | ask (payload : Payload)
  /-- The request of that number receives its reply, unless it did. -/
  | receive (number : Nat)
  /-- A message is sent. Whether it fails is nobody's business. -/
  | send (m : Message)

/-- The payloads of the requests that are dispatched, in order. -/
def asked (moves : List Move) : List Payload :=
  moves.filterMap fun
    | .ask payload => some payload
    | _ => none

namespace Runner

/-- Takes a step, and returns how far the requests are then. -/
def move (runners : List Runner) (r : Runner) (standings : List Standing) :
    Move → Run (List Standing)
  | .ask payload => do return standings ++ [← Run.attempt (r.ask payload)]
  | .receive number =>
    match standings[number]? with
    | some standing => do
      let result ← Run.attempt (r.settle runners standing)
      return standings.set number (result.map .inr)
    | none => return standings
  | .send m => do
    let _ ← Run.attempt (r.send m)
    return standings

/-- Takes one step after the other. -/
def session (runners : List Runner) (r : Runner) (standings : List Standing) :
    List Move → Run (List Standing)
  | [] => return standings
  | first :: rest => do r.session runners (← r.move runners standings first) rest

/-- Whether a step would end if it were the first one to be taken. -/
def Ends (runners : List Runner) (r : Runner) (u : World) : Move → Prop
  | .ask payload => ∃ ended, (Runner.request runners r payload).exec u = some ended
  | .receive _ => True
  | .send m => ∃ ended, (r.send m).exec u = some ended

/-- All requests stand as they would alone, and no two of them wait at one queue. -/
structure Apart (runners : List Runner) (r : Runner) (u : World) (payloads : List Payload)
    (standings : List Standing) (w : World) : Prop where
  gates : u.gates <+: w.gates
  quiet : w.Quiet runners
  patience : 0 < w.patience
  length : standings.length = payloads.length
  stands : ∀ (n : Nat) (payload : Payload) (standing : Standing), payloads[n]? = some payload →
    standings[n]? = some standing → ∃ alone u',
      (Runner.request runners r payload).exec u = some (alone, u') ∧
        r.Stands u.channels.length w payload alone standing
  queues : ∀ (i j : Nat) (queue queue' : LiveRef), standings[i]? = some (.ok (.inl queue)) →
    standings[j]? = some (.ok (.inl queue')) → queue.key = queue'.key → i = j

variable {r : Runner} {runners : List Runner} {payload : Payload} {u v w : World}
  {payloads : List Payload} {standings : List Standing}

theorem apart_nil (hquiet : u.Quiet runners) (hpatience : 0 < u.patience) :
    Apart runners r u [] [] u :=
  ⟨List.prefix_rfl, hquiet, hpatience, rfl, by simp, by simp⟩

/-- Where a request waits there is a channel. -/
theorem Apart.queue_lt (h : Apart runners r u payloads standings w) {n : Nat} {queue : LiveRef}
    (hn : standings[n]? = some (.ok (.inl queue))) :
    u.channels.length ≤ queue.key ∧ queue.key < w.channels.length := by
  have hlt : n < payloads.length := h.length ▸ (List.getElem?_eq_some_iff.1 hn).1
  obtain ⟨alone, u', -, hstands⟩ := h.stands n _ _ (List.getElem?_eq_getElem hlt) hn
  generalize hstanding : (.ok (.inl queue) : Standing) = standing at hstands
  cases hstands with
  | answered result _ => exact absurd hstanding.symm (answered_ne_waiting result queue)
  | waiting queue name ms hfirst hlive =>
    cases hstanding
    exact ⟨hfirst, (List.getElem?_eq_some_iff.1 hlive).1⟩

/-- Whatever leaves channels alone that were opened later leaves requests where they stand. -/
theorem apart_of_spares (h : Apart runners r u payloads standings w)
    (hspares : w.Spares (u.channels.length ≤ ·) v) : Apart runners r u payloads standings v where
  gates := h.gates.trans hspares.gates
  quiet := hspares.quiet runners h.quiet
  patience := hspares.patience ▸ h.patience
  length := h.length
  stands n payload standing hpayload hstanding := by
    obtain ⟨alone, u', hrequest, hstands⟩ := h.stands n payload standing hpayload hstanding
    refine ⟨alone, u', hrequest, stands_of_spares hstands hspares fun queue hqueue => ?_⟩
    exact (h.queue_lt (hqueue ▸ hstanding)).1
  queues := h.queues

/-- A request that is dispatched has a queue that no other one waits at. -/
theorem apart_of_ask (hstages : ∀ stage ∈ r.flow.stages, stage.Stateless) (hu : r.Grounded u)
    (hquiet : u.Quiet runners) (hpatience : 0 < u.patience)
    (h : Apart runners r u payloads standings w) {result : Standing}
    (hexec : (r.ask payload).exec w = some (result, v)) :
    Apart runners r u (payloads ++ [payload]) (standings ++ [result]) v := by
  obtain ⟨hspares, hqueue, alone, u', hrequest, hstands⟩ :=
    exec_ask_stands hstages hu hquiet hpatience h.gates hexec
  have hsame := apart_of_spares h hspares
  have hends : ∀ {n : Nat} {standing : Standing}, (standings ++ [result])[n]? = some standing →
      standings[n]? = some standing ∨ n = standings.length ∧ standing = result := by
    intro n standing hn
    rcases Nat.lt_or_ge n standings.length with hlt | hle
    · exact .inl (by rwa [List.getElem?_append_left hlt] at hn)
    · rw [List.getElem?_append_right hle, List.getElem?_singleton] at hn
      split at hn
      · next hzero => exact .inr ⟨by omega, (Option.some.inj hn).symm⟩
      · cases hn
  refine ⟨hsame.gates, hsame.quiet, hsame.patience, by simp [h.length], ?_, ?_⟩
  · intro n payload' standing hpayload hstanding
    rcases hends hstanding with hbefore | ⟨rfl, rfl⟩
    · have hlt : n < payloads.length := h.length ▸ (List.getElem?_eq_some_iff.1 hbefore).1
      rw [List.getElem?_append_left hlt] at hpayload
      exact hsame.stands n payload' standing hpayload hbefore
    · rw [h.length, List.getElem?_concat_length] at hpayload
      cases hpayload
      exact ⟨alone, u', hrequest, hstands⟩
  · -- The queues of earlier requests were there when this one was opened.
    have hearlier : ∀ {n : Nat} {queue queue' : LiveRef},
        standings[n]? = some (.ok (.inl queue)) → result = .ok (.inl queue') →
          queue.key < queue'.key := by
      intro n queue queue' hn hresult
      exact hqueue queue' hresult ▸ (h.queue_lt hn).2
    intro i j queue queue' hi hj hkey
    rcases hends hi with hi' | ⟨rfl, hlast⟩
    · rcases hends hj with hj' | ⟨rfl, hlast'⟩
      · exact h.queues i j queue queue' hi' hj' hkey
      · exact absurd hkey (Nat.ne_of_lt (hearlier hi' hlast'.symm))
    · rcases hends hj with hj' | ⟨rfl, -⟩
      · exact absurd hkey.symm (Nat.ne_of_lt (hearlier hj' hlast.symm))
      · rfl

/-- A request that receives its reply leaves the others where they stand. -/
theorem exec_settle_apart (h : Apart runners r u payloads standings w) {n : Nat}
    {standing : Standing} (hn : standings[n]? = some standing) :
    ∃ result v, (r.settle runners standing).exec w = some (result, v) ∧
      Apart runners r u payloads (standings.set n (result.map .inr)) v := by
  have hlt : n < standings.length := (List.getElem?_eq_some_iff.1 hn).1
  obtain ⟨payload, hpayload⟩ : ∃ payload, payloads[n]? = some payload :=
    ⟨_, List.getElem?_eq_getElem (h.length ▸ hlt)⟩
  obtain ⟨alone, u', hrequest, hstands⟩ := h.stands n payload standing hpayload hn
  obtain ⟨result, v, hexec, hanswers, hspares⟩ := exec_settle hstands h.quiet h.patience
  have hother : ∀ {i : Nat} {standing' : Standing},
      (standings.set n (result.map .inr))[i]? = some standing' →
        i = n ∧ standing' = result.map .inr ∨ i ≠ n ∧ standings[i]? = some standing' := by
    intro i standing' hi
    rw [List.getElem?_set, if_pos hlt] at hi
    split at hi
    · next hni => exact .inl ⟨hni.symm, (Option.some.inj hi).symm⟩
    · next hni => exact .inr ⟨fun heq => hni heq.symm, hi⟩
  refine ⟨result, v, hexec, h.gates.trans hspares.gates, hspares.quiet runners h.quiet,
    hspares.patience ▸ h.patience, by rw [List.length_set, h.length], ?_, ?_⟩
  · intro i payload' standing' hpayload' hstanding'
    rcases hother hstanding' with ⟨rfl, rfl⟩ | ⟨hne, hstanding'⟩
    · rw [hpayload] at hpayload'
      cases hpayload'
      exact ⟨alone, u', hrequest, .answered result hanswers⟩
    · obtain ⟨alone', u'', hrequest', hstands'⟩ :=
        h.stands i payload' standing' hpayload' hstanding'
      refine ⟨alone', u'', hrequest', stands_of_spares hstands' hspares ?_⟩
      rintro queue rfl queue' rfl hkey
      exact hne (h.queues i n queue queue' hstanding' hn hkey)
  · intro i j queue queue' hi hj hkey
    rcases hother hi with ⟨-, hi⟩ | ⟨-, hi⟩
    · exact absurd hi.symm (answered_ne_waiting result queue)
    · rcases hother hj with ⟨-, hj⟩ | ⟨-, hj⟩
      · exact absurd hj.symm (answered_ne_waiting result queue')
      · exact h.queues i j queue queue' hi hj hkey

/-! ## Steps -/

theorem exec_move_ask (runners : List Runner) (r : Runner) (payload : Payload) (w : World) :
    (r.move runners standings (.ask payload)).exec w = ((r.ask payload).exec w).map fun ended =>
      (.ok (standings ++ [ended.1]), ended.2) := by
  rw [move, Run.exec_bind, Run.exec_attempt]
  cases (r.ask payload).exec w <;> rfl

theorem exec_move_send (runners : List Runner) (r : Runner) (m : Message) (w : World) :
    (r.move runners standings (.send m)).exec w = ((r.send m).exec w).map fun ended =>
      (.ok standings, ended.2) := by
  rw [move, Run.exec_bind, Run.exec_attempt]
  cases (r.send m).exec w <;> rfl

section Moves

variable (hstages : ∀ stage ∈ r.flow.stages, stage.Stateless) (hu : r.Grounded u)
  (hquiet : u.Quiet runners) (hpatience : 0 < u.patience) {move : Move}

include hstages hu hquiet hpatience

/-- A step leaves requests where they would stand alone, and it ends if it would end as the first
one. -/
theorem exec_move_apart (h : Apart runners r u payloads standings w)
    (hsent : ∀ m, move = .send m → ∀ ref, m.headers.replyChannel = some ref → r.Knows u ref) :
    (Ends runners r u move → ∃ ended, (r.move runners standings move).exec w = some ended) ∧
      ∀ result v, (r.move runners standings move).exec w = some (result, v) →
        Ends runners r u move ∧ ∃ standings', result = .ok standings' ∧
          Apart runners r u (payloads ++ asked [move]) standings' v := by
  cases move with
  | ask payload =>
    rw [exec_move_ask]
    refine ⟨?_, ?_⟩
    · rintro ⟨ended, hrequest⟩
      obtain ⟨result, v, hexec⟩ := exec_ask_of_request hstages hu h.gates hrequest
      rw [hexec]
      exact ⟨_, rfl⟩
    · intro result v hexec
      obtain ⟨⟨standing, v'⟩, hask, he⟩ := Option.map_eq_some_iff.1 hexec
      cases he
      obtain ⟨-, -, alone, u', hrequest, -⟩ :=
        exec_ask_stands hstages hu hquiet hpatience h.gates hask
      exact ⟨⟨_, hrequest⟩, _, rfl, apart_of_ask hstages hu hquiet hpatience h hask⟩
  | receive number =>
    rw [show payloads ++ asked [.receive number] = payloads from List.append_nil payloads]
    cases hnumber : standings[number]? with
    | none =>
      simp only [Runner.move, hnumber, Run.exec_pure]
      refine ⟨fun _ => ⟨_, rfl⟩, fun result v hexec => ?_⟩
      cases hexec
      exact ⟨trivial, standings, rfl, h⟩
    | some standing =>
      obtain ⟨final, v, hsettle, hapart⟩ := exec_settle_apart h hnumber
      simp only [Runner.move, hnumber, Run.exec_bind, Run.exec_attempt, hsettle, Option.map_some,
        Run.exec_pure]
      refine ⟨fun _ => ⟨_, rfl⟩, fun result v hexec => ?_⟩
      cases hexec
      exact ⟨trivial, _, rfl, hapart⟩
  | send m =>
    rw [show payloads ++ asked [.send m] = payloads from List.append_nil payloads, exec_move_send]
    have hm := hsent m rfl
    refine ⟨?_, ?_⟩
    · rintro ⟨⟨sent, v⟩, hsend⟩
      obtain ⟨-, ended, hexec⟩ := exec_send_apart hstages hu hm List.prefix_rfl h.gates hsend
      rw [hexec]
      exact ⟨_, rfl⟩
    · intro result v hexec
      obtain ⟨⟨sent, v'⟩, hsend, he⟩ := Option.map_eq_some_iff.1 hexec
      cases he
      obtain ⟨hspares, hends⟩ := exec_send_apart hstages hu hm h.gates List.prefix_rfl hsend
      exact ⟨hends, standings, rfl, apart_of_spares h hspares⟩

/-- However many steps are taken, requests stand as they would alone. -/
theorem exec_session_apart {moves : List Move} (h : Apart runners r u payloads standings w)
    (hsent : ∀ m, .send m ∈ moves → ∀ ref, m.headers.replyChannel = some ref → r.Knows u ref) :
    ((∀ move ∈ moves, Ends runners r u move) →
        ∃ ended, (r.session runners standings moves).exec w = some ended) ∧
      ∀ result v, (r.session runners standings moves).exec w = some (result, v) →
        (∀ move ∈ moves, Ends runners r u move) ∧ ∃ standings', result = .ok standings' ∧
          Apart runners r u (payloads ++ asked moves) standings' v := by
  induction moves generalizing payloads standings w with
  | nil =>
    refine ⟨fun _ => ⟨_, rfl⟩, fun result v hexec => ?_⟩
    cases hexec
    exact ⟨by simp, standings, rfl, (List.append_nil payloads).symm ▸ h⟩
  | cons first rest ih =>
    have hfirst : ∀ m, first = .send m → ∀ ref, m.headers.replyChannel = some ref → r.Knows u ref :=
      fun m hm => hsent m (hm ▸ List.mem_cons_self)
    obtain ⟨hgoes, hleads⟩ := exec_move_apart hstages hu hquiet hpatience h hfirst
    have hrest : ∀ m, .send m ∈ rest → ∀ ref, m.headers.replyChannel = some ref → r.Knows u ref :=
      fun m hm => hsent m (List.mem_cons_of_mem first hm)
    have hasked : payloads ++ asked (first :: rest) =
        payloads ++ asked [first] ++ asked rest := by
      rw [List.append_assoc, asked, asked, asked, ← List.filterMap_append]
      rfl
    refine ⟨?_, ?_⟩
    · intro hends
      rw [List.forall_mem_cons] at hends
      obtain ⟨⟨result, v⟩, hmove⟩ := hgoes hends.1
      obtain ⟨-, standings', rfl, hapart⟩ := hleads result v hmove
      obtain ⟨ended, hsession⟩ := (ih hapart hrest).1 hends.2
      exact ⟨ended, by rw [session, Run.exec_bind, hmove]; exact hsession⟩
    · intro result v hexec
      cases hmove : (r.move runners standings first).exec w with
      | none => simp [session, hmove] at hexec
      | some ended =>
        obtain ⟨moved, v'⟩ := ended
        obtain ⟨hfirst, standings', rfl, hapart⟩ := hleads moved v' hmove
        simp only [session, Run.exec_bind, hmove] at hexec
        obtain ⟨hends, final, rfl, hlast⟩ := (ih hapart hrest).2 result v hexec
        exact ⟨List.forall_mem_cons.2 ⟨hfirst, hends⟩, final, rfl, hasked ▸ hlast⟩

end Moves

end Runner

/-- Requests do not disturb each other. However the dispatches of requests, the receipts of their
replies and the dispatches of other messages follow each other, the whole ends if each of them would
end alone, and in no other case. Then every request has the result, or receives it now, that it
would have had alone, up to the ids of messages and to when they were made, and a reply to a request
came of the payload of this one. -/
theorem requests_apart {r : Runner} {runners : List Runner} {w : World} {moves : List Move}
    (hstages : ∀ stage ∈ r.flow.stages, stage.Stateless) (hw : r.Grounded w)
    (hquiet : w.Quiet runners) (hpatience : 0 < w.patience)
    (hsent : ∀ m, .send m ∈ moves → ∀ ref, m.headers.replyChannel = some ref → r.Knows w ref) :
    ((∃ ended, (r.session runners [] moves).exec w = some ended) ↔
        ∀ move ∈ moves, r.Ends runners w move) ∧
      ∀ result v, (r.session runners [] moves).exec w = some (result, v) →
        ∃ standings, result = .ok standings ∧ standings.length = (asked moves).length ∧
          ∀ (n : Nat) (payload : Payload) (standing : Standing), (asked moves)[n]? = some payload →
            standings[n]? = some standing → ∃ final v' alone w',
              (r.settle runners standing).exec v = some (final, v') ∧
              (Runner.request runners r payload).exec w = some (alone, w') ∧
              r.Answers payload final alone := by
  obtain ⟨hgoes, hleads⟩ := Runner.exec_session_apart hstages hw hquiet hpatience
    (Runner.apart_nil hquiet hpatience) hsent
  refine ⟨⟨fun ⟨⟨result, v⟩, hexec⟩ => (hleads result v hexec).1, hgoes⟩, ?_⟩
  intro result v hexec
  obtain ⟨-, standings, rfl, hapart⟩ := hleads result v hexec
  refine ⟨standings, rfl, hapart.length, fun n payload standing hpayload hstanding => ?_⟩
  obtain ⟨alone, w', hrequest, hstands⟩ := hapart.stands n payload standing hpayload hstanding
  obtain ⟨final, v', hsettle, hanswers, -⟩ :=
    Runner.exec_settle hstands hapart.quiet hapart.patience
  exact ⟨final, v', alone, w', hsettle, hrequest, hanswers⟩

end

open Sample

/-- A gateway, and a bridge to the replies. -/
def relay : FlowDefinition :=
  (FlowDefinition.start "f" (.gateway .checker .standard)
    .standard).afterAll [.stage (.bridge .standard), .channel (.anonymous "replies")]

/-- What is finished of it. -/
def relayFlow : Flow :=
  { id := "f"
    source := .gateway .checker .standard
    input := .anonymous "f.channel#0"
    output := some (.anonymous "replies")
    stages := [⟨.anonymous "f.channel#0",
      ⟨⟨"f.bridge#0", .bridge⟩, .payload, .bridge, [], none, some (.anonymous "replies")⟩⟩]
    components := relay.components
    poller := .standard }

/-- A runner of it. -/
def relayRunner : Runner :=
  ⟨0, relayFlow, ⟨[("replies", ⟨0, "replies"⟩)]⟩, some ⟨0, "replies"⟩⟩

/-- A world with this runner and its channel. -/
def relayWorld : World :=
  { World.new 1 with channels := [.queue "replies"], runners := [.new] }

theorem stateless_relay : ∀ stage ∈ relayRunner.flow.stages, stage.Stateless := by
  intro stage hstage
  cases List.mem_singleton.1 hstage
  refine ⟨⟨.bridge .standard, ⟨_, "f", .standard, 0, rfl, rfl⟩, trivial⟩, ?_⟩
  exact fun advice hadvice => (List.not_mem_nil hadvice).elim

theorem quiet_relay : relayWorld.Quiet [relayRunner] :=
  quiet_of_idle (by simp [relayWorld, RunnerState.new]) _

/-- Its only channel is registered, and its flow refers to no other one. -/
theorem grounded_relay : relayRunner.Grounded relayWorld := by
  refine ⟨?_, ?_⟩
  · intro name live hlive
    have hkey : live = ⟨0, "replies"⟩ := by
      simp only [relayRunner, ChannelRegistry.get, List.lookup_cons, List.lookup_nil] at hlive
      split at hlive
      · exact (Option.some.inj hlive).symm
      · cases hlive
    subst hkey
    exact Nat.one_pos
  · rintro live (hinput | ⟨stage, hstage, hemits⟩ | herror)
    · cases hinput
    · cases List.mem_singleton.1 hstage
      rcases hemits with houtput | ⟨m, w, outcome, w', hinvoke, htarget⟩
      · cases houtput
      · cases hinvoke
        cases htarget
    · cases herror

/-- A request that is alone has its payload back. -/
theorem exec_request_relay (payload : Payload) :
    ∃ reply u, (Runner.request [relayRunner] relayRunner payload).exec relayWorld =
      some (.ok (some reply), u) ∧ reply.payload = payload := by
  have hflow : relayFlow.IsLine (.anonymous "replies") :=
    ⟨rfl, ⟨some relayFlow.input, rfl, rfl⟩, by decide, rfl, by
      simp [relayFlow, ChannelRef.isLive]⟩
  have hline : Line (some relayFlow.input) relayFlow.stages (some (.anonymous "replies")) :=
    ⟨rfl, rfl⟩
  have hplain : ∀ stage ∈ relayFlow.stages,
      stage.Plain Message.face Failure.face fun face => .ok [face] := by
    intro stage hstage
    cases List.mem_singleton.1 hstage
    have hbridge : ∀ reply, ComputesFor Message.face Failure.face reply
        (Handler.bridge ⟨"f.bridge#0", .bridge⟩) fun face => .ok [face] :=
      fun _ => computesFor_bridge
    exact ⟨hbridge, fun m => returns_pure frame_steady trivial⟩
  obtain ⟨ms, u, hviews, hexec, -⟩ :=
    Runner.exec_request_line (r := relayRunner) (u := relayWorld) hflow hline rfl hplain rfl
      [relayRunner] payload ⟨.queue "replies", rfl, rfl⟩ quiet_relay Nat.one_pos
  obtain ⟨m, rest, rfl, hface, hrest⟩ := List.map_eq_cons_iff.1 hviews
  exact ⟨m, u, hexec, congrArg Prod.fst hface⟩

/-- A message that nobody has to reply to is in the channel. -/
theorem exec_send_relay {m : Message} (hm : m.headers.replyChannel = none) :
    (relayRunner.send m).exec relayWorld =
      some (.ok (), relayWorld.sent ⟨0, "replies"⟩ m) := by
  have hvisit : (relayRunner.visit ⟨relayFlow.input, m⟩).exec relayWorld =
    some (.ok [⟨.anonymous "replies", m⟩], relayWorld) := rfl
  have hdeliver : (relayRunner.visit ⟨.anonymous "replies", m⟩).exec relayWorld =
      some (.ok [], relayWorld.sent ⟨0, "replies"⟩ m) := by
    rw [Runner.visit_of_free rfl, Run.exec_bind, Runner.deliver_eq, Runner.destination_eq, hm]
    rfl
  rw [Runner.send, Runner.dispatch, Work.run_cons, Run.exec_bind]
  simp only [relayRunner] at hvisit hdeliver ⊢
  rw [hvisit]
  simp [Work.run_cons, hdeliver]

/-- Two requests and another message: each request has its own payload back, and the second one has
it first. -/
theorem requests_apart_relay :
    (Composer.finish.exec relay).1 = .ok relayFlow ∧ ∃ r v moves u standings,
      (Runner.create relayFlow .empty).exec (.new 1) = some (.ok r, v) ∧
      moves = [.ask (.of .number 1), .ask (.of .number 2), .send ⟨.fresh 0, .of .number 3, .at 0⟩,
        .receive 1] ∧
      (r.session [r] [] moves).exec v = some (.ok standings, u) ∧
      ∀ (n : Nat) (payload : Payload), (asked moves)[n]? = some payload →
        ∃ standing reply u', standings[n]? = some standing ∧
          (r.settle [r] standing).exec u = some (.ok (some reply), u') ∧
          reply.payload = payload := by
  let moves : List Move :=
    [.ask (.of .number 1), .ask (.of .number 2), .send ⟨.fresh 0, .of .number 3, .at 0⟩, .receive 1]
  have hends : ∀ move ∈ moves, relayRunner.Ends [relayRunner] relayWorld move := by
    simp only [moves, List.forall_mem_cons]
    refine ⟨?_, ?_, ⟨_, exec_send_relay rfl⟩, trivial, by simp⟩
    · obtain ⟨reply, u, hexec, -⟩ := exec_request_relay (.of .number 1)
      exact ⟨_, hexec⟩
    · obtain ⟨reply, u, hexec, -⟩ := exec_request_relay (.of .number 2)
      exact ⟨_, hexec⟩
  have hsent : ∀ m, .send m ∈ moves → ∀ ref, m.headers.replyChannel = some ref →
      relayRunner.Knows relayWorld ref := by
    intro m hm ref href
    simp only [moves, List.mem_cons, reduceCtorEq, Move.send.injEq, List.not_mem_nil, or_false,
      false_or] at hm
    subst hm
    cases href
  obtain ⟨hgoes, hleads⟩ :=
    requests_apart stateless_relay grounded_relay quiet_relay Nat.one_pos hsent
  obtain ⟨⟨result, u⟩, hsession⟩ := hgoes.2 hends
  obtain ⟨standings, rfl, hlength, hresults⟩ := hleads result u hsession
  refine ⟨rfl, relayRunner, relayWorld, moves, u, standings, rfl, rfl, hsession, ?_⟩
  intro n payload hpayload
  have hn : n < standings.length := hlength ▸ (List.getElem?_eq_some_iff.1 hpayload).1
  obtain ⟨final, u', alone, w', hsettle, hrequest, hagree, -⟩ :=
    hresults n payload _ hpayload (List.getElem?_eq_getElem hn)
  obtain ⟨reply, w'', hrequest', hreply⟩ := exec_request_relay payload
  rw [hrequest'] at hrequest
  cases hrequest
  generalize hfinal : final = f at hagree
  cases hagree with
  | @ok a _ hshown =>
    obtain ⟨reply', ha, hguise⟩ := Option.map_eq_some_iff.1 hshown
    refine ⟨_, reply', u', List.getElem?_eq_getElem hn, ?_, ?_⟩
    · rw [hsettle, hfinal, ha]
    · exact (payload_eq_of_guise hguise).trans hreply

end MessageFlow
