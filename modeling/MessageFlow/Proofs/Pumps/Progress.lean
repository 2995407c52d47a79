import MessageFlow.Proofs.Composer.Calls
import MessageFlow.Proofs.Json.Given
import MessageFlow.Proofs.Pumps.Deeds
import MessageFlow.Proofs.Sample

/-!
# Progress of polls

A poll that may take a message takes one if there is one, and dispatches it before anything else
(`Progresses`). How many messages a poll may take comes a long way: from a document with optional
fields, through the settings and the definition, to the flow, if the adapter of the source has no
poller of its own. `poll_progress` follows it. The builder functions never let it be zero, but a
document can ask for just that, and the polls of such a flow do nothing.
-/

namespace MessageFlow

section

variable [PayloadTypes]

/-- A flow whose source is polled by no adapter of its own is polled as the settings say. -/
theorem poller_of_calls {id : String} {receive : Run (Option Message)} {name : Option String}
    {config : FlowConfig} {cs : List Call} {flow : Flow}
    (hflow : (Composer.finish.exec
      ((FlowDefinition.start id (.polling receive ⟨name, none⟩) config).afterAll cs)).1 =
        .ok flow) :
    flow.source = .polling receive ⟨name, none⟩ ∧ flow.poller = config.defaultPoller := by
  rw [Composer.result_finish] at hflow
  obtain ⟨hsource, hpoller⟩ := FlowDefinition.origin_of_finished hflow
  have horigin := origin_afterAll (consistent_start id (.polling receive ⟨name, none⟩) config) cs
  have hstart := hsource.trans (congrArg (·.2.1) horigin)
  refine ⟨hstart, ?_⟩
  rw [hpoller, ← hsource, hstart]
  exact congrArg (·.2.2.defaultPoller) horigin

namespace Runner

variable {r : Runner} {receive : Run (Option Message)} {adapter : AdapterSpec} {w u v : World}
  {m : Message}

/-- A poll that finds a message sends it, and goes on with one message less to take. -/
theorem exec_poll_some (h : receive.exec w = some (.ok (some m), u)) (max : Nat) :
    (r.poll receive (max + 1)).exec w = (do r.sendLogged m; r.poll receive max).exec u := by
  rw [Runner.poll, Run.exec_bind, h]

theorem exec_poll_none (h : receive.exec w = some (.ok none, u)) (max : Nat) :
    (r.poll receive (max + 1)).exec w = some (.ok (), u) := by
  rw [Runner.poll, Run.exec_bind, h]
  rfl

/-- A message is sent, and then whatever comes next. -/
theorem did_of_sendLogged {next : Run Unit}
    (h : (do r.sendLogged m; next).exec w = some (.ok (), v)) :
    ∃ result u, r.Did w (Deed.dispatch m result) u ∧ next.exec u = some (.ok (), v) := by
  cases hsend : (r.send m).exec w with
  | none => simp [sendLogged, hsend] at h
  | some ended =>
    obtain ⟨result, u⟩ := ended
    obtain ⟨u', hexec, hdid⟩ := exec_sendLogged hsend
    rw [Run.exec_bind, hexec] at h
    exact ⟨result, u', hdid, h⟩

/-- What a poll that ends well has done. -/
theorem did_of_poll (hsource : r.flow.source = .polling receive adapter) {max : Nat}
    (h : (r.poll receive max).exec w = some (.ok (), v)) :
    ∃ deeds, Polled max deeds ∧ r.Did w deeds v := by
  induction max generalizing w with
  | zero =>
    cases h
    exact ⟨[], .full, .nothing _⟩
  | succ max ih =>
    cases hreceive : receive.exec w with
    | none => simp [Runner.poll, hreceive] at h
    | some ended =>
      obtain ⟨result, u⟩ := ended
      cases result with
      | error failure => simp [Runner.poll, hreceive] at h
      | ok got =>
        cases got with
        | none =>
          rw [exec_poll_none hreceive] at h
          cases h
          exact ⟨_, .nothing max, .received receive adapter none [] w _ _ hsource hreceive
            (.nothing _)⟩
        | some m =>
          rw [exec_poll_some hreceive] at h
          obtain ⟨result, u', hsent, hnext⟩ := did_of_sendLogged h
          -- A message that could not be sent is no reason to stop, so the poll goes on either way.
          obtain ⟨deeds, hpolled, hdid⟩ := ih hnext
          exact ⟨_, .message max m result deeds hpolled,
            .received receive adapter (some m) _ w u v hsource hreceive (did_append hsent hdid)⟩

/-- A poll that finds a message takes it and sends it ahead of anything else. If it ends well it
has sent all that it took, this message first. -/
def Progresses (r : Runner) (receive : Run (Option Message)) (max : Nat) : Prop :=
  ∀ w m u, receive.exec w = some (.ok (some m), u) →
    (r.poll receive max).exec w = (do r.sendLogged m; r.poll receive (max - 1)).exec u ∧
    ∀ v, (r.poll receive max).exec w = some (.ok (), v) →
      ∃ deeds later, Polled max deeds ∧ r.Did w deeds v ∧
        Deeds.received deeds = m :: later ∧ Deeds.dispatched deeds = m :: later

theorem progresses_of_pos (hsource : r.flow.source = .polling receive adapter) (max : Nat) :
    r.Progresses receive (max + 1) := by
  intro w m u hreceive
  have hexec := exec_poll_some (r := r) hreceive max
  refine ⟨hexec, fun v hended => ?_⟩
  rw [hexec] at hended
  obtain ⟨result, u', hsent, hnext⟩ := did_of_sendLogged hended
  obtain ⟨deeds, hpolled, hdid⟩ := did_of_poll hsource hnext
  have hall : Polled (max + 1) (.received (some m) :: (Deed.dispatch m result ++ deeds)) :=
    .message max m result deeds hpolled
  have hreceived : Deeds.received (.received (some m) :: (Deed.dispatch m result ++ deeds)) =
      m :: Deeds.received deeds := congrArg (m :: ·) (received_dispatch m result deeds)
  refine ⟨_, Deeds.received deeds, hall, ?_, hreceived, ?_⟩
  · exact .received receive adapter (some m) _ w u v hsource hreceive (did_append hsent hdid)
  · rw [dispatched_of_polled hall, hreceived]

end Runner

/-- A flow that is composed with the settings of a document, from a source whose adapter has no
poller, is polled as the document says, and makes progress at every poll unless the document asks
for no message per poll. If it does, a poll does nothing, whatever there is to take. -/
theorem poll_progress (text id : String) (receive : Run (Option Message)) (name : Option String)
    (cs : List Call) {config : FlowConfig} {flow : Flow}
    (hconfig : FlowConfig.ofText text = .ok config)
    (hflow : (Composer.finish.exec
      ((FlowDefinition.start id (.polling receive ⟨name, none⟩) config).afterAll cs)).1 =
        .ok flow) :
    ∃ given, FlowConfig.given text = .ok given ∧ flow.poller = given.finish.defaultPoller ∧
      let asked := given.defaultPoller.bind (·.maxMessages)
      flow.poller.maxMessages = asked.getD 1 ∧
      ∀ r : Runner, r.flow = flow →
        (asked ≠ some 0 → r.Progresses receive flow.poller.maxMessages) ∧
        (asked = some 0 → r.poll receive flow.poller.maxMessages = pure ()) := by
  obtain ⟨hsource, hpoller⟩ := poller_of_calls hflow
  rw [FlowConfig.ofText_eq] at hconfig
  cases hgiven : FlowConfig.given text with
  | error failure => simp [hgiven] at hconfig
  | ok given =>
    rw [hgiven] at hconfig
    cases hconfig
    have hmax : flow.poller.maxMessages = (given.defaultPoller.bind (·.maxMessages)).getD 1 := by
      rw [hpoller, FlowConfig.Given.maxMessages_finish]
      rfl
    refine ⟨given, rfl, hpoller, hmax, ?_⟩
    rintro r rfl
    rw [hmax]
    cases given.defaultPoller.bind (·.maxMessages) with
    | none => exact ⟨fun _ => Runner.progresses_of_pos hsource 0, nofun⟩
    | some max =>
      cases max with
      | zero => exact ⟨fun hasked => absurd rfl hasked, fun _ => rfl⟩
      | succ max => exact ⟨fun _ => Runner.progresses_of_pos hsource max, nofun⟩

end

theorem look_of_isOk {α : Type} {look : Except Failure α} (h : look.isOk = true) :
    ∃ a, look = .ok a := by
  cases look with
  | error failure => cases h
  | ok a => exact ⟨a, rfl⟩

theorem FlowConfig.eq_of_toOption {text : String} {config : FlowConfig}
    (h : (ofText text).toOption = some config) : ofText text = .ok config := by
  cases hread : ofText text with
  | error failure => simp [hread, Except.toOption] at h
  | ok read => simpa [hread, Except.toOption] using h

open Sample

/-- Gives the same message whenever it is asked. -/
def oneMessage : Run (Option Message) :=
  return some ⟨.fresh 0, .of .number 1, .at 0⟩

/-- Standard settings, but for the number of messages that a poll may take. -/
def FlowConfig.taking (max : Nat) : FlowConfig :=
  { standard with defaultPoller := ⟨.ofMillis 1000, max⟩ }

/-- A bridge behind a source that always has a message. -/
def bridgedPolls (config : FlowConfig) : FlowDefinition :=
  (FlowDefinition.start "f" (.polling oneMessage ⟨none, none⟩) config).afterAll
    [.stage (.bridge .standard)]

/-- A document that asks for two messages per poll. -/
theorem poll_progress_two :
    FlowConfig.ofText "\x7b\"default_poller\":\x7b\"max_messages_per_poll\":2\x7d\x7d" =
        .ok (.taking 2) ∧
      ∃ flow, (Composer.finish.exec (bridgedPolls (.taking 2))).1 = .ok flow ∧
        Runner.Progresses ⟨0, flow, .empty, none⟩ oneMessage 2 := by
  have hconfig : FlowConfig.ofText
      "\x7b\"default_poller\":\x7b\"max_messages_per_poll\":2\x7d\x7d" = .ok (.taking 2) :=
    FlowConfig.eq_of_toOption (by decide +kernel)
  have hfinish : (Composer.finish.exec (bridgedPolls (.taking 2))).1.isOk = true := by
    decide +kernel
  obtain ⟨flow, hflow⟩ := look_of_isOk hfinish
  obtain ⟨given, -, hpoller, hmax, hprogress⟩ := poll_progress _ "f" oneMessage none
    [.stage (.bridge .standard)] hconfig hflow
  have htwo : flow.poller.maxMessages = 2 := by rw [(poller_of_calls hflow).2]; rfl
  have hasked : given.defaultPoller.bind (·.maxMessages) ≠ some 0 := by
    intro hzero
    rw [hzero, htwo] at hmax
    cases hmax
  exact ⟨hconfig, flow, hflow, htwo ▸ (hprogress ⟨0, flow, .empty, none⟩ rfl).1 hasked⟩

/-- A document that asks for no message per poll is accepted. The polls of its flow leave lying
what there is to take. -/
theorem poll_starves :
    FlowConfig.ofText "\x7b\"default_poller\":\x7b\"max_messages_per_poll\":0\x7d\x7d" =
        .ok (.taking 0) ∧
      ∃ flow, (Composer.finish.exec (bridgedPolls (.taking 0))).1 = .ok flow ∧
        (∀ w, oneMessage.exec w = some (.ok (some ⟨.fresh 0, .of .number 1, .at 0⟩), w)) ∧
        ∀ r : Runner, r.flow = flow → ¬ r.Progresses oneMessage flow.poller.maxMessages := by
  have hfinish : (Composer.finish.exec (bridgedPolls (.taking 0))).1.isOk = true := by
    decide +kernel
  obtain ⟨flow, hflow⟩ := look_of_isOk hfinish
  have hzero : flow.poller.maxMessages = 0 := by rw [(poller_of_calls hflow).2]; rfl
  refine ⟨FlowConfig.eq_of_toOption (by decide +kernel), flow, hflow, fun _ => rfl, ?_⟩
  intro r _ hprogress
  rw [hzero] at hprogress
  obtain ⟨-, hended⟩ := hprogress (.new 0) _ (.new 0) rfl
  obtain ⟨deeds, later, hpolled, -, hreceived, -⟩ := hended (.new 0) rfl
  -- Nothing was asked for, so nothing came.
  cases hpolled
  cases hreceived

end MessageFlow
