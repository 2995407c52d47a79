import Mathlib.Data.List.Induction
import MessageFlow.Proofs.Dispatch.Containment
import MessageFlow.Proofs.Dispatch.Keeps
import MessageFlow.Proofs.Dispatch.Replies
import MessageFlow.Proofs.Sample

/-!
# Where routers send

A router's options are made by calls, the last of a kind being the one that counts
(`channelFor_built`). What its handler decides is carried out by the runner, who alone knows which
channels exist: those that a stage of the flow consumes, live ones, and registered ones
(`isResolvable_iff`). `Routes` says what comes of both, in terms of the calls.

The channel of a key is looked up before anything is put into it, the fallback is not. A message
that was sent to a channel that does not exist fails when its turn comes (`visit_of_missing`).
-/

namespace MessageFlow

section

variable [PayloadTypes]

/-! ## Options by calls -/

/-- A call on the options of a router. -/
inductive RouterCall (key : KeyType) where
  | map (k : key.denote) (ref : ChannelRef)
  | fallback (ref : ChannelRef)
  | required (required : Bool)
  | before (text : String)
  | after (text : String)
  /-- A call on the options that every stage has. -/
  | endpoint (change : EndpointSpec → EndpointSpec)

namespace RouterCall

variable {key : KeyType} {α : Type}

def apply (spec : RouterSpec key) : RouterCall key → RouterSpec key
  | map k ref => { spec with routing := spec.routing.map k ref }
  | fallback ref => { spec with routing := { spec.routing with fallback := some ref } }
  | required b => { spec with routing := { spec.routing with required := b } }
  | before text => { spec with routing := { spec.routing with before := text } }
  | after text => { spec with routing := { spec.routing with after := text } }
  | endpoint change => { spec with endpoint := change spec.endpoint }

/-- What the last call of a kind says. -/
def last (said : RouterCall key → Option α) (calls : List (RouterCall key)) : Option α :=
  calls.reverse.findSome? said

/-- The channel that a call maps a key to. -/
def mapped (k : key.denote) : RouterCall key → Option ChannelRef
  | map k' ref => if k' = k then some ref else none
  | _ => none

def fallback? : RouterCall key → Option ChannelRef
  | fallback ref => some ref
  | _ => none

def required? : RouterCall key → Option Bool
  | required b => some b
  | _ => none

def before? : RouterCall key → Option String
  | before text => some text
  | _ => none

def after? : RouterCall key → Option String
  | after text => some text
  | _ => none

/-- The channel of a key: that of its last mapping, or the one that is named by the key, between the
texts that were set last. -/
def channel (calls : List (RouterCall key)) (k : key.denote) : ChannelRef :=
  (last (mapped k) calls).getD
    (.named ((last before? calls).getD "" ++ key.text k ++ (last after? calls).getD ""))

theorem last_concat (said : RouterCall key → Option α) (calls : List (RouterCall key))
    (c : RouterCall key) : last said (calls ++ [c]) = (said c).or (last said calls) := by
  unfold last
  rw [List.reverse_append, List.reverse_singleton, List.singleton_append, List.findSome?_cons]
  cases said c <;> rfl

end RouterCall

/-- The options that a router has after some calls. -/
def RouterSpec.built {key : KeyType} (calls : List (RouterCall key)) : RouterSpec key :=
  calls.foldl RouterCall.apply .standard

/-- What a router with these options decides for a message with a key. -/
def RouterSpec.decision {key : KeyType} (spec : RouterSpec key) (k : key.denote) (m : Message) :
    RouteDecision :=
  ⟨m, spec.routing.channelFor k, spec.routing.fallback, spec.routing.required⟩

section Options

open RouterCall

variable {key : KeyType}

theorem built_concat (calls : List (RouterCall key)) (c : RouterCall key) :
    RouterSpec.built (calls ++ [c]) = c.apply (.built calls) := by
  unfold RouterSpec.built
  rw [List.foldl_append, List.foldl_cons, List.foldl_nil]

/-- Other mappings of a router stay as they are. -/
theorem lookup_map (routing : Routing key) (k k' : key.denote) (ref : ChannelRef) :
    (routing.map k' ref).mappings.lookup k =
      if k' = k then some ref else routing.mappings.lookup k := by
  show ((k', ref) :: routing.mappings.filter (·.1 != k')).lookup k = _
  by_cases hk : k' = k
  · subst hk
    simp
  · rw [if_neg hk, List.lookup_cons, beq_false_of_ne fun he => hk he.symm]
    show (routing.mappings.filter (·.1 != k')).lookup k = _
    induction routing.mappings with
    | nil => rfl
    | cons mapping rest ih =>
      obtain ⟨k'', ref'⟩ := mapping
      by_cases hdropped : k'' = k'
      · subst hdropped
        have hne : (k == k'') = false := beq_false_of_ne fun he => hk he.symm
        simpa [List.lookup_cons, hne] using ih
      · have hkept : (k'' != k') = true := by simpa using hdropped
        rw [List.filter_cons_of_pos (by simpa using hdropped), List.lookup_cons, List.lookup_cons,
          ih]

theorem lookup_built (calls : List (RouterCall key)) (k : key.denote) :
    (RouterSpec.built calls).routing.mappings.lookup k = last (mapped k) calls := by
  induction calls using List.reverseRecOn with
  | nil => rfl
  | append_singleton calls c ih =>
    rw [built_concat, last_concat, ← ih]
    cases c with
    | map k' ref =>
      show ((RouterSpec.built calls).routing.map k' ref).mappings.lookup k = _
      rw [lookup_map, mapped]
      split <;> rfl
    | _ => rfl

/-- The choices of a router are those that were made last. -/
theorem routing_built (calls : List (RouterCall key)) :
    let routing := (RouterSpec.built calls).routing
    routing.fallback = last fallback? calls ∧
      routing.required = (last required? calls).getD true ∧
      routing.before = (last before? calls).getD "" ∧
      routing.after = (last after? calls).getD "" := by
  induction calls using List.reverseRecOn with
  | nil => exact ⟨rfl, rfl, rfl, rfl⟩
  | append_singleton calls c ih =>
    obtain ⟨hfallback, hrequired, hbefore, hafter⟩ := ih
    simp only [built_concat, last_concat]
    cases c with
    | fallback => exact ⟨rfl, hrequired, hbefore, hafter⟩
    | required => exact ⟨hfallback, rfl, hbefore, hafter⟩
    | before => exact ⟨hfallback, hrequired, rfl, hafter⟩
    | after => exact ⟨hfallback, hrequired, hbefore, rfl⟩
    | map | endpoint => exact ⟨hfallback, hrequired, hbefore, hafter⟩

theorem channelFor_built (calls : List (RouterCall key)) (k : key.denote) :
    (RouterSpec.built calls).routing.channelFor k = channel calls k := by
  obtain ⟨-, -, hbefore, hafter⟩ := routing_built calls
  unfold Routing.channelFor channel
  rw [lookup_built, hbefore, hafter]
  cases last (mapped k) calls <;> rfl

end Options

/-! ## Stages that succeed -/

/-- Built-in advice leaves a handler that succeeds alone: it runs once, and what is around it writes
to the journal only. -/
theorem exec_advised_of_ok {handler : Handler} {chain : List Advice} {info : StageInfo}
    {m : Message} (hchain : ∀ advice ∈ chain, advice.BuiltIn) {w : World}
    (hok : ∀ u, w.Writes u → ∃ outcome v, (handler info m).exec u = some (.ok outcome, v)) :
    ∃ u outcome u' v, w.Writes u ∧ (handler info m).exec u = some (.ok outcome, u') ∧
      u'.Writes v ∧ (handler.advised chain info m).exec w = some (.ok outcome, v) := by
  induction chain generalizing w with
  | nil =>
    obtain ⟨outcome, v, hexec⟩ := hok w (writes_self w)
    exact ⟨w, outcome, v, v, writes_self w, hexec, writes_self v, hexec⟩
  | cons advice chain ih =>
    rw [List.forall_mem_cons] at hchain
    rw [Handler.advised_cons]
    cases hchain.1 with
    | tracing =>
      have hstart : w.Writes { w with journal := w.journal.push (.logged (.received info m.id)) } :=
        ⟨_, rfl⟩
      obtain ⟨u, outcome, u', v, hu, hexec, hv, hinner⟩ :=
        ih hchain.2 fun u hu => hok u (writes_trans hstart hu)
      refine ⟨u, outcome, u', { v with journal := v.journal.push (.logged (.completed info)) },
        writes_trans hstart hu, hexec, writes_trans hv ⟨_, rfl⟩, ?_⟩
      simp [Advice.around, Advice.tracing, hinner]
    | strategy strategy =>
      obtain ⟨u, outcome, u', v, hu, hexec, hv, hinner⟩ := ih hchain.2 hok
      refine ⟨u, outcome, u', v, hu, hexec, hv, ?_⟩
      rw [Advice.around, ErrorStrategy.advice, Run.exec_loop, ErrorStrategy.attempt]
      simp [hinner]

namespace Runner

variable {r : Runner} {stage : FlowStage} {m : Message}

/-- However a stage ends that is one of several consumers of a channel, what was put into the
channel before it was its turn goes on if it succeeds, and nothing does if it fails. -/
theorem run_of_perform {ref : ChannelRef} {before after : List FlowStage}
    {rest earlier : List Parcel}
    {result : Except Failure (List Parcel)} {w₀ w v : World}
    (hconsumers : r.flow.consumers ref.name = before ++ stage :: after)
    (hearlier : (r.serve m before).exec w₀ = some (.ok earlier, w))
    (hperform : (r.perform (.invoke stage m)).exec w = some (result, v)) :
    (∀ failure, result = .error failure →
      (Work.run r.visit (⟨ref, m⟩ :: rest)).exec w₀ = some (.error failure, v)) ∧
    ∀ own later v', result = .ok own → (r.serve m after).exec v = some (.ok later, v') →
      (Work.run r.visit (⟨ref, m⟩ :: rest)).exec w₀ =
        (Work.run r.visit (rest ++ (earlier ++ (own ++ later)))).exec v' := by
  have hacts : r.acts ⟨ref, m⟩ =
      before.map (Act.invoke · m) ++ Act.invoke stage m :: after.map (Act.invoke · m) := by
    unfold acts
    dsimp only
    rw [hconsumers]
    cases before <;> simp
  rw [serve_eq] at hearlier
  rw [Work.run_cons, visit_eq, hacts, performAll_append, performAll, ← serve_eq r m after]
  constructor
  · rintro failure rfl
    simp [hearlier, hperform]
  · rintro own later v' rfl hlater
    simp [hearlier, hperform, hlater]

/-! ## Channels that exist -/

/-- A channel that a message can be put into: a stage of the flow consumes its name, or it is live,
or the registry has its name. -/
def Exists (r : Runner) (ref : ChannelRef) : Prop :=
  (∃ stage ∈ r.flow.stages, stage.input.name = ref.name) ∨ ref.isLive = true ∨
    (r.channels.get ref.name).isSome = true

theorem isResolvable_iff (r : Runner) (ref : ChannelRef) :
    r.isResolvable ref = true ↔ r.Exists ref := by
  have hconsumers : (r.flow.consumers ref.name).isEmpty = false ↔
      ∃ stage ∈ r.flow.stages, stage.input.name = ref.name := by
    rw [List.isEmpty_eq_false_iff_exists_mem]
    simp [Flow.consumers]
  have hresolve : (r.channels.resolve ref).isSome = true ↔
      ref.isLive = true ∨ (r.channels.get ref.name).isSome = true := by
    cases hlive : ref.isLive with
    | false => simp [resolve_eq_get hlive]
    | true =>
      cases ref with
      | live channel => simp [ChannelRegistry.resolve]
      | _ => cases hlive
  rw [isResolvable, Bool.or_eq_true, Bool.not_eq_true', hconsumers, hresolve]
  rfl

/-- A message in a channel that exists goes to the stages that consume it, or to a live channel. -/
theorem visit_of_exists {ref : ChannelRef} (h : r.Exists ref) :
    (∃ first rest, r.flow.consumers ref.name = first :: rest ∧
      r.visit ⟨ref, m⟩ = r.serve m (first :: rest)) ∨
    (r.flow.consumers ref.name = [] ∧ ∃ live, r.channels.resolve ref = some live ∧
      (r.destination ⟨ref, m⟩ = ref → r.visit ⟨ref, m⟩ = (do Run.send live m; return []))) := by
  cases hconsumers : r.flow.consumers ref.name with
  | cons first rest =>
    refine .inl ⟨first, rest, rfl, ?_⟩
    unfold visit
    rw [hconsumers]
  | nil =>
    refine .inr ⟨rfl, ?_⟩
    have hresolvable : r.isResolvable ref = true := (isResolvable_iff r ref).2 h
    rw [isResolvable, hconsumers] at hresolvable
    obtain ⟨live, hlive⟩ := Option.isSome_iff_exists.1 (by simpa using hresolvable)
    refine ⟨live, hlive, fun hdestination => ?_⟩
    rw [visit_eq_send_iff (p := ⟨ref, m⟩) hconsumers, hdestination]
    exact hlive

/-- A message in a channel that does not exist fails. -/
theorem visit_of_missing {ref : ChannelRef} (h : ¬ r.Exists ref)
    (hdestination : r.destination ⟨ref, m⟩ = ref) :
    r.visit ⟨ref, m⟩ = throw (.destination ref.name) := by
  have hmissing : r.isResolvable ref = false := by
    rw [← Bool.not_eq_true, isResolvable_iff]
    exact h
  rw [isResolvable, Bool.or_eq_false_iff] at hmissing
  have hconsumers : r.flow.consumers ref.name = [] := by simpa using hmissing.1
  have hresolve : r.channels.resolve ref = none := by simpa using hmissing.2
  rw [visit_of_free (p := ⟨ref, m⟩) hconsumers, deliver_eq, hdestination, resolve, hresolve]
  rfl

/-! ## Routers -/

open RouterCall in
/-- What a router whose options were made by some calls puts into channels for a message with a
key. -/
structure Routes (r : Runner) (stage : FlowStage) {key : KeyType} (calls : List (RouterCall key))
    (k : key.denote) (m : Message) (result : Except Failure (List Parcel)) : Prop where
  found : r.Exists (channel calls k) → result = .ok [⟨channel calls k, m⟩]
  fallen : ¬ r.Exists (channel calls k) → ∀ ref, last fallback? calls = some ref →
    result = .ok [⟨ref, m⟩]
  onward : ¬ r.Exists (channel calls k) → last fallback? calls = none →
    (last required? calls).getD true = false → result = .ok (stage.onward m)
  stranded : ¬ r.Exists (channel calls k) → last fallback? calls = none →
    (last required? calls).getD true = true →
    result = .error (.destination (channel calls k).name)

theorem routes_of_decision {key : KeyType} (calls : List (RouterCall key)) (k : key.denote) :
    r.Routes stage calls k m
      (r.emissions stage (.route ((RouterSpec.built calls).decision k m))) := by
  obtain ⟨hfallback, hrequired, -, -⟩ := routing_built calls
  have hexists := isResolvable_iff r (RouterCall.channel calls k)
  simp only [emissions, RouterSpec.decision, channelFor_built, hfallback, hrequired]
  constructor
  · intro hfound
    rw [if_pos (hexists.2 hfound)]
  · intro hmissing ref href
    rw [if_neg (mt hexists.1 hmissing), href]
  · intro hmissing hnone hfree
    rw [if_neg (mt hexists.1 hmissing), hnone, hfree]
    rfl
  · intro hmissing hnone hneeded
    rw [if_neg (mt hexists.1 hmissing), hnone, hneeded]
    rfl

/-- The handler of a router decides by the key of the payload. -/
theorem exec_route {input : DataType} {key : KeyType} {f : input.denote → Run key.denote}
    (calls : List (RouterCall key)) {value : input.denote} (hm : m.payload = .of input value)
    {info : StageInfo} {k : key.denote} {w u : World} (hkey : (f value).exec w = some (.ok k, u)) :
    ∃ v, u.Writes v ∧
      (Handler.route input f (RouterSpec.built calls).routing info m).exec w =
        some (.ok (.route ((RouterSpec.built calls).decision k m)), v) := by
  let channel := (RouterSpec.built calls).routing.channelFor k
  refine ⟨{ u with journal := u.journal.push (.logged (.routing info (key.text k) channel.name)) },
    ⟨_, rfl⟩, ?_⟩
  simp [Handler.route, Run.expect_of_type hm, hkey, RouterSpec.decision, channel]

end Runner

/-- Where routers send. Take any stage that a router was appended as, its options being made by any
calls, and a message of the declared type. Whatever advice is around it, its handler makes a
decision by the key of the payload, and carrying out this decision puts the message into the
channels that `Routes` says, or fails, and does nothing besides. With built-in advice this is what
the stage does as a whole: the key function is called once, and if there is no way for the message
the dispatch ends there, otherwise it goes on with what the stage put out. A channel that was found
takes the message: each stage that consumes it gets it, or it is sent to the live channel; a
fallback that does not exist is found out in the same dispatch. -/
theorem routed_as_built {input : DataType} {key : KeyType} {f : input.denote → Run key.denote}
    {calls : List (RouterCall key)} {stage : FlowStage}
    (hstage : stage.MadeBy (.route input key f (.built calls))) (r : Runner) {m : Message}
    {value : input.denote} (hm : m.payload = .of input value) :
    (∀ k w u, (f value).exec w = some (.ok k, u) → ∃ outcome v, u.Writes v ∧
      (stage.endpoint.handler stage.endpoint.info m).exec w = some (.ok outcome, v) ∧
      ∀ x, ∃ result y, r.Routes stage calls k m result ∧ x.Writes y ∧
        (r.forward stage outcome).exec x = some (result, y)) ∧
    ((∀ advice ∈ stage.endpoint.advice, advice.BuiltIn) →
      ∀ w, (∀ u, w.Writes u → ∃ k v, (f value).exec u = some (.ok k, v)) →
      ∃ u k u' result v, w.Writes u ∧ (f value).exec u = some (.ok k, u') ∧ u'.Writes v ∧
        r.Routes stage calls k m result ∧
        (r.perform (.invoke stage m)).exec w = some (result, v) ∧
        ∀ ref before after rest earlier w₀, r.flow.consumers ref.name = before ++ stage :: after →
          (r.serve m before).exec w₀ = some (.ok earlier, w) →
          (∀ failure, result = .error failure →
            (Work.run r.visit (⟨ref, m⟩ :: rest)).exec w₀ = some (.error failure, v)) ∧
          ∀ own later v', result = .ok own → (r.serve m after).exec v = some (.ok later, v') →
            (Work.run r.visit (⟨ref, m⟩ :: rest)).exec w₀ =
              (Work.run r.visit (rest ++ (earlier ++ (own ++ later)))).exec v') ∧
    (∀ ref, r.Exists ref →
      (∃ first rest, r.flow.consumers ref.name = first :: rest ∧
        r.visit ⟨ref, m⟩ = r.serve m (first :: rest)) ∨
      (r.flow.consumers ref.name = [] ∧ ∃ live, r.channels.resolve ref = some live ∧
        (r.destination ⟨ref, m⟩ = ref → r.visit ⟨ref, m⟩ = (do Run.send live m; return [])))) ∧
    ∀ ref, ¬ r.Exists ref → r.destination ⟨ref, m⟩ = ref →
      r.visit ⟨ref, m⟩ = throw (.destination ref.name) := by
  obtain ⟨request, hrequest, hhandler, -⟩ := hstage.endpoint
  cases hrequest
  have hexec : ∀ k w u, (f value).exec w = some (.ok k, u) → ∃ v, u.Writes v ∧
      (stage.endpoint.handler stage.endpoint.info m).exec w =
        some (.ok (.route ((RouterSpec.built calls).decision k m)), v) := by
    intro k w u hkey
    rw [hhandler]
    exact Runner.exec_route calls hm hkey
  refine ⟨?_, ?_, fun ref => Runner.visit_of_exists, fun ref => Runner.visit_of_missing⟩
  · intro k w u hkey
    obtain ⟨v, hv, hdecides⟩ := hexec k w u hkey
    refine ⟨_, v, hv, hdecides, fun x => ?_⟩
    obtain ⟨entries, hforward⟩ :=
      Runner.exec_forward r stage (.route ((RouterSpec.built calls).decision k m)) x
    exact ⟨_, _, Runner.routes_of_decision calls k, ⟨entries, rfl⟩, hforward⟩
  · intro hadvice w hkeys
    have hok : ∀ u, w.Writes u → ∃ outcome v,
        (stage.endpoint.handler stage.endpoint.info m).exec u = some (.ok outcome, v) := by
      intro u hu
      obtain ⟨k, v, hkey⟩ := hkeys u hu
      obtain ⟨v', -, hdecides⟩ := hexec k u v hkey
      exact ⟨_, v', hdecides⟩
    obtain ⟨u, outcome, u', v, hu, hruns, hv, hinvoke⟩ := exec_advised_of_ok hadvice hok
    obtain ⟨k, x, hkey⟩ := hkeys u hu
    obtain ⟨x', hx, hdecides⟩ := hexec k u x hkey
    rw [hruns] at hdecides
    cases hdecides
    obtain ⟨entries, hforward⟩ :=
      Runner.exec_forward r stage (.route ((RouterSpec.built calls).decision k m)) v
    have hperform : (r.perform (.invoke stage m)).exec w =
        some (r.emissions stage (.route ((RouterSpec.built calls).decision k m)),
          { v with journal := entries }) := by
      rw [Runner.perform, Run.exec_bind, Endpoint.invoke, hinvoke]
      exact hforward
    refine ⟨u, k, x, _, _, hu, hkey, writes_trans (writes_trans hx hv) ⟨entries, rfl⟩,
      Runner.routes_of_decision calls k, hperform, ?_⟩
    intro ref before after rest earlier w₀ hconsumers hearlier
    exact Runner.run_of_perform hconsumers hearlier hperform

end

open Sample

/-- A router for numbers that was mapped twice, in front of a bridge. -/
def remapped : List (RouterCall .number) :=
  [.map 1 (.named "a"), .before "no ", .map 1 (.named "b")]

def remappedStage : FlowStage :=
  ⟨.named "in", ⟨⟨"f.route#0", .route⟩, .number,
    .route .number (fun n => pure n) (RouterSpec.built remapped).routing,
    [Advice.tracing], none, none⟩⟩

def remappedFlow : Flow :=
  { id := "f"
    source := .channel "in" false
    input := .named "in"
    output := some (.named "out")
    stages :=
      [ remappedStage,
        ⟨.named "b", ⟨⟨"f.bridge#1", .bridge⟩, .payload, .bridge, [], none,
          some (.named "out")⟩⟩ ]
    components := .empty
    poller := .standard }

/-- The number that is mapped goes to the bridge, by its last mapping. Another one names its channel
itself, and fails: there is no such channel. -/
theorem routed_as_built_remapped :
    let r : Runner := ⟨0, remappedFlow, .empty, none⟩
    let m : Message := ⟨.fresh 0, .of .number 1, .at 0⟩
    let other : Message := ⟨.fresh 0, .of .number 7, .at 0⟩
    (∃ v, (r.perform (.invoke remappedStage m)).exec (.new 0) =
      some (.ok [⟨.named "b", m⟩], v)) ∧
    ∃ v, (r.dispatch (.named "in") other).exec (.new 0) =
      some (.error (.destination "no 7"), v) := by
  intro r m other
  have hmade : remappedStage.MadeBy (.route .number .number (fun n => pure n) (.built remapped)) :=
    ⟨_, "f", { FlowConfig.standard with logStages := true }, 0, rfl, rfl⟩
  have hadvice : ∀ advice ∈ remappedStage.endpoint.advice, advice.BuiltIn := by
    intro advice hmem
    cases List.mem_singleton.1 hmem
    exact .tracing
  constructor
  · obtain ⟨-, hperform, -⟩ := routed_as_built hmade r (show m.payload = .of .number 1 from rfl)
    obtain ⟨u, k, u', result, v, -, hkey, -, hroutes, hexec, -⟩ :=
      hperform hadvice (.new 0) fun u _ => ⟨1, u, rfl⟩
    cases hkey
    have hb : r.Exists (.named "b") := .inl ⟨_, List.mem_cons_of_mem _ List.mem_cons_self, rfl⟩
    have hresult : result = .ok [⟨.named "b", m⟩] := hroutes.found hb
    exact ⟨v, hresult ▸ hexec⟩
  · obtain ⟨-, hperform, -⟩ := routed_as_built hmade r (show other.payload = .of .number 7 from rfl)
    obtain ⟨u, k, u', result, v, -, hkey, -, hroutes, hexec, hruns⟩ :=
      hperform hadvice (.new 0) fun u _ => ⟨7, u, rfl⟩
    cases hkey
    have hmissing : ¬ r.Exists (.named "no 7") := by
      rw [← Runner.isResolvable_iff]
      decide
    have hresult : result = .error (.destination "no 7") := hroutes.stranded hmissing rfl rfl
    obtain ⟨hfails, -⟩ := hruns (.named "in") [] [] [] [] (.new 0) rfl rfl
    exact ⟨v, hfails _ hresult⟩

end MessageFlow
