import Mathlib.Data.List.ReduceOption
import MessageFlow.Proofs.Dispatch.Survivors
import MessageFlow.Proofs.Sample

/-!
# Sequences

The parts that a splitter makes of a message are numbered, and go on along the line one behind the
other. Every other stage makes at most one message of each, so the parts keep their places: a level
of the line is a row of slots, of which some have become empty (`Relays`). A round takes the row to
the next stage (`relays_of_round`), and as many rounds as there are stages take it to the end
(`relayed_of_rounds`). What stands in a slot has the number of the slot (`Placed`), since no stage
but a splitter touches the headers that say so.
-/

namespace MessageFlow

section

variable [PayloadTypes]

/-! ## Stages that make one message of one -/

/-- Whether a call asks for a stage that may make many messages of one. -/
def Factory.splits : Factory → Bool
  | split .. => true
  | _ => false

/-- An outcome of which one message goes on, or none, as the part of the same message and with the
same reply channel. -/
def Outcome.Steady (m : Message) (outcome : Outcome) : Prop :=
  ∃ slot : Option Message, outcome.onward = some slot.toList ∧
    ∀ q, slot = some q → q.headers.part = m.headers.part ∧
      q.headers.replyChannel = m.headers.replyChannel

/-- A stage that goes on with one message for one, or none. -/
def FlowStage.Steady (stage : FlowStage) : Prop :=
  ∀ m, (stage.endpoint.invoke m).Keeps (fun _ _ => True) (Outcome.Steady m)

section Steady

variable {f : Factory} {request : StageRequest} {info : StageInfo} {m : Message}

theorem few_sift {accepts : Run Bool} (rejection : Rejection) :
    (do if ← accepts then return .reply m else Handler.reject rejection info m :
      Run Outcome).Keeps (fun _ _ => True) fun outcome => outcome.passed.length ≤ 1 := by
  refine keeps_bind frame_true (keeps_anything _) fun accepted _ => ?_
  cases accepted with
  | true => exact keeps_pure frame_true (Nat.le_refl 1)
  | false =>
    simp only [Bool.false_eq_true, if_false, Handler.reject]
    cases rejection.raises with
    | true => exact keeps_throw frame_true _
    | false =>
      refine keeps_bind frame_true (keeps_anything _) fun _ _ => keeps_pure frame_true ?_
      cases rejection.channel <;> simp [Outcome.passed]

theorem few_convert (target : ConvertTarget) : (target.handler info m).Keeps (fun _ _ => True)
    fun outcome => outcome.passed.length ≤ 1 := by
  unfold ConvertTarget.handler
  cases m.payload.is target.type with
  | true => exact keeps_pure frame_true (Nat.le_refl 1)
  | false =>
    cases target.convert m.payload with
    | error failure => exact keeps_throw frame_true failure
    | ok value =>
      refine keeps_bind frame_true (keeps_anything _) fun _ _ => ?_
      exact keeps_bind frame_true (keeps_anything _) fun _ _ =>
        keeps_pure frame_true (Nat.le_refl 1)

/-- Only splitters make many messages of one. -/
theorem few_of_request (hrequest : f.request = .ok request) (hf : f.splits = false) :
    (request.handler info m).Keeps (fun _ _ => True) fun outcome =>
      outcome.passed.length ≤ 1 := by
  have hkept := frame_true
  have hany : ∀ {α : Type} (run : Run α), run.Keeps (fun _ _ => True) fun _ => True :=
    fun run => keeps_anything run
  cases f with
  | transform input output f spec =>
    cases hrequest
    refine keeps_bind hkept (hany _) fun value _ => keeps_bind hkept (hany _) fun result _ => ?_
    cases result with
    | error cause => exact keeps_throw hkept _
    | ok result => exact keeps_bind hkept (hany _) fun _ _ => keeps_pure hkept (Nat.le_refl 1)
  | transformPayload input f =>
    cases input with
    | none => cases hrequest
    | some type =>
      cases hrequest
      refine keeps_bind hkept (hany _) fun _ _ => keeps_bind hkept (hany _) fun payload _ => ?_
      exact keeps_bind hkept (hany _) fun _ _ => keeps_pure hkept (Nat.le_refl 1)
  | filter input accepts spec =>
    cases hrequest
    exact keeps_bind hkept (hany _) fun value _ => few_sift spec.rejection
  | filterPayload input accepts =>
    cases input with
    | none => cases hrequest
    | some type =>
      cases hrequest
      exact keeps_bind hkept (hany _) fun _ _ => few_sift .drop
  | split => cases hf
  | route input key f spec =>
    cases hrequest
    refine keeps_bind hkept (hany _) fun value _ => keeps_bind hkept (hany _) fun k _ => ?_
    exact keeps_bind hkept (hany _) fun _ _ => keeps_pure hkept (Nat.le_refl 1)
  | convert target spec =>
    cases hrequest
    exact few_convert target
  | convertTo type =>
    cases type with
    | none => cases hrequest
    | some type =>
      rw [Factory.request] at hrequest
      split at hrequest
      · next target _ =>
        cases hrequest
        exact few_convert target
      · cases hrequest
  | handle input f spec =>
    cases hrequest
    refine keeps_bind hkept (hany _) fun value _ => keeps_bind hkept (hany _) fun _ _ => ?_
    exact keeps_pure hkept (Nat.zero_le 1)
  | bridge spec =>
    cases hrequest
    exact keeps_pure hkept (Nat.le_refl 1)
  | log level category =>
    cases hrequest
    exact keeps_bind hkept (hany _) fun _ _ => keeps_pure hkept (Nat.le_refl 1)

/-- A stage that neither splits messages nor sends them elsewhere makes one of one, or none. -/
theorem steady_of_made {stage : FlowStage} (hmade : stage.MadeBy f) (hsplits : f.splits = false)
    (hdiverts : f.diverts = false)
    (hadvice : ∀ advice ∈ stage.endpoint.advice, advice.BuiltIn) : stage.Steady := by
  obtain ⟨request, hrequest, hhandler, -⟩ := hmade.endpoint
  intro m
  unfold Endpoint.invoke
  rw [hhandler]
  refine keeps_advised hadvice ?_ ⟨none, rfl, by simp⟩
  intro w result v hexec
  refine ⟨trivial, fun outcome hresult => ?_⟩
  have honward := (onward_of_request hrequest hdiverts w result v hexec).2 outcome hresult
  have hfew : outcome.passed.length ≤ 1 :=
    (few_of_request hrequest hsplits w result v hexec).2 outcome hresult
  have hhands : f.Hands stage m outcome :=
    (hands_of_request hrequest w result v hexec).2 outcome hresult
  have hsequences : f.sequences = false := by
    cases f with
    | split => cases hsplits
    | _ => rfl
  obtain ⟨ms, hms⟩ := Option.isSome_iff_exists.1 honward
  rw [passed_of_onward hms] at hfew
  have hslot : ∃ slot : Option Message, ms = slot.toList := by
    rcases ms with _ | ⟨q, _ | ⟨q', rest⟩⟩
    · exact ⟨none, rfl⟩
    · exact ⟨some q, rfl⟩
    · simp at hfew
  obtain ⟨slot, rfl⟩ := hslot
  refine ⟨slot, hms, ?_⟩
  rintro q rfl
  have hinherits := hhands 0 q (by rw [passed_of_onward hms]; rfl)
  refine ⟨?_, hinherits.replyChannel⟩
  rw [hinherits.part]
  simp [Hop.sequences, hsequences]

end Steady

/-! ## Splitters -/

/-- The parts of a message, numbered from one on. -/
structure PartsOf (whole : Message) (payloads : List Payload) (parts : List Message) : Prop where
  length : parts.length = payloads.length
  part : ∀ i q, parts[i]? = some q → payloads[i]? = some q.payload ∧
    q.headers.part = (some whole.id, some (i + 1), some payloads.length) ∧
    q.headers.replyChannel = whole.headers.replyChannel

theorem keeps_expect {info : StageInfo} {input : DataType} {m : Message} :
    (Run.expect info input m).Keeps (fun _ _ => True) fun value =>
      m.payload = .of input value := by
  by_cases htype : m.payload.type = input
  · obtain ⟨value, hvalue⟩ := Payload.exists_of_type htype
    rw [Run.expect_of_type hvalue]
    exact keeps_pure frame_true hvalue
  · rw [Run.expect_of_ne htype]
    exact keeps_throw frame_true _

/-- A splitter that numbers makes a part of every item that its function yields, or its advice drops
the message. -/
theorem keeps_splitter {stage : FlowStage} {input item : DataType}
    {f : input.denote → Run (List item.denote)} {spec : SplitterSpec}
    (hmade : stage.MadeBy (.split input item f spec)) (hsequenced : spec.sequenced = true)
    (hadvice : ∀ advice ∈ stage.endpoint.advice, advice.BuiltIn) (m : Message) :
    (stage.endpoint.invoke m).Keeps (fun _ _ => True) fun outcome =>
      outcome = .discard m none ∨ ∃ value items parts, m.payload = .of input value ∧
        (∃ w v, (f value).exec w = some (.ok items, v)) ∧ outcome = .many parts ∧
        PartsOf m (items.map (.of item)) parts := by
  obtain ⟨request, hrequest, hhandler, -⟩ := hmade.endpoint
  cases hrequest
  unfold Endpoint.invoke
  rw [hhandler]
  refine keeps_advised hadvice ?_ (.inl rfl)
  refine keeps_bind frame_true keeps_expect fun value hvalue => ?_
  refine keeps_bind frame_true (keeps_exec (f value)) fun items hitems => ?_
  refine keeps_bind frame_true (keeps_parts frame_true m spec.sequenced items.length 1 _)
    fun parts hparts => keeps_pure frame_true (.inr ⟨value, items, parts, hvalue, hitems, rfl, ?_⟩)
  obtain ⟨hlength, hparts⟩ := hparts
  refine ⟨hlength, fun i q hi => ?_⟩
  obtain ⟨id, now, payload, hpayload, rfl⟩ := hparts i q hi
  rw [hsequenced, List.length_map, Nat.add_comm i 1]
  exact ⟨hpayload, rfl, rfl⟩

/-! ## Slots -/

/-- What a stage makes of the messages in a row of slots, one after the other, each in the world
that is left after the one before it. A slot that a stage leaves empty stays empty. -/
inductive Relays (stage : FlowStage) :
    World → List (Option Message) → List (Option Message) → World → Prop where
  | done (w : World) : Relays stage w [] [] w
  | empty (slots slots' : List (Option Message)) (w v : World) : Relays stage w slots slots' v →
      Relays stage w (none :: slots) (none :: slots') v
  | handed (m : Message) (slot : Option Message) (slots slots' : List (Option Message))
      (outcome : Outcome) (w u v : World) :
      (stage.endpoint.invoke m).exec w = some (.ok outcome, u) →
      outcome.onward = some slot.toList → Relays stage u slots slots' v →
      Relays stage w (some m :: slots) (slot :: slots') v

/-- What stages make of a row of slots, one stage after the other. -/
inductive Relayed : List FlowStage →
    World → List (Option Message) → List (Option Message) → World → Prop where
  | done (w : World) (slots : List (Option Message)) : Relayed [] w slots slots w
  | stage (stage : FlowStage) (stages : List FlowStage)
      (slots middle slots' : List (Option Message)) (w u v : World) :
      Relays stage w slots middle u → Relayed stages u middle slots' v →
      Relayed (stage :: stages) w slots slots' v

/-- Messages in slots that are numbered from some number on: what stands in a slot is the part of
this number, and has the reply channel of all. -/
def Placed (whole : MessageId) (size : Nat) (reply : Option ChannelRef) :
    Nat → List (Option Message) → Prop
  | _, [] => True
  | number, slot :: slots =>
    (∀ q, slot = some q → q.headers.part = (some whole, some number, some size) ∧
      q.headers.replyChannel = reply) ∧ Placed whole size reply (number + 1) slots

section Slots

variable {stage : FlowStage} {stages : List FlowStage} {slots slots' : List (Option Message)}
  {w v : World} {whole : MessageId} {size number : Nat} {reply : Option ChannelRef}

theorem placed_iff : Placed whole size reply number slots ↔
    ∀ i q, slots[i]? = some (some q) →
      q.headers.part = (some whole, some (number + i), some size) ∧
        q.headers.replyChannel = reply := by
  induction slots generalizing number with
  | nil => simp [Placed]
  | cons slot slots ih =>
    rw [Placed, ih]
    constructor
    · rintro ⟨hfirst, hrest⟩ i q hi
      cases i with
      | zero => exact hfirst q (Option.some.inj hi)
      | succ i =>
        rw [Nat.add_left_comm, Nat.add_comm i]
        exact hrest i q hi
    · intro h
      refine ⟨fun q hq => h 0 q (by rw [hq]; rfl), fun i q hi => ?_⟩
      have hnext := h (i + 1) q hi
      rwa [Nat.add_left_comm, Nat.add_comm i] at hnext

theorem length_of_relays (h : Relays stage w slots slots' v) : slots'.length = slots.length := by
  induction h with
  | done => rfl
  | empty _ _ _ _ _ ih => exact congrArg (· + 1) ih
  | handed _ _ _ _ _ _ _ _ _ _ _ ih => exact congrArg (· + 1) ih

theorem length_of_relayed (h : Relayed stages w slots slots' v) :
    slots'.length = slots.length := by
  induction h with
  | done => rfl
  | stage _ _ _ _ _ _ _ _ hrelays _ ih => exact ih.trans (length_of_relays hrelays)

/-- A steady stage leaves everything in its place. -/
theorem placed_of_relays (hsteady : stage.Steady) (h : Relays stage w slots slots' v)
    (hslots : Placed whole size reply number slots) :
    Placed whole size reply number slots' := by
  induction h generalizing number with
  | done => trivial
  | empty slots slots' w v _ ih => exact ⟨by simp, ih hslots.2⟩
  | handed m slot slots slots' outcome w u v hexec honward _ ih =>
    obtain ⟨slot', honward', hslot'⟩ := (hsteady m w _ u hexec).2 outcome rfl
    have hsame : slot = slot' := by
      rw [honward] at honward'
      cases slot <;> cases slot' <;> simp_all
    subst hsame
    obtain ⟨hpart, hreply⟩ := hslots.1 m rfl
    refine ⟨fun q hq => ?_, ih hslots.2⟩
    obtain ⟨hpart', hreply'⟩ := hslot' q hq
    exact ⟨hpart'.trans hpart, hreply'.trans hreply⟩

theorem placed_of_relayed (hsteady : ∀ stage ∈ stages, stage.Steady)
    (h : Relayed stages w slots slots' v) (hslots : Placed whole size reply number slots) :
    Placed whole size reply number slots' := by
  induction h with
  | done => exact hslots
  | stage stage stages slots middle slots' w u v hrelays _ ih =>
    rw [List.forall_mem_cons] at hsteady
    exact ih hsteady.2 (placed_of_relays hsteady.1 hrelays hslots)

/-- The messages in a row of slots have increasing numbers, all of them if no slot is empty. -/
theorem numbers_of_placed (h : Placed whole size reply number slots) :
    ∃ numbers : List Nat,
      slots.reduceOption.map (·.headers.part) =
        numbers.map (fun k => (some whole, some k, some size)) ∧
      numbers.Sublist (List.range' number slots.length) ∧
      (none ∉ slots → numbers = List.range' number slots.length) := by
  induction slots generalizing number with
  | nil => exact ⟨[], rfl, .refl _, fun _ => rfl⟩
  | cons slot slots ih =>
    obtain ⟨numbers, hparts, hsublist, hall⟩ := ih h.2
    rw [List.length_cons, List.range'_succ]
    cases slot with
    | none => exact ⟨numbers, hparts, hsublist.cons number, fun hfull => absurd (by simp) hfull⟩
    | some q =>
      refine ⟨number :: numbers, ?_, hsublist.cons_cons number, fun hfull => ?_⟩
      · rw [List.reduceOption_cons_of_some, List.map_cons, List.map_cons, hparts, (h.1 q rfl).1]
      · rw [hall fun hnone => hfull (List.mem_cons_of_mem _ hnone)]

end Slots

/-! ## Stages that compute -/

section Computing

variable {V E : Type} {view : Message → V} {blame : Failure → E} {reply : Option ChannelRef}
  {stages : List FlowStage} {slots slots' : List (Option Message)} {w v : World}

/-- What a stage made of a message that it is a function of is what the function makes. -/
theorem computed_of_exec {invoke : Message → Run Outcome} {f : V → Except E (List V)}
    (hcomputes : ComputesFor view blame reply invoke f) {m : Message}
    (hm : m.headers.replyChannel = reply) {outcome : Outcome}
    (hexec : (invoke m).exec w = some (.ok outcome, v)) :
    ∃ ms, outcome.onward = some ms ∧ f (view m) = .ok (ms.map view) ∧
      ∀ q ∈ ms, q.headers.replyChannel = reply := by
  have hfollows := hcomputes m hm
  cases hlook : f (view m) with
  | error e =>
    rw [hlook] at hfollows
    obtain ⟨failure, u, hfails, -⟩ := hfollows w
    cases hexec.symm.trans hfails
  | ok vs =>
    rw [hlook] at hfollows
    obtain ⟨outcome', u, hok, ⟨ms, hms, hviews, hreplies⟩, -⟩ := hfollows w
    cases hexec.symm.trans hok
    exact ⟨ms, hms, by rw [hviews], hreplies⟩

theorem computed_of_relays {stage : FlowStage} {f : V → Except E (List V)}
    (hcomputes : ComputesFor view blame reply stage.endpoint.invoke f)
    (h : Relays stage w slots slots' v)
    (hslots : ∀ m, some m ∈ slots → m.headers.replyChannel = reply) :
    (∀ m, some m ∈ slots' → m.headers.replyChannel = reply) ∧
      ∀ (i : Nat) slot, slots[i]? = some slot → ∃ slot', slots'[i]? = some slot' ∧
        (slot.toList.map view).flatMapM f = .ok (slot'.toList.map view) := by
  induction h with
  | done => exact ⟨by simp, by simp⟩
  | empty slots slots' w v _ ih =>
    obtain ⟨hreplies, hcomputed⟩ := ih fun m hm => hslots m (List.mem_cons_of_mem _ hm)
    refine ⟨by simpa using hreplies, fun i slot hi => ?_⟩
    cases i with
    | zero =>
      cases hi
      exact ⟨none, rfl, rfl⟩
    | succ i => exact hcomputed i slot hi
  | handed m slot slots slots' outcome w u v hexec honward _ ih =>
    obtain ⟨hreplies, hcomputed⟩ := ih fun m hm => hslots m (List.mem_cons_of_mem _ hm)
    obtain ⟨ms, hms, hf, hreply⟩ :=
      computed_of_exec hcomputes (hslots m List.mem_cons_self) hexec
    rw [honward] at hms
    cases hms
    refine ⟨fun q hq => ?_, fun i slot' hi => ?_⟩
    · rcases List.mem_cons.1 hq with rfl | hq
      · exact hreply q (by simp)
      · exact hreplies q hq
    · cases i with
      | zero =>
        cases hi
        refine ⟨slot, rfl, ?_⟩
        simp [List.flatMapM_cons, hf]
      | succ i => exact hcomputed i slot' hi

/-- Stages that are functions make of each message what the functions make, composed. -/
theorem through_of_relayed {g : FlowStage → V → Except E (List V)}
    (hcomputes : ∀ stage ∈ stages, ComputesFor view blame reply stage.endpoint.invoke (g stage))
    (h : Relayed stages w slots slots' v)
    (hslots : ∀ m, some m ∈ slots → m.headers.replyChannel = reply) :
    ∀ (i : Nat) slot, slots[i]? = some slot → ∃ slot', slots'[i]? = some slot' ∧
      (slot.toList.map view).flatMapM (through g stages) = .ok (slot'.toList.map view) := by
  induction h with
  | done w slots => exact fun i slot hi => ⟨slot, hi, flatMapM_singletons _⟩
  | stage stage stages slots middle slots' w u v hrelays _ ih =>
    rw [List.forall_mem_cons] at hcomputes
    obtain ⟨hreplies, hcomputed⟩ := computed_of_relays hcomputes.1 hrelays hslots
    intro i slot hi
    obtain ⟨slot', hi', hfirst⟩ := hcomputed i slot hi
    obtain ⟨slot'', hi'', hrest⟩ := ih hcomputes.2 hreplies i slot' hi'
    refine ⟨slot'', hi'', ?_⟩
    show (slot.toList.map view).flatMapM
      (fun v => g stage v >>= fun vs => vs.flatMapM (through g stages)) = _
    rw [← flatMapM_flatMapM_eq_ok, hfirst]
    exact hrest

end Computing

/-! ## Along a line -/

namespace Runner

variable {r : Runner} {stage : FlowStage} {stages : List FlowStage}
  {slots : List (Option Message)} {ref next out : ChannelRef} {ps : List Parcel} {w v : World}

/-- A round that does not fail gives the messages of a level to their stage, each in its place. -/
theorem relays_of_round (hserved : r.flow.consumers ref.name = [stage]) (hsteady : stage.Steady)
    (hout : stage.endpoint.output = some next)
    (h : (Work.round r.visit (slots.reduceOption.map (Parcel.mk ref))).exec w =
      some (.ok ps, v)) :
    ∃ slots', ps = slots'.reduceOption.map (Parcel.mk next) ∧ Relays stage w slots slots' v := by
  induction slots generalizing w ps with
  | nil =>
    cases h
    exact ⟨[], rfl, .done _⟩
  | cons slot slots ih =>
    cases slot with
    | none =>
      obtain ⟨slots', hps, hrelays⟩ := ih h
      exact ⟨none :: slots', hps, .empty slots slots' w v hrelays⟩
    | some m =>
      rw [List.reduceOption_cons_of_some, List.map_cons, Work.round] at h
      obtain ⟨first, u, hvisit, hnext⟩ := Run.ok_of_bind h
      obtain ⟨later, t, hround, hjoin⟩ := Run.ok_of_bind hnext
      cases hjoin
      rw [visit_of_one hserved] at hvisit
      obtain ⟨outcome, t, hinvoke, hforward⟩ := Run.ok_of_bind hvisit
      obtain ⟨slot, honward, -⟩ := (hsteady m w _ t hinvoke).2 outcome rfl
      rw [forward_eq hout honward] at hforward
      cases hforward
      obtain ⟨slots', rfl, hrelays⟩ := ih hround
      refine ⟨slot :: slots', ?_, .handed m slot slots slots' outcome w _ v hinvoke honward hrelays⟩
      cases slot <;> simp

/-- Rounds that do not fail take the messages of a level to the end of the line, each in its
place. -/
theorem relayed_of_rounds
    (hserved : ∀ stage ∈ stages, r.flow.consumers stage.input.name = [stage])
    (hsteady : ∀ stage ∈ stages, stage.Steady) (hline : Line (some ref) stages (some out))
    (h : (Work.rounds r.visit stages.length (slots.reduceOption.map (Parcel.mk ref))).exec w =
      some (.ok ps, v)) :
    ∃ slots', ps = slots'.reduceOption.map (Parcel.mk (reached ref stages)) ∧
      Relayed stages w slots slots' v := by
  induction stages generalizing slots ref w with
  | nil =>
    cases h
    exact ⟨slots, rfl, .done _ slots⟩
  | cons stage stages ih =>
    rw [List.forall_mem_cons] at hserved hsteady
    obtain ⟨next, hout⟩ := exists_entrance hline.2
    obtain ⟨further, u, hround, hrounds⟩ := Run.ok_of_bind h
    have hname : r.flow.consumers ref.name = [stage] := by
      rw [Option.some.inj hline.1]
      exact hserved.1
    obtain ⟨middle, rfl, hrelays⟩ := relays_of_round hname hsteady.1 hout hround
    obtain ⟨slots', hps, hrelayed⟩ := ih hserved.2 hsteady.2 (hout ▸ hline.2) hrounds
    refine ⟨slots', ?_, .stage stage stages slots middle slots' w u v hrelays hrelayed⟩
    rw [hps, reached, hout, Option.getD_some]

/-- Messages that no stage takes, and that all have one destination, are at the end of one queue if
none of them is refused. -/
theorem posted_of_run (hfree : ∀ p ∈ ps, r.flow.consumers p.channel.name = [])
    (hsame : ∀ p ∈ ps, r.destination p = out)
    (h : (Work.run r.visit ps).exec w = some (.ok (), v)) :
    ∃ live, (∀ p ∈ ps, r.channels.resolve (r.destination p) = some live) ∧
      v.channels = w.posted live (ps.map Parcel.message) := by
  induction ps generalizing w with
  | nil =>
    rw [Work.run_nil] at h
    cases h
    exact ⟨⟨0, out.name⟩, by simp, (posted_nil _ _).symm⟩
  | cons p ps ih =>
    rw [List.forall_mem_cons] at hfree hsame
    rw [Work.run_cons, visit_of_free hfree.1, bind_assoc, deliver_eq, bind_assoc, hsame.1] at h
    obtain ⟨live, u, hresolve, hrest⟩ := Run.ok_of_bind h
    have hlive : r.channels.resolve out = some live ∧ u = w := by
      unfold Runner.resolve at hresolve
      cases hfound : r.channels.resolve out with
      | none => simp [hfound] at hresolve
      | some live' =>
        rw [hfound] at hresolve
        cases hresolve
        exact ⟨rfl, rfl⟩
    obtain ⟨hlive, rfl⟩ := hlive
    obtain ⟨⟨⟩, t, hsend, hrest⟩ := Run.ok_of_bind hrest
    rw [pure_bind, List.append_nil] at hrest
    rw [exec_send_eq] at hsend
    have haccepts : live.accepts u p.message.payload.type = .ok () := by
      cases hrefused : live.accepts u p.message.payload.type with
      | ok => rfl
      | error failure => simp [hrefused] at hsend
    rw [haccepts] at hsend
    cases hsend
    obtain ⟨live', hlives, hposted⟩ := ih hfree.2 hsame.2 hrest
    refine ⟨live, ?_, ?_⟩
    · intro q hq
      rcases List.mem_cons.1 hq with rfl | hq
      · rw [hsame.1, hlive]
      · rw [hsame.2 q hq, hlive]
    · cases ps with
      | nil =>
        rw [Work.run_nil] at hrest
        cases hrest
        rfl
      | cons q ps =>
        have hq := hlives q List.mem_cons_self
        rw [hsame.2 q List.mem_cons_self, hlive] at hq
        cases hq
        rw [hposted, posted_append (w := u) rfl]
        rfl

/-- Where a message is delivered to that was put into a channel depends on the reply channel that it
asks for. -/
theorem destination_congr {q q' : Message}
    (h : q.headers.replyChannel = q'.headers.replyChannel) :
    r.destination ⟨ref, q⟩ = r.destination ⟨ref, q'⟩ := by
  unfold destination
  dsimp only
  rw [h]

end Runner

/-! ## Flows -/

/-- What comes of the parts of a message behind its splitter. Each of them goes through the stages
that are left, one stage after the other, and the numbers of those that come to the end say which
parts they were. -/
structure Sequenced (after : List FlowStage) (whole : Message) (payloads : List Payload)
    (parts : List Message) (w : World) (slots : List (Option Message)) (v : World) : Prop where
  made : PartsOf whole payloads parts
  relayed : Relayed after w (parts.map some) slots v
  length : slots.length = payloads.length
  numbered : ∀ i q, slots[i]? = some (some q) →
    q.headers.part = (some whole.id, some (i + 1), some payloads.length)
  increasing : ∃ numbers : List Nat,
    slots.reduceOption.map (·.headers.part) =
      numbers.map (fun k => (some whole.id, some k, some payloads.length)) ∧
    numbers.Pairwise (· < ·) ∧ (∀ k ∈ numbers, 1 ≤ k ∧ k ≤ payloads.length) ∧
    (none ∉ slots → numbers = List.range' 1 payloads.length)
  computed : ∀ (V E : Type) (view : Message → V) (blame : Failure → E)
    (g : FlowStage → V → Except E (List V)),
    (∀ stage ∈ after,
      ComputesFor view blame whole.headers.replyChannel stage.endpoint.invoke (g stage)) →
    ∀ (i : Nat) part, parts[i]? = some part → ∃ slot, slots[i]? = some slot ∧
      through g after (view part) = .ok (slot.toList.map view)

theorem sequenced_of_relayed {after : List FlowStage} {whole : Message} {payloads : List Payload}
    {parts : List Message} {w v : World} {slots : List (Option Message)}
    (hsteady : ∀ stage ∈ after, stage.Steady) (hparts : PartsOf whole payloads parts)
    (hrelayed : Relayed after w (parts.map some) slots v) :
    Sequenced after whole payloads parts w slots v ∧
      ∀ q, some q ∈ slots → q.headers.replyChannel = whole.headers.replyChannel := by
  have hpart : ∀ (i : Nat) q, (parts.map some)[i]? = some (some q) → parts[i]? = some q := by
    intro i q hi
    rw [List.getElem?_map, Option.map_eq_some_iff] at hi
    obtain ⟨q', hq', he⟩ := hi
    rw [hq', Option.some.inj he]
  have hstart : Placed whole.id payloads.length whole.headers.replyChannel 1
      (parts.map some) := by
    refine placed_iff.2 fun i q hi => ?_
    obtain ⟨-, hheaders, hreply⟩ := hparts.part i q (hpart i q hi)
    exact ⟨by rw [hheaders, Nat.add_comm], hreply⟩
  have hplaced := placed_of_relayed hsteady hrelayed hstart
  have hlength : slots.length = payloads.length := by
    rw [length_of_relayed hrelayed, List.length_map, hparts.length]
  refine ⟨⟨hparts, hrelayed, hlength, fun i q hi => ?_, ?_, ?_⟩, fun q hq => ?_⟩
  · rw [(placed_iff.1 hplaced i q hi).1, Nat.add_comm]
  · obtain ⟨numbers, hheaders, hsublist, hall⟩ := numbers_of_placed hplaced
    rw [hlength] at hsublist hall
    refine ⟨numbers, hheaders, List.Pairwise.sublist hsublist List.pairwise_lt_range',
      fun k hk => ?_, hall⟩
    have hmem := List.mem_range'_1.1 (hsublist.subset hk)
    omega
  · intro V E view blame g hcomputes i part hi
    have hslots : ∀ m, some m ∈ parts.map some →
        m.headers.replyChannel = whole.headers.replyChannel := by
      intro m hm
      obtain ⟨j, hj⟩ := List.getElem?_of_mem hm
      exact (placed_iff.1 hstart j m hj).2
    obtain ⟨slot, hslot, hthrough⟩ := through_of_relayed hcomputes hrelayed hslots i (some part)
      (by rw [List.getElem?_map, hi]; rfl)
    refine ⟨slot, hslot, ?_⟩
    obtain ⟨first, rest, hfirst, hrest, happend⟩ := flatMapM_cons_eq_ok.1 hthrough
    have hnil : rest = [] := (Except.ok.inj hrest).symm
    rw [hfirst, ← happend, hnil, List.append_nil]
  · obtain ⟨j, hj⟩ := List.getElem?_of_mem hq
    exact (placed_iff.1 hplaced j q hj).2

/-- Sequences survive. A flow leads along a line over one splitter that numbers, and over stages
that neither split messages nor send them elsewhere; all advice is built in. If a dispatch does not
fail, then the message was dropped on the way to the splitter or by the advice around it, and
nothing is delivered, or it entered the splitter as `whole`, whose function yielded items. The
parts, one for each item, went through the stages behind the splitter, each stage taking what was
left of them in order; what came to the end was delivered to one live channel, in this order. -/
theorem sequences_survive {r : Runner} {skipped before after : List FlowStage}
    {splitter : FlowStage} {input item : DataType} {f : input.denote → Run (List item.denote)}
    {spec : SplitterSpec} (hstages : r.flow.stages = skipped ++ (before ++ splitter :: after))
    {ref out : ChannelRef} (hline : Line (some ref) (before ++ splitter :: after) (some out))
    (hdistinct : (r.flow.stages.map (·.input.name) ++ [out.name]).Nodup)
    (hsplitter : splitter.MadeBy (.split input item f spec)) (hsequenced : spec.sequenced = true)
    (hothers : ∀ stage ∈ before ++ after, ∃ g : Factory, stage.MadeBy g ∧ g.splits = false ∧
      g.diverts = false)
    (hadvice : r.flow.BuiltIn) {m : Message} {w v : World}
    (h : (r.dispatch ref m).exec w = some (.ok (), v)) :
    ∃ (qs : List Message) (live : LiveRef) (u : World), v.channels = u.posted live qs ∧
      (∀ q ∈ qs, r.channels.resolve
        (r.destination ⟨reached ref (before ++ splitter :: after), q⟩) = some live) ∧
      ((qs = [] ∧ Relayed before w [some m] [none] u) ∨
        ∃ whole x, Relayed before w [some m] [some whole] x ∧
          ((qs = [] ∧
            (splitter.endpoint.invoke whole).exec x = some (.ok (.discard whole none), u)) ∨
          ∃ value items parts y slots, whole.payload = .of input value ∧
            (∃ z z', (f value).exec z = some (.ok items, z')) ∧
            (splitter.endpoint.invoke whole).exec x = some (.ok (.many parts), y) ∧
            Sequenced after whole (items.map (.of item)) parts y slots u ∧
            qs = slots.reduceOption)) := by
  have hmem : ∀ stage ∈ before ++ splitter :: after, stage ∈ r.flow.stages := by
    intro stage hstage
    rw [hstages]
    exact List.mem_append_right skipped hstage
  have hserved : ∀ stage ∈ before ++ splitter :: after,
      r.flow.consumers stage.input.name = [stage] :=
    fun stage hstage => Flow.consumers_of_mem hdistinct (hmem stage hstage)
  have hsteady : ∀ stage ∈ before ++ after, stage.Steady := by
    intro stage hstage
    obtain ⟨g, hmade, hsplits, hdiverts⟩ := hothers stage hstage
    refine steady_of_made hmade hsplits hdiverts (hadvice stage (hmem stage ?_))
    rcases List.mem_append.1 hstage with hbefore | hafter
    · exact List.mem_append_left _ hbefore
    · exact List.mem_append_right _ (List.mem_cons_of_mem _ hafter)
  have hhere : splitter ∈ before ++ splitter :: after :=
    List.mem_append_right _ List.mem_cons_self
  have hbehind : Line splitter.endpoint.output after (some out) := (line_suffix hline).2
  obtain ⟨next, hout⟩ := exists_entrance hbehind
  rw [hout] at hbehind
  have hend : reached ref (before ++ splitter :: after) = reached next after := by
    rw [reached_append, reached, hout, Option.getD_some]
  -- Ahead of the splitter.
  rw [Runner.dispatch, Work.run_eq_rounds r.visit before.length] at h
  obtain ⟨ps, x, hrounds, hrest⟩ := Run.ok_of_bind h
  have hbefore : Line (some ref) before (some splitter.input) := line_prefix hline
  have hstart : [(⟨ref, m⟩ : Parcel)] = [some m].reduceOption.map (Parcel.mk ref) := rfl
  rw [hstart] at hrounds
  obtain ⟨slots, rfl, hrelayed⟩ := Runner.relayed_of_rounds
    (fun stage hstage => hserved stage (List.mem_append_left _ hstage))
    (fun stage hstage => hsteady stage (List.mem_append_left _ hstage)) hbefore hrounds
  obtain ⟨slot, rfl⟩ := List.length_eq_one_iff.1 (length_of_relayed hrelayed)
  cases slot with
  | none =>
    have hdone : v = x := by
      rw [List.reduceOption_cons_of_none, List.reduceOption_nil, List.map_nil,
        Work.run_nil] at hrest
      cases hrest
      rfl
    subst hdone
    exact ⟨[], ⟨0, out.name⟩, v, (posted_nil _ _).symm, by simp, .inl ⟨rfl, hrelayed⟩⟩
  | some whole =>
    -- At the splitter.
    have hname : r.flow.consumers (reached ref before).name = [splitter] := by
      rw [name_reached hbefore]
      exact hserved splitter hhere
    rw [List.reduceOption_singleton, Option.toList_some, List.map_singleton, Work.run_cons,
      Runner.visit_of_one hname, bind_assoc] at hrest
    obtain ⟨outcome, y, hinvoke, hrest⟩ := Run.ok_of_bind hrest
    rcases (keeps_splitter hsplitter hsequenced (hadvice splitter (hmem splitter hhere)) whole
      x _ y hinvoke).2 outcome rfl with rfl | ⟨value, items, parts, hvalue, hitems, rfl, hparts⟩
    · have hnothing : (Outcome.discard whole none).onward = some [] := rfl
      rw [forward_eq hout hnothing, pure_bind, List.map_nil, List.append_nil,
        Work.run_nil] at hrest
      cases hrest
      exact ⟨[], ⟨0, out.name⟩, v, (posted_nil _ _).symm, by simp,
        .inr ⟨whole, x, hrelayed, .inl ⟨rfl, hinvoke⟩⟩⟩
    · -- Behind the splitter.
      rw [forward_eq hout rfl, pure_bind, List.nil_append,
        Work.run_eq_rounds r.visit after.length] at hrest
      obtain ⟨ps, u, hrounds, hrest⟩ := Run.ok_of_bind hrest
      have hparcels : parts.map (Parcel.mk next) =
          ((parts.map some).reduceOption).map (Parcel.mk next) := by
        rw [List.reduceOption, List.filterMap_map]
        simp
      rw [hparcels] at hrounds
      have hsteady' : ∀ stage ∈ after, stage.Steady :=
        fun stage hstage => hsteady stage (List.mem_append_right _ hstage)
      obtain ⟨slots, rfl, hrelayed'⟩ := Runner.relayed_of_rounds
        (fun stage hstage => hserved stage
          (List.mem_append_right _ (List.mem_cons_of_mem _ hstage))) hsteady' hbehind hrounds
      obtain ⟨hsequence, hreplies⟩ := sequenced_of_relayed hsteady' hparts hrelayed'
      have hqs : ∀ q ∈ slots.reduceOption,
          q.headers.replyChannel = whole.headers.replyChannel :=
        fun q hq => hreplies q (List.reduceOption_mem_iff.1 hq)
      have hparcels : ∀ p ∈ slots.reduceOption.map (Parcel.mk (reached next after)),
          r.flow.consumers p.channel.name = [] ∧
            r.destination p = r.destination ⟨reached next after, whole⟩ := by
        intro p hp
        obtain ⟨q, hq, rfl⟩ := List.mem_map.1 hp
        refine ⟨?_, Runner.destination_congr (hqs q hq)⟩
        rw [name_reached hbehind]
        exact Flow.consumers_of_end hdistinct
      obtain ⟨live, hlive, hposted⟩ := Runner.posted_of_run (fun p hp => (hparcels p hp).1)
        (fun p hp => (hparcels p hp).2) hrest
      refine ⟨slots.reduceOption, live, u, ?_, fun q hq => ?_, .inr ⟨whole, x, hrelayed, .inr
        ⟨value, items, parts, y, slots, hvalue, hitems, hinvoke, hsequence, rfl⟩⟩⟩
      · rw [hposted, List.map_map]
        exact congrArg _ (List.map_id _)
      · rw [hend]
        exact hlive _ (List.mem_map_of_mem hq)

end

open Sample

/-- Texts are split up, and the empty ones are dropped. -/
def splitTexts : FlowStage :=
  ⟨.named "in", ⟨⟨"f.split#0", .split⟩, .texts,
    .split .texts .string (fun texts => pure texts) true, [Advice.tracing], none,
    some (.named "each")⟩⟩

def fullTexts : FlowStage :=
  ⟨.named "each", ⟨⟨"f.filter#1", .filter⟩, .string,
    .filter .string (fun text => pure (text != "")) .drop, [Advice.tracing], none,
    some (.named "out")⟩⟩

def fullFlow : Flow :=
  { id := "f"
    source := .channel "in" false
    input := .named "in"
    output := some (.named "out")
    stages := [splitTexts, fullTexts]
    components := .empty
    poller := .standard }

/-- Of an empty text and another one the other one is delivered, as part two of two. -/
theorem sequences_survive_full :
    let queue : LiveRef := ⟨0, "out"⟩
    let r : Runner := ⟨0, fullFlow, ⟨[("out", queue)]⟩, none⟩
    let m : Message := ⟨.fresh 9, .of .texts ["", "a"], .at 0⟩
    let w : World := { World.new 0 with channels := [.queue "out"] }
    ∃ (v u : World) (live : LiveRef) (slots : List (Option Message)),
      (r.dispatch (.named "in") m).exec w = some (.ok (), v) ∧
      v.channels.map (·.box.queued.map (·.headers.part)) = [[(some m.id, some 2, some 2)]] ∧
      v.channels = u.posted live slots.reduceOption ∧ slots.length = 2 ∧
      ∀ i q, slots[i]? = some (some q) → q.headers.part = (some m.id, some (i + 1), some 2) := by
  intro queue r m w
  have hrounds : ∃ q u, (Work.rounds r.visit 2 [⟨.named "in", m⟩]).exec w =
      some (.ok [⟨.named "out", q⟩], u) ∧ u.channels = w.channels ∧
      q.headers.part = (some m.id, some 2, some 2) := by
    refine ⟨_, _, rfl, ?_, ?_⟩
    · rfl
    · rfl
  obtain ⟨q, u, hrounds, hu, hpart⟩ := hrounds
  have hopen : queue.IsOpen u := ⟨_, by rw [hu]; rfl, rfl⟩
  have hlive : r.channels.resolve (.named "out") = some queue := rfl
  have hends : ∃ v, (r.deliverAll (.named "out") [q]).exec u = some (.ok (), v) ∧
      v.channels = u.posted queue [q] := exec_deliverAll_settled hlive (.inl rfl) hopen
  obtain ⟨v, hrun, hv⟩ := hends
  have hexec : (r.dispatch (.named "in") m).exec w = some (.ok (), v) := by
    have hdeliver : Work.run r.visit [⟨.named "out", q⟩] = r.deliverAll (.named "out") [q] :=
      run_of_free rfl [q]
    rw [Runner.dispatch, Work.run_eq_rounds r.visit 2, Run.exec_bind, hrounds]
    dsimp only
    rw [hdeliver, hrun]
  have hadvice : r.flow.BuiltIn := by
    intro stage hstage advice hmem
    have htracing : advice = Advice.tracing := by
      rcases List.mem_cons.1 hstage with rfl | hstage
      · exact List.mem_singleton.1 hmem
      · cases List.mem_singleton.1 hstage
        exact List.mem_singleton.1 hmem
    rw [htracing]
    exact .tracing
  have hsplitter :
      splitTexts.MadeBy (.split .texts .string (fun texts => pure texts) .standard) :=
    ⟨_, "f", { FlowConfig.standard with logStages := true }, 0, rfl, rfl⟩
  have hfilter : fullTexts.MadeBy (.filter .string (fun text => pure (text != "")) .standard) :=
    ⟨_, "f", { FlowConfig.standard with logStages := true }, 1, rfl, rfl⟩
  have hothers : ∀ stage ∈ [] ++ [fullTexts], ∃ g : Factory, stage.MadeBy g ∧
      g.splits = false ∧ g.diverts = false := by
    intro stage hstage
    cases List.mem_singleton.1 hstage
    exact ⟨_, hfilter, rfl, rfl⟩
  have hline : Line (some (.named "in")) ([] ++ splitTexts :: [fullTexts])
      (some (.named "out")) := ⟨rfl, rfl, rfl⟩
  have hstages : r.flow.stages = [] ++ ([] ++ splitTexts :: [fullTexts]) := rfl
  obtain ⟨qs, live, u', hchannels, -, hcases⟩ := sequences_survive hstages hline (by decide)
    hsplitter rfl hothers hadvice hexec
  rcases hcases with ⟨-, hlost⟩ | ⟨whole, x, hbefore, hrest⟩
  · cases hlost
  · cases hbefore
    rcases hrest with ⟨-, hdropped⟩ | ⟨value, items, parts, y, slots, hvalue, hitems, hsplits,
      hsequence, rfl⟩
    · cases hdropped
    · cases hvalue
      obtain ⟨z, z', hitems⟩ := hitems
      cases hitems
      refine ⟨v, u', live, slots, hexec, ?_, hchannels, hsequence.length, hsequence.numbered⟩
      rw [hv, posted_congr hu]
      show [[q.headers.part]] = _
      rw [hpart]

end MessageFlow
