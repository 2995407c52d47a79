import MessageFlow.Proofs.Dispatch.Replies
import MessageFlow.Proofs.Dispatch.Returns
import MessageFlow.Proofs.Line
import MessageFlow.Proofs.Sample

/-!
# Flows without a way back

A dispatch goes on while anything is on its way, and stages may put any number of messages into
channels. If stages can be ranked so that none puts a message into a channel of a stage that is not
of a higher rank, each round through the list takes everything on it up by a rank at least. So the
list runs out after as many rounds as there are stages, and one more for what is delivered
(`dispatch_ends`), however many messages there are.

What a stage may put a message into is its output and what its outcomes name (`MayEmit`); the height
of a stage is how many stages are of its rank or a higher one, so heights go down as ranks go up.
-/

namespace MessageFlow

section

variable [PayloadTypes]

/-- A channel that a stage may put a message into. -/
def FlowStage.MayEmit (stage : FlowStage) (ref : ChannelRef) : Prop :=
  stage.endpoint.output = some ref ∨
    ∃ m w outcome v, (stage.endpoint.invoke m).exec w = some (.ok outcome, v) ∧
      ref ∈ outcome.targets

/-- A stage that names allowed channels only. -/
theorem mayEmit_of_returns {stage : FlowStage} {kept : World → World → Prop}
    {allowed : ChannelRef → Prop}
    (h : ∀ m, (stage.endpoint.invoke m).Returns kept (Outcome.Within allowed)) {ref : ChannelRef}
    (hmay : stage.MayEmit ref) : stage.endpoint.output = some ref ∨ allowed ref := by
  refine hmay.imp_right ?_
  rintro ⟨m, w, outcome, v, hexec, hmem⟩
  obtain ⟨result, v', hexec', -, hwithin⟩ := h m w
  rw [hexec] at hexec'
  cases hexec'
  exact hwithin outcome rfl ref hmem

namespace Flow

/-- All stages return, for every message and in every world. -/
def Returns (flow : Flow) : Prop :=
  ∀ stage ∈ flow.stages, ∀ m w, (stage.endpoint.invoke m).exec w ≠ none

/-- Stages put messages into channels of higher ranks only. -/
def Forward (flow : Flow) (rank : FlowStage → Nat) : Prop :=
  ∀ stage ∈ flow.stages, ∀ ref, stage.MayEmit ref →
    ∀ next ∈ flow.consumers ref.name, rank stage < rank next

/-- How many stages are of the rank of a stage, or a higher one. -/
def height (flow : Flow) (rank : FlowStage → Nat) (stage : FlowStage) : Nat :=
  flow.stages.countP fun other => rank stage ≤ rank other

variable {flow : Flow} {rank : FlowStage → Nat} {stage next : FlowStage}

theorem height_pos (h : stage ∈ flow.stages) (rank : FlowStage → Nat) :
    0 < flow.height rank stage :=
  List.countP_pos_iff.2 ⟨stage, h, by simp⟩

theorem height_le (flow : Flow) (rank : FlowStage → Nat) (stage : FlowStage) :
    flow.height rank stage ≤ flow.stages.length :=
  List.countP_le_length

theorem height_lt (h : stage ∈ flow.stages) (hrank : rank stage < rank next) :
    flow.height rank next < flow.height rank stage := by
  unfold height
  generalize flow.stages = stages at h
  induction stages with
  | nil => cases h
  | cons first stages ih =>
    have hmono : (stages.countP fun other => rank next ≤ rank other) ≤
        stages.countP fun other => rank stage ≤ rank other := by
      apply List.countP_mono_left
      intro other _ hother
      simp only [decide_eq_true_eq] at hother ⊢
      omega
    rw [List.countP_cons, List.countP_cons]
    rcases List.mem_cons.1 h with rfl | h
    · have hself : rank stage ≤ rank stage := Nat.le_refl _
      have hnext : ¬rank next ≤ rank stage := Nat.not_le_of_lt hrank
      simp only [hself, hnext, decide_true, decide_false, if_true, if_false, Bool.false_eq_true]
      omega
    · have hrest := ih h
      by_cases hfirst : rank next ≤ rank first
      · have hfirst' : rank stage ≤ rank first := by omega
        simp only [hfirst, hfirst', decide_true, if_true]
        omega
      · simp only [hfirst, decide_false, if_false, Bool.false_eq_true]
        omega

end Flow

/-! ## Rounds -/

namespace Runner

variable {r : Runner} {rank : FlowStage → Nat} {parcels : List Parcel} {n : Nat}

theorem returns_of_ends {α : Type} {run : Run α} (h : ∀ w, run.exec w ≠ none) :
    run.Returns (fun _ _ => True) fun _ => True := by
  intro w
  obtain ⟨⟨result, v⟩, hexec⟩ := Option.ne_none_iff_exists'.1 (h w)
  exact ⟨result, v, hexec, trivial, fun _ _ => trivial⟩

/-- Whatever returns has a result that it has in some world. -/
theorem returns_attained {α : Type} {kept : World → World → Prop} {good : α → Prop} {run : Run α}
    (h : run.Returns kept good) :
    run.Returns kept fun a => ∃ w v, run.exec w = some (.ok a, v) := by
  intro w
  obtain ⟨result, v, hexec, hv, -⟩ := h w
  exact ⟨result, v, hexec, hv, fun a ha => ⟨w, v, ha ▸ hexec⟩⟩

theorem mem_targets_of_emissions {stage : FlowStage} {outcome : Outcome} {ps : List Parcel}
    {p : Parcel} (h : r.emissions stage outcome = .ok ps) (hp : p ∈ ps) :
    stage.endpoint.output = some p.channel ∨ p.channel ∈ outcome.targets := by
  rcases channel_of_emissions h hp with hout | ⟨m, rfl⟩ | ⟨decision, rfl, hchannel | hfallback⟩
  · exact .inl hout
  · exact .inr List.mem_cons_self
  · exact .inr (hchannel ▸ List.mem_cons_self)
  · exact .inr (List.mem_cons_of_mem _ (Option.mem_toList.2 hfallback))

section Acts

variable {kept : World → World → Prop} (hkept : Frame kept)
  (hsend : ∀ live m, (Run.send live m).Returns kept fun _ => True)

include hkept hsend

/-- What is on its way because of an act was put there by the stage that was invoked. -/
theorem returns_perform {a : Act}
    (ha : ∀ stage m, a = .invoke stage m → (stage.endpoint.invoke m).Returns kept fun _ => True) :
    (r.perform a).Returns kept fun ps =>
      ∀ p ∈ ps, ∃ stage m, a = .invoke stage m ∧ stage.MayEmit p.channel := by
  cases a with
  | deliver p =>
    have hresolve : (r.resolve (r.destination p)).Returns kept fun _ => True := by
      unfold Runner.resolve
      cases r.channels.resolve (r.destination p) with
      | none => exact returns_throw hkept _
      | some live => exact returns_pure hkept trivial
    have hdeliver : (r.deliver p).Returns kept fun _ => True := by
      rw [deliver_eq]
      exact returns_bind hkept hresolve fun live _ => hsend live p.message
    unfold perform
    exact returns_bind hkept hdeliver fun _ _ => returns_pure hkept (by simp)
  | invoke stage m =>
    refine returns_bind hkept (returns_attained (ha stage m rfl)) fun outcome houtcome w => ?_
    obtain ⟨entries, hforward⟩ := exec_forward r stage outcome w
    refine ⟨_, _, hforward, hkept.journal w entries, fun ps hps p hp => ⟨stage, m, rfl, ?_⟩⟩
    obtain ⟨u, u', hinvoke⟩ := houtcome
    exact (mem_targets_of_emissions hps hp).imp_right fun hmem => ⟨m, u, outcome, u', hinvoke, hmem⟩

theorem returns_performAll {as : List Act}
    (has : ∀ stage m, .invoke stage m ∈ as →
      (stage.endpoint.invoke m).Returns kept fun _ => True) :
    (r.performAll as).Returns kept fun ps =>
      ∀ p ∈ ps, ∃ stage m, .invoke stage m ∈ as ∧ stage.MayEmit p.channel := by
  induction as with
  | nil => exact returns_pure hkept (by simp)
  | cons a as ih =>
    have hfirst := returns_perform hkept hsend (r := r) (a := a) fun stage m ha =>
      has stage m (ha ▸ List.mem_cons_self)
    have hrest := ih fun stage m hmem => has stage m (List.mem_cons_of_mem a hmem)
    refine returns_bind hkept hfirst fun first hfirst => ?_
    refine returns_bind hkept hrest fun rest hrest => returns_pure hkept ?_
    intro p hp
    rcases List.mem_append.1 hp with hp | hp
    · obtain ⟨stage, m, ha, hmay⟩ := hfirst p hp
      exact ⟨stage, m, ha ▸ List.mem_cons_self, hmay⟩
    · obtain ⟨stage, m, hmem, hmay⟩ := hrest p hp
      exact ⟨stage, m, List.mem_cons_of_mem a hmem, hmay⟩

end Acts

/-- Everything that is put on the list in a round comes from a stage that consumes something on
it. -/
theorem returns_round (hreturns : r.flow.Returns) (parcels : List Parcel) :
    (Work.round r.visit parcels).Returns (fun _ _ => True) fun further =>
      ∀ p ∈ further, ∃ q ∈ parcels, ∃ stage ∈ r.flow.consumers q.channel.name,
        stage.MayEmit p.channel := by
  rw [round_eq]
  have hinvoke : ∀ stage m, .invoke stage m ∈ parcels.flatMap r.acts →
      (stage.endpoint.invoke m).Returns (fun _ _ => True) fun _ => True :=
    fun stage m hmem => returns_of_ends (hreturns stage (mem_stages_of_flatMap hmem) m)
  have hsend : ∀ live m, (Run.send live m).Returns (fun _ _ => True) fun _ => True :=
    fun live m => returns_of_ends fun w => by
      obtain ⟨v, hexec, -⟩ := exec_send_accepts live m w
      simp [hexec]
  refine returns_mono (returns_performAll frame_true hsend hinvoke) fun further hfurther p hp => ?_
  obtain ⟨stage, m, hmem, hmay⟩ := hfurther p hp
  obtain ⟨q, hq, hinvoke⟩ := List.mem_flatMap.1 hmem
  exact ⟨q, hq, stage, mem_consumers_of_acts hinvoke, hmay⟩

/-- Parcels for stages up to a height. -/
def Below (r : Runner) (rank : FlowStage → Nat) (n : Nat) (parcels : List Parcel) : Prop :=
  ∀ p ∈ parcels, ∀ stage ∈ r.flow.consumers p.channel.name, r.flow.height rank stage ≤ n

/-- The height goes down with each round. Where it is zero nobody takes what is on the list. -/
theorem returns_rounds (hreturns : r.flow.Returns) (hforward : r.flow.Forward rank)
    (h : r.Below rank n parcels) :
    (Work.rounds r.visit (n + 1) parcels).Returns (fun _ _ => True) fun left => left = [] := by
  induction n generalizing parcels with
  | zero =>
    refine returns_bind frame_true (returns_round hreturns parcels) fun further hfurther => ?_
    refine returns_pure frame_true (List.eq_nil_iff_forall_not_mem.2 fun p hp => ?_)
    obtain ⟨q, hq, stage, hstage, -⟩ := hfurther p hp
    have hzero := h q hq stage hstage
    have hpos := Flow.height_pos (List.mem_filter.1 hstage).1 rank
    omega
  | succ n ih =>
    refine returns_bind frame_true (returns_round hreturns parcels) fun further hfurther => ?_
    refine ih fun p hp next hnext => ?_
    obtain ⟨q, hq, stage, hstage, hmay⟩ := hfurther p hp
    have hmem := (List.mem_filter.1 hstage).1
    have hlt := Flow.height_lt hmem (hforward stage hmem p.channel hmay next hnext)
    have hle := h q hq stage hstage
    omega

end Runner

/-! ## Lines -/

/-- Stages in a line, no two channels of which bear one name. What a stage emits besides its output
goes to no stage up to itself. -/
structure Flow.IsChain (flow : Flow) : Prop where
  line : ∃ entrance exit, Line entrance flow.stages exit ∧
    (flow.stages.map (·.input.name) ++ (exit.map ChannelRef.name).toList).Nodup
  aside : ∀ before stage after, flow.stages = before ++ stage :: after →
    ∀ ref, stage.MayEmit ref → stage.endpoint.output = some ref ∨
      ∀ other ∈ before ++ [stage], other.input.name ≠ ref.name

/-- A line leads to a channel of one of its stages, or to its exit. -/
theorem mem_of_line {ref : ChannelRef} {stages : List FlowStage} {exit : Option ChannelRef}
    (h : Line (some ref) stages exit) :
    ref.name ∈ stages.map (·.input.name) ++ (exit.map ChannelRef.name).toList := by
  cases stages with
  | nil => exact Option.mem_toList.2 h.symm
  | cons stage stages =>
    have hname : ref.name = stage.input.name := Option.some.inj h.1
    rw [hname]
    exact List.mem_cons_self

/-- The stages of a chain are ranked by where they stand. -/
theorem Flow.IsChain.forward {flow : Flow} (h : flow.IsChain) :
    flow.Forward fun stage => (flow.stages.map (·.input.name)).idxOf stage.input.name := by
  obtain ⟨entrance, exit, hline, hdistinct⟩ := h.line
  intro stage hstage ref hmay next hnext
  obtain ⟨before, after, hstages⟩ := List.append_of_mem hstage
  have hname : next.input.name = ref.name := by simpa using (List.mem_filter.1 hnext).2
  have hsplit : flow.stages.map (·.input.name) =
      (before ++ [stage]).map (·.input.name) ++ after.map (·.input.name) := by simp [hstages]
  -- Nothing up to the stage consumes what it emits.
  have hahead : next.input.name ∉ (before ++ [stage]).map (·.input.name) := by
    rw [hname]
    intro hmem
    rcases h.aside before stage after hstages ref hmay with hout | haside
    · rw [hstages] at hline
      have hnext := mem_of_line (hout ▸ (line_suffix hline).2)
      rw [hsplit, List.append_assoc] at hdistinct
      exact (List.nodup_append.1 hdistinct).2.2 ref.name hmem ref.name hnext rfl
    · obtain ⟨other, hother, he⟩ := List.mem_map.1 hmem
      exact haside other hother he
  have hhere : stage.input.name ∈ (before ++ [stage]).map (·.input.name) := by simp
  have hlt := List.idxOf_lt_length_of_mem hhere
  show List.idxOf _ _ < List.idxOf _ _
  rw [hsplit, List.idxOf_append, if_pos hhere, List.idxOf_append, if_neg hahead]
  omega

/-- A dispatch ends if all stages return and messages go forward only, whatever is registered, and
whatever is put into which channel in which world: after as many rounds as there are stages, and one
more, nothing is left, unless it failed before. So it does for stages in a line whose channels have
different names, if what they send to another channel than their output does not come back to them
or to a stage ahead of them. A filter that discards into its own input never ends. -/
theorem dispatch_ends {r : Runner} (hreturns : r.flow.Returns)
    (hforward : (∃ rank, r.flow.Forward rank) ∨ r.flow.IsChain) (ref : ChannelRef) (m : Message)
    (w : World) :
    ∃ result v, (r.dispatch ref m).exec w = some (result, v) ∧
      (Work.rounds r.visit (r.flow.stages.length + 1) [⟨ref, m⟩]).exec w =
        some (result.map fun _ => [], v) := by
  obtain ⟨rank, hrank⟩ : ∃ rank, r.flow.Forward rank := by
    rcases hforward with hforward | hchain
    · exact hforward
    · exact ⟨_, hchain.forward⟩
  have hbelow : r.Below rank r.flow.stages.length [⟨ref, m⟩] :=
    fun _ _ stage _ => Flow.height_le r.flow rank stage
  obtain ⟨result, v, hexec, -, hleft⟩ := Runner.returns_rounds hreturns hrank hbelow w
  have hrun : r.dispatch ref m =
      Work.rounds r.visit (r.flow.stages.length + 1) [⟨ref, m⟩] >>= Work.run r.visit :=
    Work.run_eq_rounds r.visit _ _
  rw [hrun, Run.exec_bind, hexec]
  cases result with
  | error failure => exact ⟨.error failure, v, rfl, rfl⟩
  | ok left =>
    obtain rfl := hleft left rfl
    exact ⟨.ok (), v, by simp, rfl⟩

end

open Sample

/-- Even numbers are told apart from odd ones, and of the even ones the big ones from the others.
All but the big ones come together again. -/
def sieve : Flow :=
  { id := "sieve"
    source := .channel "in" false
    input := .named "in"
    output := none
    stages :=
      [ ⟨.named "in", ⟨⟨"even", .filter⟩, .number,
          .filter .number isEven ⟨some (.named "odd"), false⟩, [], none, some (.named "even")⟩⟩,
        ⟨.named "odd", ⟨⟨"copy", .bridge⟩, .payload, .bridge, [(ErrorStrategy.retry 2).advice],
          none, some (.named "rest")⟩⟩,
        ⟨.named "even", ⟨⟨"big", .route⟩, .number, .route .number isBig sorting, [], none, none⟩⟩,
        ⟨.named "rest", ⟨⟨"rest", .handle⟩, .number, .handle .number (fun _ => pure ()), [], none,
          none⟩⟩ ]
    components := .empty
    poller := .standard }
where
  isEven (n : Int32) : Run Bool := pure (n % 2 == 0)
  isBig (n : Int32) : Run (KeyType.denote .flag) := pure (decide (n > 10))
  /-- Big numbers have a channel; the one of the others does not exist. -/
  sorting : Routing .flag :=
    { (.standard : Routing .flag).map true (.named "big") with
      before := "is-"
      fallback := some (.named "rest") }

/-- No number comes back: each stage of `sieve` is ranked by how far it is from the input. -/
theorem dispatch_ends_sieve :
    let r : Runner := ⟨0, sieve, ⟨[("big", ⟨0, "big"⟩)]⟩, none⟩
    ∃ result v, (r.dispatch (.named "in") ⟨.fresh 0, .of .number 3, .at 0⟩).exec (.new 0) =
      some (result, v) := by
  intro r
  let spec (id : String) : EndpointSpec := { EndpointSpec.standard with id := some id }
  let place (name : String) : Nat := ["in", "odd", "even", "rest"].idxOf name
  have hpure : ∀ {β : Type} (b : β), (pure b : Run β).Returns (fun _ _ => True) fun _ => True :=
    fun _ => returns_pure frame_true trivial
  -- The channels that a stage was given are further away than the one it consumes.
  have hstages : ∀ stage ∈ sieve.stages, ∃ f : Factory,
      (∀ m, (stage.endpoint.invoke m).Returns (fun _ _ => True)
        (Outcome.Within fun ref => f.Names ref)) ∧
      ∀ ref, stage.endpoint.output = some ref ∨ f.Names ref →
        place stage.input.name < place ref.name := by
    intro stage hstage
    simp only [sieve, List.mem_cons, List.not_mem_nil, or_false] at hstage
    rcases hstage with rfl | rfl | rfl | rfl
    · refine ⟨.filter .number sieve.isEven ⟨spec "even", ⟨some (.named "odd"), false⟩⟩,
        returns_invoke frame_true rfl ?_ ?_ "sieve" .standard 0 rfl, ?_⟩
      · exact fun _ => hpure _
      · simp [spec, EndpointSpec.standard]
      · rintro ref (href | href) <;> cases href <;> decide
    · refine ⟨.bridge { spec "copy" with advice := [(ErrorStrategy.retry 2).advice] },
        returns_invoke frame_true rfl ?_ ?_ "sieve" .standard 1 rfl, ?_⟩
      · trivial
      · intro advice hadvice
        cases List.mem_singleton.1 hadvice
        exact returns_strategy frame_true (tires_retry frame_true 2)
      · rintro ref (href | href) <;> cases href
        decide
    · refine ⟨.route .number .flag sieve.isBig ⟨spec "big", sieve.sorting⟩,
        returns_invoke frame_true rfl ?_ ?_ "sieve" .standard 2 rfl, ?_⟩
      · exact fun _ => hpure _
      · simp [spec, EndpointSpec.standard]
      · rintro ref (href | ⟨key, rfl⟩ | href)
        · cases href
        · cases key <;> decide
        · cases href
          decide
    · refine ⟨.handle .number (fun _ => pure ()) (spec "rest"),
        returns_invoke frame_true rfl ?_ ?_ "sieve" .standard 3 rfl, ?_⟩
      · exact fun _ => hpure _
      · simp [spec, EndpointSpec.standard]
      · rintro ref (href | href) <;> cases href
  have hreturns : r.flow.Returns := by
    intro stage hstage m w
    obtain ⟨f, hinvoke, -⟩ := hstages stage hstage
    obtain ⟨result, v, hexec, -⟩ := hinvoke m w
    rw [hexec]
    exact Option.some_ne_none _
  have hforward : r.flow.Forward fun stage => place stage.input.name := by
    intro stage hstage ref hmay next hnext
    obtain ⟨f, hinvoke, hfurther⟩ := hstages stage hstage
    have hname : next.input.name = ref.name := by simpa using (List.mem_filter.1 hnext).2
    show place stage.input.name < place next.input.name
    rw [hname]
    exact hfurther ref (mayEmit_of_returns hinvoke hmay)
  obtain ⟨result, v, hexec, -⟩ := dispatch_ends hreturns (.inl ⟨_, hforward⟩) (.named "in")
    ⟨.fresh 0, .of .number 3, .at 0⟩ (.new 0)
  exact ⟨result, v, hexec⟩

end MessageFlow
