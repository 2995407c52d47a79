import MessageFlow.Proofs.Dispatch.Acts
import MessageFlow.Proofs.Dispatch.Levels
import MessageFlow.Proofs.Dispatch.Outcomes
import MessageFlow.Proofs.Dispatch.Tree
import MessageFlow.Proofs.Sample

/-!
# Dispatch in level order

If the stages of a flow are stateless, what a dispatch is going to do is settled before it begins.
`look` says of every act how it ends, as a view of messages shows it, so parcels lead to parcels
(`next`), and the levels of this tree call for acts (`plan`). A dispatch does what is planned, in
this order, up to the first act that fails (`dispatch_levelOrder`).

The proof follows the work list. A round does the acts of a level, and leaves the next level behind
or fails (`run_as_planned`). `Went` keeps the acts that a run amounts to.
-/

namespace MessageFlow

section Tried

variable {α β E : Type} {look : α → Except E (List β)} {as bs : List α} {a : α}

/-- The things on a list up to the first that fails, and this one. -/
def tried (look : α → Except E (List β)) : List α → List α
  | [] => []
  | a :: rest => a :: if (look a).isOk then tried look rest else []

/-- What comes of a thing. -/
def yield (look : α → Except E (List β)) (a : α) : List β :=
  (look a).toOption.getD []

/-- If nothing fails everything is tried. -/
theorem tried_of_isOk (h : ∀ a ∈ as, (look a).isOk) : tried look as = as := by
  induction as with
  | nil => rfl
  | cons a as ih =>
    rw [List.forall_mem_cons] at h
    rw [tried, if_pos h.1, ih h.2]

/-- What comes behind things that do not fail is tried. -/
theorem tried_append (h : ∀ a ∈ as, (look a).isOk) :
    tried look (as ++ bs) = as ++ tried look bs := by
  induction as with
  | nil => rfl
  | cons a as ih =>
    rw [List.forall_mem_cons] at h
    rw [List.cons_append, tried, if_pos h.1, ih h.2]
    rfl

/-- What fails is the last that is tried. -/
theorem tried_of_error {e : E} (h : ∀ a ∈ as, (look a).isOk) (ha : look a = .error e) :
    tried look (as ++ a :: bs) = as ++ [a] := by
  rw [tried_append h, tried, ha]
  rfl

/-- Where the things at the front do not fail, what is behind them decides. -/
theorem flatMapM_append (h : ∀ a ∈ as, (look a).isOk) :
    (as ++ bs).flatMapM look = (bs.flatMapM look).map (as.flatMap (yield look) ++ ·) := by
  induction as with
  | nil =>
    show bs.flatMapM look = _
    cases bs.flatMapM look <;> rfl
  | cons a as ih =>
    rw [List.forall_mem_cons] at h
    rw [List.cons_append, List.flatMapM_cons, ih h.2, List.flatMap_cons]
    unfold yield
    cases ha : look a with
    | error e =>
      rw [ha] at h
      cases h.1
    | ok first =>
      cases bs.flatMapM look with
      | error e => rfl
      | ok rest => exact congrArg Except.ok (List.append_assoc ..).symm

/-- If nothing fails the results are all there. -/
theorem flatMapM_of_isOk (h : ∀ a ∈ as, (look a).isOk) :
    as.flatMapM look = .ok (as.flatMap (yield look)) := by
  have happend : (as ++ []).flatMapM look = _ := flatMapM_append h
  simpa [List.flatMapM_nil] using happend

/-- Otherwise the first failure is the result. -/
theorem flatMapM_of_error {e : E} (h : ∀ a ∈ as, (look a).isOk) (ha : look a = .error e) :
    (as ++ a :: bs).flatMapM look = .error e := by
  rw [flatMapM_append h, List.flatMapM_cons, ha]
  rfl

/-- Either nothing on a list fails, or there is a first thing that does. -/
theorem isOk_or_first (look : α → Except E (List β)) (as : List α) :
    (∀ a ∈ as, (look a).isOk) ∨
      ∃ before a after e, as = before ++ a :: after ∧ (∀ b ∈ before, (look b).isOk) ∧
        look a = .error e := by
  induction as with
  | nil => exact .inl (by simp)
  | cons a as ih =>
    cases ha : look a with
    | error e => exact .inr ⟨[], a, as, e, rfl, by simp, ha⟩
    | ok bs =>
      have hisOk : (look a).isOk := by rw [ha]; rfl
      rcases ih with h | ⟨before, a', after, e, rfl, hbefore, ha'⟩
      · exact .inl (List.forall_mem_cons.2 ⟨hisOk, h⟩)
      · exact .inr ⟨a :: before, a', after, e, rfl, List.forall_mem_cons.2 ⟨hisOk, hbefore⟩, ha'⟩

end Tried

/-- A run and a look end alike. -/
inductive Ends {α β E : Type} (blame : Failure → E) (related : α → β → Prop) :
    Except Failure α → Except E β → Prop
  | ok {a : α} {b : β} : related a b → Ends blame related (.ok a) (.ok b)
  | error (failure : Failure) : Ends blame related (.error failure) (.error (blame failure))

/-- A function of the result goes with one of what was looked at. -/
theorem ends_map {α β γ E : Type} {blame : Failure → E} {related : α → β → Prop}
    {related' : α → γ → Prop} {result : Except Failure α} {looked : Except E β} {g : β → γ}
    (h : Ends blame related result looked) (hg : ∀ a b, related a b → related' a (g b)) :
    Ends blame related' result (looked.map g) := by
  cases h with
  | ok hrelated => exact .ok (hg _ _ hrelated)
  | error failure => exact .error failure

/-- What ends as a whole list looks succeeds if nothing on the list fails. -/
theorem ok_iff_of_ends {α β E : Type} {blame : Failure → E} {look : α → Except E (List β)}
    {as : List α} {result : Except Failure Unit}
    (h : Ends blame (fun _ _ => True) result (as.flatMapM look)) :
    result = .ok () ↔ ∀ a ∈ as, (look a).isOk := by
  rcases isOk_or_first look as with hisOk | ⟨before, a, after, e, rfl, hbefore, ha⟩
  · rw [flatMapM_of_isOk hisOk] at h
    cases h with
    | ok _ => exact ⟨fun _ => hisOk, fun _ => rfl⟩
  · rw [flatMapM_of_error hbefore ha] at h
    cases h with
    | error failure =>
      have hfails : ¬∀ b ∈ before ++ a :: after, (look b).isOk := by
        intro hisOk
        have hfirst := hisOk a (by simp)
        rw [ha] at hfirst
        cases hfirst
      exact iff_of_false nofun hfails

section

variable [PayloadTypes]

/-- A parcel as a view of messages shows it. -/
def Parcel.shown (view : Message → Message) (p : Parcel) : Parcel :=
  { p with message := view p.message }

/-- An act as a view of messages shows it. -/
def Act.shown (view : Message → Message) : Act → Act
  | invoke stage m => invoke stage (view m)
  | deliver p => deliver (p.shown view)

namespace Runner

section Plan

variable {E : Type} (r : Runner) (f : FlowStage → Message → Except E Outcome)
  (blame : Failure → E) (w : World)

/-- What comes of an act, if stages produce what `f` says. -/
def look : Act → Except E (List Parcel)
  | .invoke stage m => do
    let outcome ← f stage m
    (r.emissions stage outcome).mapError blame
  | .deliver p => do
    (r.accepts w p).mapError blame
    return []

/-- The parcels that a parcel leads to. -/
def next (p : Parcel) : List Parcel :=
  (r.acts p).flatMap (yield (r.look f blame w))

/-- What the first levels call for, from a parcel on. -/
def plan (n : Nat) (p : Parcel) : List Act :=
  (levelOrder (r.next f blame w) n [p]).flatMap r.acts

end Plan

/-- How a run went: it ended so, and so would have these acts. -/
structure Went (r : Runner) {α : Type} (x : Run α) (w : World) (done : List Act)
    (result : Except Failure α) (v : World) : Prop where
  ended : x.exec w = some (result, v)
  amounts : ((fun _ => ()) <$> r.performAll done).exec w = some (result.map fun _ => (), v)

section Went

variable {r : Runner} {α β : Type} {x : Run α} {f : α → Run β} {w v u : World}
  {done later : List Act}

/-- A single act amounts to itself. -/
theorem went_of_exec {a : Act} {result : Except Failure (List Parcel)}
    (h : (r.perform a).exec w = some (result, v)) : r.Went (r.perform a) w [a] result v := by
  refine ⟨h, ?_⟩
  cases result <;> simp [performAll, h, Except.map]

theorem went_pure (r : Runner) (a : α) (w : World) : r.Went (pure a) w [] (.ok a) w :=
  ⟨rfl, rfl⟩

/-- One run after the other. -/
theorem went_bind {a : α} {result : Except Failure β} (h : r.Went x w done (.ok a) v)
    (hf : r.Went (f a) v later result u) : r.Went (x >>= f) w (done ++ later) result u := by
  refine ⟨by simp [h.ended, hf.ended], ?_⟩
  have hdone := h.amounts
  have hlater := hf.amounts
  rw [Run.exec_map] at hdone hlater
  rw [Run.exec_map, performAll_append]
  obtain ⟨⟨first, v'⟩, hfirst, hv⟩ := Option.map_eq_some_iff.1 hdone
  obtain ⟨⟨second, u'⟩, hsecond, hu⟩ := Option.map_eq_some_iff.1 hlater
  obtain ⟨hresult, rfl⟩ := Prod.mk.inj hu
  rw [← hresult]
  cases first with
  | error failure => cases hv
  | ok ps =>
    cases hv
    cases second <;> simp [hfirst, hsecond, Except.map]

/-- A function of the result leaves alone what was done. -/
theorem went_map {result : Except Failure α} (g : α → β) (h : r.Went x w done result v) :
    r.Went (x >>= fun a => pure (g a)) w done (result.map g) v := by
  refine ⟨?_, ?_⟩
  · cases result <;> simp [h.ended]
  · cases result <;> exact h.amounts

/-- Nothing is done behind a failure. -/
theorem went_error {failure : Failure} (h : r.Went x w done (.error failure) v) :
    r.Went (x >>= f) w done (.error failure) v :=
  ⟨by simp [h.ended], h.amounts⟩

end Went

section Acts

variable {E : Type} {r : Runner} {f : FlowStage → Message → Except E Outcome}
  {blame : Failure → E} {view : Message → Message} {w : World}

/-- What a parcel calls for looks as what the shown parcel calls for. -/
theorem acts_shown (view : Message → Message) (p : Parcel) :
    r.acts (p.shown view) = (r.acts p).map (Act.shown view) := by
  unfold acts Parcel.shown
  cases r.flow.consumers p.channel.name with
  | nil => rfl
  | cons stage stages =>
    simp only [List.map_map]
    rfl

theorem flatMap_acts_shown (view : Message → Message) (parcels : List Parcel) :
    (parcels.flatMap r.acts).map (Act.shown view) =
      (parcels.map (Parcel.shown view)).flatMap r.acts := by
  simp only [List.map_flatMap, List.flatMap_map, acts_shown]

theorem onward_shown (view : Message → Message) (stage : FlowStage) (m : Message) :
    stage.onward (view m) = (stage.onward m).map (Parcel.shown view) := by
  unfold FlowStage.onward
  cases stage.endpoint.output <;> rfl

/-- What a stage puts out goes the same way, whether it is shown or not. -/
theorem emissions_shown (view : Message → Message) (stage : FlowStage) (outcome : Outcome) :
    r.emissions stage (outcome.shown view) =
      (r.emissions stage outcome).map (List.map (Parcel.shown view)) := by
  cases outcome with
  | reply m => exact congrArg Except.ok (onward_shown view stage m)
  | many ms =>
    simp only [Outcome.shown, emissions, Except.map, List.flatMap_map, onward_shown,
      List.map_flatMap]
  | discard m channel => cases channel <;> rfl
  | done => rfl
  | route decision =>
    simp only [Outcome.shown, emissions]
    cases r.isResolvable decision.channel with
    | true => rfl
    | false =>
      cases decision.fallback with
      | some ref => rfl
      | none =>
        cases decision.required with
        | true => rfl
        | false => exact congrArg Except.ok (onward_shown view stage decision.message)

variable (hview : ∀ m, (view m).headers.replyChannel = m.headers.replyChannel)
  (htakes : ∀ live ∈ w.channels, ∀ m,
    live.takes (view m).payload.type = live.takes m.payload.type)

include hview htakes in
/-- A parcel is accepted as it is shown, if what is left out does not matter to channels. -/
theorem accepts_shown (p : Parcel) : r.accepts w (p.shown view) = r.accepts w p := by
  have hdestination : r.destination (p.shown view) = r.destination p := by
    unfold destination Parcel.shown
    rw [hview]
  unfold accepts
  rw [hdestination]
  cases r.channels.resolve (r.destination p) with
  | none => rfl
  | some live =>
    cases hlive : w.channels[live.key]? with
    | none => simp [LiveRef.accepts, hlive]
    | some channel =>
      simp [LiveRef.accepts, hlive, Parcel.shown, htakes channel (List.mem_of_getElem? hlive)]

variable (hstages : ∀ stage ∈ r.flow.stages,
  Stateless view blame stage.endpoint.invoke (f stage))

include hview htakes hstages in
/-- An act ends as it looks. -/
theorem perform_as_looked {a : Act} (ha : ∀ stage m, a = .invoke stage m → stage ∈ r.flow.stages)
    {v : World} (hv : v.gates = w.gates) :
    ∃ result u, r.Went (r.perform a) v [a] result u ∧ u.gates = w.gates ∧
      Ends blame (fun ps shown => ps.map (Parcel.shown view) = shown) result
        (r.look f blame w (a.shown view)) := by
  cases a with
  | invoke stage m =>
    have hfollows := hstages stage (ha stage m rfl) m
    simp only [Act.shown, look]
    cases hlook : f stage (view m) with
    | error e =>
      rw [hlook] at hfollows
      obtain ⟨failure, u, hexec, hblame, hchannels⟩ := hfollows v
      subst hblame
      refine ⟨.error failure, u, went_of_exec ?_, (gates_of_channels hchannels).trans hv,
        .error failure⟩
      simp [perform, hexec]
    | ok shown =>
      rw [hlook] at hfollows
      obtain ⟨outcome, u, hexec, hshown, hchannels⟩ := hfollows v
      subst hshown
      obtain ⟨entries, hforward⟩ := exec_forward r stage outcome u
      refine ⟨r.emissions stage outcome, { u with journal := entries }, went_of_exec ?_,
        (gates_of_channels hchannels).trans hv, ?_⟩
      · simp [perform, hexec, hforward]
      · rw [look_ok_bind, emissions_shown]
        cases r.emissions stage outcome with
        | ok ps => exact .ok rfl
        | error failure => exact .error failure
  | deliver p =>
    obtain ⟨u, hexec, hu⟩ := exec_deliver_accepts r p v
    have haccepts : r.accepts v p = r.accepts w p := by
      unfold accepts
      cases r.channels.resolve (r.destination p) with
      | none => rfl
      | some live =>
        show live.accepts v _ = live.accepts w _
        rw [accepts_of_gates hv]
    simp only [Act.shown, look, accepts_shown hview htakes]
    rw [haccepts] at hexec
    refine ⟨(r.accepts w p).map fun _ => [], u, went_of_exec ?_, hu.trans hv, ?_⟩
    · cases hresult : r.accepts w p <;> simp [perform, hexec, hresult]
    · cases r.accepts w p with
      | ok _ => exact .ok rfl
      | error failure => exact .error failure

include hview htakes hstages in
/-- Acts end as they look, and those behind the first that fails are not done. -/
theorem performAll_as_looked {as : List Act}
    (has : ∀ stage m, .invoke stage m ∈ as → stage ∈ r.flow.stages) {v : World}
    (hv : v.gates = w.gates) :
    ∃ done result u, r.Went (r.performAll as) v done result u ∧ u.gates = w.gates ∧
      done.map (Act.shown view) = tried (r.look f blame w) (as.map (Act.shown view)) ∧
      Ends blame (fun ps shown => ps.map (Parcel.shown view) = shown) result
        ((as.map (Act.shown view)).flatMapM (r.look f blame w)) := by
  induction as generalizing v with
  | nil => exact ⟨[], .ok [], v, went_pure r [] v, hv, rfl, .ok rfl⟩
  | cons a as ih =>
    obtain ⟨result, u, hwent, hu, hends⟩ := perform_as_looked hview htakes hstages
      (fun stage m he => has stage m (he ▸ List.mem_cons_self)) hv
    rw [performAll, List.map_cons, tried, List.flatMapM_cons]
    generalize r.look f blame w (a.shown view) = looked at hends ⊢
    cases hends with
    | error failure => exact ⟨[a], .error failure, u, went_error hwent, hu, rfl, .error failure⟩
    | @ok ps shown hfirst =>
      subst hfirst
      obtain ⟨done, result', u', hwent', hu', hdone, hends'⟩ :=
        ih (fun stage m hmem => has stage m (List.mem_cons_of_mem a hmem)) hu
      refine ⟨a :: done, result'.map (ps ++ ·), u',
        went_bind hwent (went_map (ps ++ ·) hwent'), hu', ?_, ?_⟩
      · rw [List.map_cons, hdone]
        rfl
      · generalize (as.map (Act.shown view)).flatMapM (r.look f blame w) = looked at hends' ⊢
        cases hends' with
        | error failure => exact .error failure
        | @ok later shown hlater =>
          subst hlater
          exact .ok (List.map_append ..)

include hview htakes hstages in
/-- A dispatch does what is planned, up to what fails first. -/
theorem run_as_planned {n : Nat} {parcels : List Parcel}
    (hlevels : level (r.next f blame w) n (parcels.map (Parcel.shown view)) = []) {v : World}
    (hv : v.gates = w.gates) :
    ∃ done result u, r.Went (Work.run r.visit parcels) v done result u ∧
      done.map (Act.shown view) = tried (r.look f blame w)
        ((levelOrder (r.next f blame w) n (parcels.map (Parcel.shown view))).flatMap r.acts) ∧
      Ends blame (fun _ _ => True) result
        (((levelOrder (r.next f blame w) n (parcels.map (Parcel.shown view))).flatMap
          r.acts).flatMapM (r.look f blame w)) := by
  induction n generalizing parcels v with
  | zero =>
    cases List.map_eq_nil_iff.1 (hlevels : parcels.map (Parcel.shown view) = [])
    exact ⟨[], .ok (), v, Work.run_nil r.visit ▸ went_pure r () v, rfl, .ok trivial⟩
  | succ n ih =>
    obtain ⟨done, result, u, hwent, hu, hdone, hends⟩ := performAll_as_looked hview htakes hstages
      (fun stage m hmem => mem_stages_of_flatMap hmem) hv
    rw [← round_eq] at hwent
    rw [flatMap_acts_shown] at hdone hends
    rw [Work.run_eq_round, levelOrder, List.flatMap_append]
    rcases isOk_or_first (r.look f blame w) ((parcels.map (Parcel.shown view)).flatMap r.acts)
      with hisOk | ⟨before, a, after, e, hlevel, hbefore, ha⟩
    · -- The level leads to the next one, and the rest of the plan is about that.
      rw [flatMapM_of_isOk hisOk, List.flatMap_assoc] at hends
      cases hends with
      | @ok further _ hfurther =>
      have hfurther' : further.map (Parcel.shown view) =
          (parcels.map (Parcel.shown view)).flatMap (r.next f blame w) := hfurther
      have hrest : level (r.next f blame w) n (further.map (Parcel.shown view)) = [] :=
        hfurther' ▸ hlevels
      obtain ⟨done', result', u', hwent', hdone', hends'⟩ := ih hrest hu
      rw [hfurther'] at hdone' hends'
      refine ⟨done ++ done', result', u', went_bind hwent hwent', ?_, ?_⟩
      · rw [List.map_append, hdone, hdone', tried_append hisOk, tried_of_isOk hisOk]
      · rw [flatMapM_append hisOk]
        exact ends_map hends' fun _ _ _ => trivial
    · -- The dispatch ends here, whatever else was planned.
      rw [hlevel, flatMapM_of_error hbefore ha] at hends
      rw [hlevel, tried_of_error hbefore ha] at hdone
      rw [hlevel, List.append_assoc, List.cons_append, tried_of_error hbefore ha,
        flatMapM_of_error hbefore ha]
      cases hends with
      | error failure => exact ⟨done, .error failure, u, went_error hwent, hdone, .error failure⟩

end Acts

/-- Of what parcels call for, those are delivered that no stage consumes. -/
theorem filterMap_delivered_acts (r : Runner) (parcels : List Parcel) :
    (parcels.flatMap r.acts).filterMap Act.delivered =
      parcels.filter fun p => (r.flow.consumers p.channel.name).isEmpty := by
  induction parcels with
  | nil => rfl
  | cons p parcels ih =>
    rw [List.flatMap_cons, List.filterMap_append, ih, acts]
    cases hconsumers : r.flow.consumers p.channel.name with
    | nil => simp [Act.delivered, hconsumers]
    | cons stage stages => simp [Act.delivered, hconsumers]

/-- A dispatch through stateless stages is the walk through a tree in level order. What it does is
planned: level by level, every parcel is given to the stages that consume its channel, in the order
of composition, or delivered to its live channel if there is none. If no planned act fails the
dispatch succeeds, has done all of them, in order and each once, and has delivered what a walk goes
by that sees each parcel through before it looks at the next. Otherwise it ends with the failure of
the first act that fails, and has done nothing that was planned behind it. What the view leaves out
matters neither to where replies go nor to what channels take. -/
theorem dispatch_levelOrder {E : Type} {r : Runner}
    {f : FlowStage → Message → Except E Outcome} {blame : Failure → E}
    {view : Message → Message} {w : World} {ref : ChannelRef} {m : Message} {n : Nat}
    (hview : ∀ m, (view m).headers.replyChannel = m.headers.replyChannel)
    (htakes : ∀ live ∈ w.channels, ∀ m,
      live.takes (view m).payload.type = live.takes m.payload.type)
    (hstages : ∀ stage ∈ r.flow.stages, Stateless view blame stage.endpoint.invoke (f stage))
    (hlevels : level (r.next f blame w) n [⟨ref, view m⟩] = []) :
    ∃ done result v, r.Went (r.dispatch ref m) w done result v ∧
      (result = .ok () ↔
        ∀ a ∈ r.plan f blame w n ⟨ref, view m⟩, (r.look f blame w a).isOk) ∧
      (result = .ok () →
        done.map (Act.shown view) = r.plan f blame w n ⟨ref, view m⟩ ∧
        ∃ walk, depthFirst (r.next f blame w) n ⟨ref, view m⟩ = some walk ∧
          ((done.map (Act.shown view)).filterMap Act.delivered).Perm
            (walk.filter fun p => (r.flow.consumers p.channel.name).isEmpty)) ∧
      ∀ before a after e, r.plan f blame w n ⟨ref, view m⟩ = before ++ a :: after →
        (∀ b ∈ before, (r.look f blame w b).isOk) → r.look f blame w a = .error e →
        done.map (Act.shown view) = before ++ [a] ∧
        ∃ failure, result = .error failure ∧ blame failure = e := by
  have hstart : level (r.next f blame w) n ([⟨ref, m⟩].map (Parcel.shown view)) = [] := hlevels
  obtain ⟨done, result, v, hwent, hdone, hends⟩ := run_as_planned hview htakes hstages hstart rfl
  change done.map (Act.shown view) = tried (r.look f blame w) (r.plan f blame w n ⟨ref, view m⟩)
    at hdone
  change Ends blame _ result ((r.plan f blame w n ⟨ref, view m⟩).flatMapM (r.look f blame w))
    at hends
  refine ⟨done, result, v, hwent, ok_iff_of_ends hends, ?_, ?_⟩
  · intro hok
    have hplan := hdone.trans (tried_of_isOk ((ok_iff_of_ends hends).1 hok))
    obtain ⟨walk, hwalk, hperm⟩ := depthFirst_perm hlevels
    refine ⟨hplan, walk, hwalk, ?_⟩
    rw [hplan, plan, filterMap_delivered_acts]
    exact hperm.symm.filter _
  · intro before a after e hplan hbefore ha
    rw [hplan, tried_of_error hbefore ha] at hdone
    rw [hplan, flatMapM_of_error hbefore ha] at hends
    cases hends with
    | error failure => exact ⟨hdone, failure, rfl, rfl⟩

end Runner

end

open Sample

/-- Lists of numbers are copied, and split up; of their numbers only the even ones go on. -/
def sortedNumbers : Flow :=
  { id := "sorted"
    source := .channel "in" false
    input := .named "in"
    output := none
    stages :=
      [ ⟨.named "in", ⟨⟨"each", .split⟩, .numbers,
          .split .numbers .number (fun ns => pure ns) true, [],
          none, some (.named "numbers")⟩⟩,
        ⟨.named "in", ⟨⟨"copy", .bridge⟩, .numbers, .bridge, [], none, some (.named "copies")⟩⟩,
        ⟨.named "numbers", ⟨⟨"even", .filter⟩, .number,
          .filter .number (fun n => pure (n % 2 == 0)) ⟨some (.named "odd"), false⟩, [], none,
          some (.named "evens")⟩⟩,
        ⟨.named "evens", ⟨⟨"sort", .route⟩, .number, .route .number (fun n => pure n) sorting, [],
          none, none⟩⟩ ]
    components := .empty
    poller := .standard }
where
  /-- Twos have a channel. -/
  sorting : Routing .number := (.standard : Routing .number).map 2 (.named "twos")

/-- What the stages of `sortedNumbers` produce. -/
def sortsOf (stage : FlowStage) : Message → Except Failure Outcome :=
  match stage.endpoint.info.kind with
  | .split => splitUp stage.endpoint.info .numbers .number (fun ns => .ok ns) true
  | .filter =>
    sifted stage.endpoint.info .number (fun n => .ok (n % 2 == 0)) ⟨some (.named "odd"), false⟩
  | .route => routed stage.endpoint.info .number (fun n => .ok n) sortedNumbers.sorting
  | _ => fun m => .ok (.reply m)

/-- The flow with channels for what comes out of it. -/
def sorter : Runner :=
  ⟨0, sortedNumbers,
    ⟨[("copies", ⟨0, "copies"⟩), ("odd", ⟨1, "odd"⟩), ("twos", ⟨2, "twos"⟩)]⟩, none⟩

def oneAndTwo : Message :=
  ⟨.fresh 0, .of .numbers [1, 2], .at 0⟩

/-- Three channels, and whether the one for odd numbers refuses numbers. -/
def threeChannels (closed : Bool) : World :=
  { World.new 0 with
    channels := [.queue "copies", ⟨"odd", fun type => !closed || type != .number, .empty⟩,
      .queue "twos"] }

/-- What a list of parcels brings where. -/
def contents (parcels : List Parcel) : List (String × Payload) :=
  parcels.map fun p => (p.channel.name, p.message.payload)

/-- A view leaves the payloads of what is delivered. -/
theorem contents_shown (done : List Act) :
    contents ((done.map (Act.shown Message.faced)).filterMap Act.delivered) =
      contents (done.filterMap Act.delivered) := by
  induction done with
  | nil => rfl
  | cons a done ih =>
    cases a with
    | invoke stage m => exact ih
    | deliver p => exact congrArg ((p.channel.name, p.message.payload) :: ·) ih

/-- The copy is delivered first, though a walk down the tree comes to it last. If odd numbers are
refused the dispatch ends with the first of them, before the two. -/
theorem dispatch_levelOrder_numbers :
    (∃ done v,
      sorter.Went (sorter.dispatch (.named "in") oneAndTwo) (threeChannels false) done (.ok ()) v ∧
      contents (done.filterMap Act.delivered) =
        [("copies", .of .numbers [1, 2]), ("odd", .of .number 1), ("twos", .of .number 2)]) ∧
    (∃ walk, depthFirst (sorter.next sortsOf Failure.face (threeChannels false)) 4
        ⟨.named "in", oneAndTwo.faced⟩ = some walk ∧
      contents (walk.filter fun p => (sorter.flow.consumers p.channel.name).isEmpty) =
        [("odd", .of .number 1), ("twos", .of .number 2), ("copies", .of .numbers [1, 2])]) ∧
    ∃ done failure v,
      sorter.Went (sorter.dispatch (.named "in") oneAndTwo) (threeChannels true) done
        (.error failure) v ∧
      failure.face = .channelClosed "odd" ∧
      contents (done.filterMap Act.delivered) =
        [("copies", .of .numbers [1, 2]), ("odd", .of .number 1)] := by
  have hview : ∀ m : Message, m.faced.headers.replyChannel = m.headers.replyChannel :=
    fun _ => rfl
  have htakes : ∀ closed, ∀ live ∈ (threeChannels closed).channels, ∀ m : Message,
      live.takes m.faced.payload.type = live.takes m.payload.type := fun _ _ _ _ => rfl
  have hstages : ∀ stage ∈ sorter.flow.stages,
      Stateless Message.faced Failure.face stage.endpoint.invoke (sortsOf stage) := by
    intro stage hstage
    simp only [sorter, sortedNumbers, List.mem_cons, List.not_mem_nil, or_false] at hstage
    rcases hstage with rfl | rfl | rfl | rfl
    · exact stateless_split .numbers .number (amountsTo_pure _) true
    · exact @stateless_bridge _ ⟨"copy", .bridge⟩ _ _ _
    · exact stateless_filter .number (amountsTo_pure _) _
    · exact stateless_route .number (amountsTo_pure _) _
  have hlevels : ∀ closed, level (sorter.next sortsOf Failure.face (threeChannels closed)) 4
      [⟨.named "in", oneAndTwo.faced⟩] = [] := by
    intro closed
    cases closed <;> exact List.isEmpty_iff.1 rfl
  refine ⟨?_, ⟨_, rfl, rfl⟩, ?_⟩
  · obtain ⟨done, result, v, hwent, hok, hdone, -⟩ :=
      Runner.dispatch_levelOrder hview (htakes false) hstages (hlevels false)
    have hresult : result = .ok () := hok.2 (List.all_eq_true.1 rfl)
    subst hresult
    refine ⟨done, v, hwent, ?_⟩
    rw [← contents_shown, (hdone rfl).1]
    rfl
  · obtain ⟨done, result, v, hwent, -, -, hcut⟩ :=
      Runner.dispatch_levelOrder hview (htakes true) hstages (hlevels true)
    -- Five acts go well: both stages on the list, the filter twice, and the delivery of the copy.
    let plan := sorter.plan sortsOf Failure.face (threeChannels true) 4
      ⟨.named "in", oneAndTwo.faced⟩
    have hsixth : plan = plan.take 5 ++ .deliver ⟨.named "odd", _⟩ :: plan.drop 6 := rfl
    have hisOk : ∀ a ∈ plan.take 5,
        (sorter.look sortsOf Failure.face (threeChannels true) a).isOk := List.all_eq_true.1 rfl
    obtain ⟨hdone, failure, rfl, hface⟩ :=
      hcut _ _ _ (.channelClosed "odd") hsixth hisOk rfl
    refine ⟨done, failure, v, hwent, hface, ?_⟩
    rw [← contents_shown, hdone]
    rfl

end MessageFlow
