import MessageFlow.Proofs.Pumps.Switching

/-!
# What pumps do not switch

Of a runner only two things decide what a start or a stop does: whether it is running, and whether
it was stopped (`World.lives`). Pumps do not touch either, whatever they pump (`unswitched_pump`);
so neither does time that passes (`unswitched_elapse`), nor what there is to do for the pump of a
runner that stops (`unswitched_windUp`).
-/

namespace MessageFlow

variable [PayloadTypes]

/-- Of each runner, whether it is running and whether it was stopped. -/
def World.lives (w : World) : List (Bool × Bool) :=
  w.runners.map fun state => (state.running, state.stopped)

/-- What pumps leave alone. -/
structure World.Unswitched (source : Source) (w v : World) : Prop where
  lives : v.lives = w.lives
  stream : ∀ counter feed, source = .publisher counter feed →
    v.counters[counter]? = w.counters[counter]?

/-! ## Pumps -/

section Pumps

variable {source : Source} {flow : Flow} {w v : World}

/-- Whoever switches nothing may do so time and again. -/
theorem frame_unswitched (source : Source) : Frame (World.Unswitched source) where
  refl _ := ⟨rfl, fun _ _ _ => rfl⟩
  trans _ _ _ h h' := ⟨h'.lives.trans h.lives, fun counter feed hsource =>
    (h'.stream counter feed hsource).trans (h.stream counter feed hsource)⟩
  issued _ _ := ⟨rfl, fun _ _ _ => rfl⟩
  journal _ _ := ⟨rfl, fun _ _ _ => rfl⟩

/-- What disturbs no runner switches none. -/
theorem unswitched_of_undisturbed (h : w.Undisturbed source v) : w.Unswitched source v :=
  ⟨congrArg (List.map _) h.runners, h.stream⟩

/-- A run that disturbs no runner switches none. -/
theorem keeps_unswitched {α : Type} {good : α → Prop} {run : Run α}
    (h : run.Keeps (World.Undisturbed source) good) : run.Keeps (World.Unswitched source) good :=
  fun w result v hexec =>
    ⟨unswitched_of_undisturbed (h w result v hexec).1, (h w result v hexec).2⟩

/-- A change of the world that switches no runner. -/
theorem unswitched_modify {f : World → World}
    (h : ∀ w : World, w.Unswitched source (f w)) :
    (modify f : Run Unit).Keeps (World.Unswitched source) fun _ => True := by
  intro w result v hexec
  cases hexec
  exact ⟨h w, fun _ _ => trivial⟩

/-- A look keeps whatever there is to be kept. -/
theorem keeps_look {α : Type} {kept : World → World → Prop} (hkept : Frame kept) (f : World → α) :
    (Run.look f).Keeps kept fun _ => True := by
  intro w result v hexec
  cases hexec
  exact ⟨hkept.refl w, fun _ _ => trivial⟩

/-- A change of what a runner does is a change of its life, and of no other. -/
theorem lives_modify {f : RunnerState → RunnerState} {g : Bool × Bool → Bool × Bool}
    (h : ∀ state, ((f state).running, (f state).stopped) = g (state.running, state.stopped))
    (states : List RunnerState) (slot : Nat) :
    (states.modify slot f).map (fun state => (state.running, state.stopped)) =
      (states.map fun state => (state.running, state.stopped)).modify slot g := by
  apply List.ext_getElem?
  intro place
  simp only [List.getElem?_map, List.getElem?_modify]
  split
  · cases states[place]? with
    | none => rfl
    | some state => exact congrArg some (h state)
  · cases states[place]? <;> rfl

namespace Runner

variable {r : Runner}

/-- A pump may be replaced without any switching. -/
theorem unswitched_setPump (source : Source) (r : Runner) (pump : Option Pump) :
    (r.setPump pump).Keeps (World.Unswitched source) fun _ => True := by
  refine unswitched_modify fun w => ⟨?_, fun _ _ _ => rfl⟩
  have hlives := lives_modify (f := fun state => { state with pump := pump }) (g := id)
    (fun _ => rfl) w.runners r.slot
  rw [List.modify_id] at hlives
  exact hlives

theorem unswitched_nextTurn (source : Source) :
    nextTurn.Keeps (World.Unswitched source) fun _ => True := by
  intro w result v hexec
  cases hexec
  exact ⟨⟨rfl, fun _ _ _ => rfl⟩, fun _ _ => trivial⟩

/-- A pump rests without any switching. -/
theorem unswitched_rest (source : Source) (r : Runner) (p : Pump) (work : PumpWork)
    (after : Option Nat) : (r.rest p work after).Keeps (World.Unswitched source) fun _ => True := by
  have hframe := frame_unswitched source
  have hturn : (place p after).Keeps (World.Unswitched source) fun _ => True := by
    unfold place
    split
    · exact keeps_pure hframe trivial
    · exact unswitched_nextTurn source
  refine keeps_bind hframe hturn fun turn _ => ?_
  refine keeps_bind hframe (keeps_look hframe _) fun now _ => ?_
  exact unswitched_setPump source r _

theorem unswitched_persists (source : Source) (p : Pump) :
    p.persists.Keeps (World.Unswitched source) fun _ => True := by
  have hframe := frame_unswitched source
  have hdraw : Run.draw.Keeps (World.Unswitched source) fun _ => True := by
    intro w result v hexec
    cases hexec
    exact ⟨⟨rfl, fun _ _ _ => rfl⟩, fun _ _ => trivial⟩
  refine keeps_bind hframe (keeps_look hframe _) fun now _ => ?_
  cases p.armed with
  | false => exact keeps_pure hframe trivial
  | true =>
    cases p.isDue now with
    | true => exact hdraw
    | false => exact keeps_pure hframe trivial

/-- A stream ends without any switching. -/
theorem unswitched_completed (source : Source) (r : Runner) :
    r.completed.Keeps (World.Unswitched source) fun _ => True :=
  keeps_bind (frame_unswitched source) (keeps_log (frame_unswitched source) _) fun _ _ =>
    unswitched_setPump source r none

variable (hcode : r.flow.Considerate)

include hcode

/-- A poll switches nothing. -/
theorem unswitched_poll {receive : Run (Option Message)} {adapter : AdapterSpec}
    (hsource : r.flow.source = .polling receive adapter) (max : Nat) :
    (r.poll receive max).Keeps (World.Unswitched r.flow.source) fun _ => True := by
  have hframe := frame_unswitched r.flow.source
  induction max with
  | zero => exact keeps_pure hframe trivial
  | succ max ih =>
    have hreceive := keeps_unswitched (hcode.receive receive adapter hsource)
    refine keeps_bind hframe hreceive fun got _ => ?_
    cases got with
    | none => exact keeps_pure hframe trivial
    | some m =>
      exact keeps_bind hframe (keeps_unswitched (undisturbed_sendLogged hcode m)) fun _ _ => ih

/-- A pump that goes on switches no runner. -/
theorem unswitched_pump (p : Pump) :
    (r.pump p).Keeps (World.Unswitched r.flow.source) fun _ => True := by
  have hframe := frame_unswitched r.flow.source
  unfold Runner.pump
  cases p.work with
  | drain feed =>
    dsimp only
    cases p.armed with
    | false => exact unswitched_rest _ r p _ _
    | true =>
      cases feed.next.message with
      | none => exact unswitched_completed _ r
      | some m =>
        exact keeps_bind hframe (keeps_unswitched (undisturbed_sendLogged hcode m)) fun _ _ =>
          unswitched_rest _ r p _ _
  | poll =>
    cases hsource : r.flow.source with
    | polling receive adapter =>
      rw [hsource] at hframe
      exact keeps_bind hframe (hsource ▸ unswitched_poll hcode hsource _) fun _ _ =>
        unswitched_rest _ r p _ _
    | publisher | producer | channel | live | gateway => exact unswitched_setPump _ r none

/-- Nor does a pump on its way to its end. -/
theorem unswitched_windDown (rounds : Nat) :
    (r.windDown rounds).Keeps (World.Unswitched r.flow.source) fun _ => True := by
  have hframe := frame_unswitched r.flow.source
  induction rounds with
  | zero => exact fun w result v hexec => nomatch hexec
  | succ rounds ih =>
    refine keeps_bind hframe (keeps_look hframe _) fun state _ => ?_
    cases state.pump with
    | none => exact keeps_pure hframe trivial
    | some p =>
      refine keeps_bind hframe (unswitched_persists _ p) fun persists _ => ?_
      cases persists with
      | true => exact keeps_bind hframe (unswitched_pump hcode p) fun _ _ => ih
      | false => exact unswitched_setPump _ r none

end Runner

/-- The first of some pumps is one of them. -/
theorem mem_of_firstPump? {entries : List (Runner × Pump)} {first : Runner × Pump}
    (h : firstPump? entries = some first) : first ∈ entries := by
  induction entries generalizing first with
  | nil => cases h
  | cons entry rest ih =>
    rw [firstPump?] at h
    cases hrest : firstPump? rest with
    | none =>
      rw [hrest] at h
      cases h
      exact List.mem_cons_self
    | some other =>
      rw [hrest] at h
      have hother : other ∈ rest := ih hrest
      dsimp only at h
      cases hbefore : other.2.isBefore entry.2 with
      | true =>
        rw [hbefore, if_pos rfl] at h
        cases h
        exact List.mem_cons_of_mem entry hother
      | false =>
        rw [hbefore, if_neg Bool.false_ne_true] at h
        cases h
        exact List.mem_cons_self

/-- The pumps are those of the runners, and looking for them changes nothing. -/
theorem keeps_pumps {kept : World → World → Prop} (hkept : Frame kept) (runners : List Runner) :
    (pumps runners).Keeps kept fun entries => ∀ entry ∈ entries, entry.1 ∈ runners := by
  refine keeps_bind hkept (keeps_look hkept _) fun states _ => keeps_pure hkept ?_
  intro entry hentry
  obtain ⟨r, hr, hpump⟩ := List.mem_filterMap.1 hentry
  obtain ⟨p, -, rfl⟩ := Option.map_eq_some_iff.1 hpump
  exact hr

variable {runners : List Runner} (hflow : ∀ r ∈ runners, r.flow = flow)
  (hcode : flow.Considerate)

include hflow hcode

/-- Pumps go on without any switching. -/
theorem unswitched_goOn (time rounds : Nat) :
    (goOn runners time rounds).Keeps (World.Unswitched flow.source) fun _ => True := by
  have hframe := frame_unswitched flow.source
  induction rounds with
  | zero => exact fun w result v hexec => nomatch hexec
  | succ rounds ih =>
    refine keeps_bind hframe (keeps_pumps hframe runners) fun entries hentries => ?_
    split
    · exact keeps_pure hframe trivial
    · next r p hfirst =>
      have hr : r ∈ runners := hentries _ (List.mem_filter.1 (mem_of_firstPump? hfirst)).1
      have hpump := Runner.unswitched_pump (r := r) ((hflow r hr).symm ▸ hcode) p
      rw [hflow r hr] at hpump
      exact keeps_bind hframe hpump fun _ _ => ih

/-- Time that passes switches no runner, whatever is pumped in the meantime. -/
theorem unswitched_elapse (ms : Nat) :
    (elapse runners ms).Keeps (World.Unswitched flow.source) fun _ => True := by
  have hframe := frame_unswitched flow.source
  have hpass : ∀ deadline rounds,
      (passUntil (α := Unit) runners deadline (return none) rounds).Keeps
        (World.Unswitched flow.source) fun _ => True := by
    intro deadline rounds
    induction rounds with
    | zero => exact fun w result v hexec => nomatch hexec
    | succ rounds ih =>
      refine keeps_bind hframe (unswitched_modify fun w => ⟨rfl, fun _ _ _ => rfl⟩) fun _ _ => ?_
      rw [pure_bind]
      refine keeps_bind hframe (keeps_pumps hframe runners) fun entries _ => ?_
      split
      · exact keeps_bind hframe (unswitched_modify fun w => ⟨rfl, fun _ _ _ => rfl⟩) fun _ _ =>
          keeps_pure hframe trivial
      · refine keeps_bind hframe (unswitched_modify fun w => ⟨rfl, fun _ _ _ => rfl⟩) fun _ _ => ?_
        refine keeps_bind hframe (keeps_look hframe _) fun now _ => ?_
        refine keeps_bind hframe (keeps_look hframe _) fun patience _ => ?_
        exact keeps_bind hframe (unswitched_goOn hflow hcode now patience) fun _ _ => ih
  refine keeps_bind hframe (keeps_look hframe _) fun now _ => ?_
  refine keeps_bind hframe (keeps_look hframe _) fun patience _ => ?_
  exact keeps_bind hframe (hpass _ _) fun _ _ => keeps_pure hframe trivial

/-- Coming to an end switches no runner but the one that stops. -/
theorem unswitched_windUp {r : Runner} (hr : r ∈ runners) (pump : Option Pump) :
    (r.windUp runners pump).Keeps (World.Unswitched flow.source) fun _ => True := by
  have hframe := frame_unswitched flow.source
  have hend := fun rounds =>
    Runner.unswitched_windDown (r := r) ((hflow r hr).symm ▸ hcode) rounds
  rw [hflow r hr] at hend
  cases pump with
  | none => exact keeps_pure hframe trivial
  | some p =>
    refine keeps_bind hframe (keeps_look hframe _) fun patience _ => ?_
    refine keeps_bind hframe (hend patience) fun _ _ => ?_
    refine keeps_bind hframe (keeps_look hframe _) fun now _ => ?_
    refine keeps_bind hframe (keeps_look hframe _) fun patience _ => ?_
    exact unswitched_goOn hflow hcode now patience

end Pumps

end MessageFlow
