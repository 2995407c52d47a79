import MessageFlow.Flow

/-!
# Lines

Stages in a line: each consumes the channel that the one before it sends to. Flows grow at their
ends, so what is said of a line is said of its last stage (`line_concat`).
-/

namespace MessageFlow

variable [PayloadTypes]

/-- Stages that lead from an entrance to an exit. An end that is open has no channel; channels are
the same when their names are. -/
def Line : Option ChannelRef → List FlowStage → Option ChannelRef → Prop
  | entrance, [], exit => entrance.map ChannelRef.name = exit.map ChannelRef.name
  | entrance, stage :: stages, exit =>
    entrance.map ChannelRef.name = some stage.input.name ∧ Line stage.endpoint.output stages exit

/-- The reference that stages lead to from another: the output of the last stage that has one. -/
def reached : ChannelRef → List FlowStage → ChannelRef
  | ref, [] => ref
  | ref, stage :: stages => reached (stage.endpoint.output.getD ref) stages

variable {entrance exit : Option ChannelRef} {stages : List FlowStage} {stage : FlowStage}

/-- A line that goes on with a stage ends where its last stage takes its input, and the exit is the
output of the stage. -/
theorem line_concat : Line entrance (stages ++ [stage]) exit ↔
    Line entrance stages (some stage.input) ∧
      stage.endpoint.output.map ChannelRef.name = exit.map ChannelRef.name := by
  induction stages generalizing entrance with
  | nil => exact Iff.rfl
  | cons first stages ih => simp only [List.cons_append, Line, ih, and_assoc]

/-- A line can be entered at each of its stages. -/
theorem line_suffix {before after : List FlowStage}
    (h : Line entrance (before ++ stage :: after) exit) :
    Line (some stage.input) (stage :: after) exit := by
  induction before generalizing entrance with
  | nil => exact ⟨rfl, h.2⟩
  | cons first before ih => exact ih h.2

/-- A line can be left ahead of each of its stages. -/
theorem line_prefix {before after : List FlowStage}
    (h : Line entrance (before ++ stage :: after) exit) :
    Line entrance before (some stage.input) := by
  induction before generalizing entrance with
  | nil => exact h.1
  | cons first before ih => exact ⟨h.1, ih h.2⟩

/-- A line that ends somewhere starts somewhere. -/
theorem exists_entrance {out : ChannelRef} (h : Line entrance stages (some out)) :
    ∃ ref, entrance = some ref := by
  have hname : ∃ name, entrance.map ChannelRef.name = some name := by
    cases stages with
    | nil => exact ⟨out.name, h⟩
    | cons stage stages => exact ⟨stage.input.name, h.1⟩
  obtain ⟨name, hname⟩ := hname
  obtain ⟨ref, href, -⟩ := Option.map_eq_some_iff.1 hname
  exact ⟨ref, href⟩

/-- What a line of stages reaches the rest of it goes on from. -/
theorem reached_append (ref : ChannelRef) (before after : List FlowStage) :
    reached ref (before ++ after) = reached (reached ref before) after := by
  induction before generalizing ref with
  | nil => rfl
  | cons stage before ih => exact ih (stage.endpoint.output.getD ref)

/-- A line leads to its exit. -/
theorem name_reached {ref out : ChannelRef} (h : Line (some ref) stages (some out)) :
    (reached ref stages).name = out.name := by
  induction stages generalizing ref with
  | nil => exact Option.some.inj h
  | cons stage stages ih =>
    obtain ⟨next, hout⟩ := exists_entrance h.2
    rw [reached, hout]
    exact ih (hout ▸ h.2)

/-- What holds of the reference at the entrance and of all outputs holds of the one at the exit. -/
theorem reached_induction {good : ChannelRef → Prop} {ref : ChannelRef} (href : good ref)
    (hstages : ∀ stage ∈ stages, ∀ out, stage.endpoint.output = some out → good out) :
    good (reached ref stages) := by
  induction stages generalizing ref with
  | nil => exact href
  | cons stage stages ih =>
    rw [List.forall_mem_cons] at hstages
    rw [reached]
    refine ih ?_ hstages.2
    cases hout : stage.endpoint.output with
    | none => exact href
    | some out => exact hstages.1 out hout

/-- An exit goes by its name. -/
theorem line_congr {exit' : Option ChannelRef} (h : Line entrance stages exit)
    (hexit : exit.map ChannelRef.name = exit'.map ChannelRef.name) :
    Line entrance stages exit' := by
  rcases List.eq_nil_or_concat stages with rfl | ⟨stages, stage, rfl⟩
  · exact Eq.trans h hexit
  · rw [List.concat_eq_append, line_concat] at h ⊢
    exact ⟨h.1, h.2.trans hexit⟩

end MessageFlow
