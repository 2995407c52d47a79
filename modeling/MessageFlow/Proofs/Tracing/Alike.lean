import MessageFlow.Loop
import MessageFlow.Channel.Mailbox

/-!
# Runs that differ in what they trace

Two runs in two worlds that are the same but for the lines of tracing in their journals. `Alike`
says that both end or neither does, that they end alike, and in worlds that are again the same but
for such lines. So neither who looks at the results nor who reads the rest of the journal can tell
them apart (`alike_iff_seen`).

There is a rule for each construct that runs are made of. A line of tracing may be written on one
side only (`alike_traced`); that and `alike_loop`, by which loops that never end have no counterpart
that does, is all that takes an argument.
-/

namespace MessageFlow

variable [PayloadTypes]

/-- Whether a line is one that tracing writes. -/
def Entry.isTrace : Entry → Bool
  | logged (.received ..) | logged (.completed _) | logged (.failed ..) => true
  | _ => false

namespace World

/-- The world without the lines of tracing. -/
def untraced (w : World) : World :=
  { w with journal := w.journal.filter fun entry => !entry.isTrace }

/-- Two worlds are the same but for the lines of tracing. -/
def Alike (w w' : World) : Prop :=
  w.untraced = w'.untraced

/-- The world with a line added to its journal. -/
def noted (w : World) (entry : Entry) : World :=
  { w with journal := w.journal.push entry }

/-- A line of tracing is not seen, and every other line is. -/
theorem untraced_noted (w : World) (entry : Entry) :
    (w.noted entry).untraced =
      if entry.isTrace then w.untraced else w.untraced.noted entry := by
  unfold noted untraced
  cases htrace : entry.isTrace <;> simp [htrace]

/-- Worlds that are alike remain so when both note a line. -/
theorem alike_noted {w w' : World} (h : w.Alike w') (entry : Entry) :
    (w.noted entry).Alike (w'.noted entry) := by
  unfold Alike at h ⊢
  rw [untraced_noted, untraced_noted, h]

/-- A line of tracing makes no difference. -/
theorem alike_noted_of_isTrace {w w' : World} (h : w.Alike w') {entry : Entry}
    (htrace : entry.isTrace = true) : w.Alike (w'.noted entry) := by
  unfold Alike at h ⊢
  rw [untraced_noted, if_pos htrace, h]

end World

namespace Run

/-- Two runs end alike, in worlds that are the same but for the lines of tracing, or neither of
them ends. -/
inductive EndAlike {α β : Type} (related : α → β → Prop) :
    Option (Except Failure α × World) → Option (Except Failure β × World) → Prop where
  | forever : EndAlike related none none
  | ok {a : α} {b : β} {v v' : World} : related a b → v.Alike v' →
      EndAlike related (some (.ok a, v)) (some (.ok b, v'))
  | error (failure : Failure) {v v' : World} : v.Alike v' →
      EndAlike related (some (.error failure, v)) (some (.error failure, v'))

/-- Two runs that nobody can tell apart without the lines of tracing: in worlds that are the same
but for such lines they end alike. -/
def Alike {α β : Type} (related : α → β → Prop) (r : Run α) (r' : Run β) : Prop :=
  ∀ w w', w.Alike w' → EndAlike related (r.exec w) (r'.exec w')

/-- A run that does not see what was traced. -/
def Blind {α : Type} (r : Run α) : Prop :=
  r.Alike (· = ·) r

/-- How a run ends, for who does not see what was traced. -/
def seen {α : Type} (r : Run α) (w : World) : Option (Except Failure α × World) :=
  (r.exec w).map fun ended => (ended.1, ended.2.untraced)

section Rules

variable {α β γ δ σ τ : Type} {related : α → β → Prop} {related' : γ → δ → Prop}
  {r : Run α} {r' : Run β} {q q' : Run α}

/-- Two runs end alike exactly when they look the same in worlds that look the same. -/
theorem alike_iff_seen :
    q.Alike (· = ·) q' ↔ ∀ w w', w.Alike w' → q.seen w = q'.seen w' := by
  constructor
  · intro h w w' hw
    have hends := h w w' hw
    unfold seen
    generalize q.exec w = ended, q'.exec w' = ended' at hends
    cases hends with
    | forever => rfl
    | ok hsame hv => rw [Option.map_some, Option.map_some, hsame, hv]
    | error failure hv => rw [Option.map_some, Option.map_some, hv]
  · intro h w w' hw
    have hseen := h w w' hw
    unfold seen at hseen
    generalize q.exec w = ended, q'.exec w' = ended' at hseen ⊢
    rcases ended with _ | ⟨result, v⟩ <;> rcases ended' with _ | ⟨result', v'⟩
    · exact .forever
    · cases hseen
    · cases hseen
    · obtain ⟨hresult, hv⟩ := Prod.mk.inj (Option.some.inj hseen)
      obtain rfl : result = result' := hresult
      cases result with
      | ok a => exact .ok rfl hv
      | error failure => exact .error failure hv

/-- Runs end alike, whichever of them comes first. -/
theorem endAlike_symm {ended : Option (Except Failure α × World)}
    {ended' : Option (Except Failure β × World)} (h : EndAlike related ended ended') :
    EndAlike (fun b a => related a b) ended' ended := by
  cases h with
  | forever => exact .forever
  | ok hrelated hv => exact .ok hrelated hv.symm
  | error failure hv => exact .error failure hv.symm

theorem alike_symm (h : r.Alike related r') : r'.Alike (fun b a => related a b) r :=
  fun w w' hw => endAlike_symm (h w' w hw.symm)

/-- Runs that end alike do so in what follows from it. -/
theorem alike_mono {weaker : α → β → Prop} (h : r.Alike related r')
    (hweaker : ∀ a b, related a b → weaker a b) : r.Alike weaker r' := by
  intro w w' hw
  have hends := h w w' hw
  generalize r.exec w = ended, r'.exec w' = ended' at hends
  cases hends with
  | forever => exact .forever
  | ok hrelated hv => exact .ok (hweaker _ _ hrelated) hv
  | error failure hv => exact .error failure hv

/-- Values that are related are alike. -/
theorem alike_pure {a : α} {b : β} (h : related a b) :
    (pure a : Run α).Alike related (pure b) :=
  fun _ _ hw => .ok h hw

/-- Two runs that fail with one failure are alike. -/
theorem alike_throw (failure : Failure) :
    (throw failure : Run α).Alike related (throw failure : Run β) :=
  fun _ _ hw => .error failure hw

/-- Nothing is done after a failure. -/
theorem alike_throw_bind (failure : Failure) (f : γ → Run α) (f' : δ → Run β) :
    (throw failure >>= f).Alike related (throw failure >>= f') :=
  fun _ _ hw => .error failure hw

theorem alike_giveUp : (giveUp : Run α).Alike related (giveUp : Run β) :=
  fun _ _ _ => .forever

/-- One step after the other. -/
theorem alike_bind {f : α → Run γ} {f' : β → Run δ} (h : r.Alike related r')
    (hf : ∀ a b, related a b → (f a).Alike related' (f' b)) :
    (r >>= f).Alike related' (r' >>= f') := by
  intro w w' hw
  rw [exec_bind, exec_bind]
  have hends := h w w' hw
  generalize r.exec w = ended, r'.exec w' = ended' at hends
  cases hends with
  | forever => exact .forever
  | ok hrelated hv => exact hf _ _ hrelated _ _ hv
  | error failure hv => exact .error failure hv

/-- Both sides go on with the same value. -/
theorem alike_then {f f' : α → Run β} (h : q.Alike (· = ·) q')
    (hf : ∀ a, (f a).Alike (· = ·) (f' a)) : (q >>= f).Alike (· = ·) (q' >>= f') := by
  refine alike_bind h fun a b hab => ?_
  subst hab
  exact hf a

/-- Attempts are alike if what they attempt is. -/
theorem alike_attempt (h : q.Alike (· = ·) q') :
    (attempt q).Alike (· = ·) (attempt q') := by
  intro w w' hw
  rw [exec_attempt, exec_attempt]
  have hends := h w w' hw
  generalize q.exec w = ended, q'.exec w' = ended' at hends
  cases hends with
  | forever => exact .forever
  | ok hsame hv => exact .ok (congrArg Except.ok hsame) hv
  | error failure hv => exact .ok rfl hv

/-- What does not depend on the journal is the same on both sides. -/
theorem blind_look {f : World → α} (h : ∀ w, f w.untraced = f w) : (look f).Blind := by
  intro w w' hw
  refine .ok ?_ hw
  rw [← h w, ← h w', hw]

/-- A run that does with the lines of tracing hidden what it does anyway does not see them. -/
theorem blind_of_untraced (h : ∀ w, q.exec w.untraced = q.seen w) : q.Blind :=
  alike_iff_seen.2 fun w w' hw => by rw [← h, ← h, hw]

/-- A change that a trace makes no difference to is blind. -/
theorem blind_modify {f : World → World} (h : ∀ w, f w.untraced = (f w).untraced) :
    (modify f : Run Unit).Blind :=
  blind_of_untraced fun w => by rw [exec_modify, h]; rfl

theorem blind_note (entry : Entry) : (note entry).Blind :=
  fun _ _ hw => .ok rfl (World.alike_noted hw entry)

theorem blind_log (event : LogEvent) : (log event).Blind :=
  blind_note (.logged event)

/-- A line of tracing on one side only. -/
theorem alike_traced {event : LogEvent} (htrace : (Entry.logged event).isTrace = true)
    {f : Unit → Run β} (h : r.Alike related (f ())) : r.Alike related (log event >>= f) := by
  intro w w' hw
  rw [exec_bind, exec_log]
  exact h w _ (World.alike_noted_of_isTrace hw htrace)

/-- A loop that ends has a counterpart that ends alike, if their steps are alike. -/
theorem endAlike_of_loop {step : Step σ α} {step' : Step τ β} (same : σ → τ → Prop)
    (h : ∀ s t, same s t → (step s).Alike (Sum.LiftRel same related) (step' t)) {s : σ} {t : τ}
    (hstart : same s t) {w w' v : World} {result : Except Failure α} (hw : w.Alike w')
    (hexec : (loop step s).exec w = some (result, v)) :
    EndAlike related (some (result, v)) ((loop step' t).exec w') := by
  -- The induction is on the rounds of the first loop; the second is unrolled once for each.
  refine loop_induction (motive := fun s w result v => ∀ t w', same s t → w.Alike w' →
    EndAlike related (some (result, v)) ((loop step' t).exec w')) ?_ ?_ ?_ hexec t w' hstart hw
  · intro s w a v hstep t w' hsame hw
    have hends := h s t hsame w w' hw
    rw [hstep] at hends
    rw [exec_loop]
    generalize (step' t).exec w' = ended' at hends
    cases hends with
    | ok hnext hv =>
      cases hnext with
      | inr hrelated => exact .ok hrelated hv
  · intro s w failure v hstep t w' hsame hw
    have hends := h s t hsame w w' hw
    rw [hstep] at hends
    rw [exec_loop]
    generalize (step' t).exec w' = ended' at hends
    cases hends with
    | error _ hv => exact .error failure hv
  · intro s w s' u result v hstep ih t w' hsame hw
    have hends := h s t hsame w w' hw
    rw [hstep] at hends
    rw [exec_loop]
    generalize (step' t).exec w' = ended' at hends
    cases hends with
    | ok hnext hu =>
      cases hnext with
      | inl hsame' => exact ih _ _ hsame' hu

/-- Loops are alike if their steps are: no step of the one can end it while the other goes on. -/
theorem alike_loop {step : Step σ α} {step' : Step τ β} (same : σ → τ → Prop)
    (h : ∀ s t, same s t → (step s).Alike (Sum.LiftRel same related) (step' t)) {s : σ} {t : τ}
    (hstart : same s t) : (loop step s).Alike related (loop step' t) := by
  intro w w' hw
  have hback : ∀ t s, same s t → (step' t).Alike
      (Sum.LiftRel (fun t s => same s t) fun b a => related a b) (step s) := by
    intro t s hsame
    refine alike_mono (alike_symm (h s t hsame)) fun next' next hnext => ?_
    cases hnext with
    | inl hsame' => exact .inl hsame'
    | inr hrelated => exact .inr hrelated
  cases hexec : (loop step s).exec w with
  | some ended => exact endAlike_of_loop same h hstart hw hexec
  | none =>
    cases hexec' : (loop step' t).exec w' with
    | none => exact .forever
    | some ended' =>
      -- The other loop would have to end too.
      obtain ⟨result', v'⟩ := ended'
      have hends := endAlike_of_loop (fun t s => same s t) hback hstart hw.symm hexec'
      rw [hexec] at hends
      cases hends

/-- A list that is gone through, on both sides. -/
theorem alike_mapM {f : γ → Run α} {f' : γ → Run α} (xs : List γ)
    (h : ∀ x, (f x).Alike (· = ·) (f' x)) : (xs.mapM f).Alike (· = ·) (xs.mapM f') := by
  induction xs with
  | nil => exact alike_pure rfl
  | cons x xs ih =>
    rw [List.mapM_cons, List.mapM_cons]
    exact alike_then (h x) fun a => alike_then ih fun as => alike_pure rfl

end Rules

section World

/-- Ids are given out whatever was traced. -/
theorem blind_freshId : freshId.Blind :=
  blind_of_untraced fun _ => rfl

theorem blind_reply (m : Message) (payload : Payload) : (reply m payload).Blind :=
  alike_then blind_freshId fun _ => alike_then (blind_look fun _ => rfl) fun _ => alike_pure rfl

/-- Messages are made whatever was traced. -/
theorem blind_newMessage (payload : Payload) : (newMessage payload).Blind :=
  alike_then blind_freshId fun _ => alike_then (blind_look fun _ => rfl) fun _ => alike_pure rfl

theorem blind_count (counter : Nat) : (count counter).Blind :=
  blind_of_untraced fun _ => rfl

/-- Channels are opened whatever was traced. -/
theorem blind_openChannel (live : LiveChannel) : (openChannel live).Blind :=
  blind_of_untraced fun _ => rfl

/-- Mailboxes hold no traces. -/
theorem blind_withMailbox {α : Type} [Inhabited α] (channel : LiveRef)
    (f : Mailbox → α × Mailbox) : (withMailbox channel f).Blind := by
  refine blind_of_untraced fun w => ?_
  have hchannels : w.untraced.channels = w.channels := rfl
  simp only [seen, withMailbox, exec_bind, exec_get, hchannels]
  cases w.channels[channel.key]? <;> rfl

/-- Messages are taken or refused whatever was traced. -/
theorem blind_send (channel : LiveRef) (m : Message) : (send channel m).Blind := by
  refine alike_then (blind_look fun _ => rfl) fun live => ?_
  cases live.any (fun channel => !channel.takes m.payload.type) with
  | true => exact alike_throw_bind _ _ _
  | false => exact alike_then (blind_log _) fun _ => blind_withMailbox channel _

end World

end Run

end MessageFlow
