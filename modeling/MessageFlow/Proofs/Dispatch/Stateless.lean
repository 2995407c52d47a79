import MessageFlow.Endpoint

/-!
# Stateless stages

Runs that touch no channel, compared with looks. `Follows` says that a run ends as a look does,
whatever the world: with a related value, or with a failure that is blamed alike. It goes along with
`>>=` (`follows_bind`), so a program of such runs is compared step by step.

`Computes` says of a stage that it is stateless as far as a view of messages shows. A view leaves
out what differs from run to run, such as the ids of new messages. `ComputesFor` says besides that
it keeps the reply channel of what it is given, as a stage does unless an advice changes it. A stage
that keeps each reply channel computes whatever it is given (`computes_of_forall`). Tracing goes
unnoticed (`computesOn_traced`).
-/

namespace MessageFlow

variable [PayloadTypes]

section Follows

variable {α β γ δ E : Type} {blame : Failure → E} {related : α → β → Prop} {r : Run α}

/-- A run that touches no channel and ends as a look does. -/
def Follows (blame : Failure → E) (related : α → β → Prop) (r : Run α) : Except E β → Prop
  | .ok b => ∀ w, ∃ a v, r.exec w = some (.ok a, v) ∧ related a b ∧ v.channels = w.channels
  | .error e =>
    ∀ w, ∃ failure v, r.exec w = some (.error failure, v) ∧ blame failure = e ∧
      v.channels = w.channels

theorem follows_pure {a : α} {b : β} (h : related a b) :
    Follows blame related (pure a) (.ok b) :=
  fun w => ⟨a, w, rfl, h, rfl⟩

theorem follows_throw (failure : Failure) :
    Follows blame related (throw failure) (.error (blame failure)) :=
  fun w => ⟨failure, w, rfl, rfl, rfl⟩

theorem follows_mono {look : Except E β} {weaker : α → β → Prop}
    (h : Follows blame related r look) (hweaker : ∀ a b, related a b → weaker a b) :
    Follows blame weaker r look := by
  cases look with
  | error e => exact h
  | ok b =>
    intro w
    obtain ⟨a, v, hexec, hrelated, hchannels⟩ := h w
    exact ⟨a, v, hexec, hweaker a b hrelated, hchannels⟩

/-- One step after the other. -/
theorem follows_bind {related' : γ → δ → Prop} {look : Except E β} {f : α → Run γ}
    {g : β → Except E δ} (h : Follows blame related r look)
    (hf : ∀ a b, related a b → Follows blame related' (f a) (g b)) :
    Follows blame related' (r >>= f) (look >>= g) := by
  cases look with
  | error e =>
    intro w
    obtain ⟨failure, v, hexec, hblame, hchannels⟩ := h w
    exact ⟨failure, v, by simp [hexec], hblame, hchannels⟩
  | ok b =>
    show Follows blame related' (r >>= f) (g b)
    -- The value may differ from world to world. What follows it does not: it is what `g b` says.
    have hnext : ∀ w, ∃ a v, r.exec w = some (.ok a, v) ∧
        Follows blame related' (f a) (g b) ∧ v.channels = w.channels := by
      intro w
      obtain ⟨a, v, hexec, hrelated, hchannels⟩ := h w
      exact ⟨a, v, hexec, hf a b hrelated, hchannels⟩
    generalize g b = look' at hnext
    cases look' with
    | error e =>
      intro w
      obtain ⟨a, v, hexec, hfollows, hchannels⟩ := hnext w
      obtain ⟨failure, v', hexec', hblame, hchannels'⟩ := hfollows v
      exact ⟨failure, v', by simp [hexec, hexec'], hblame, hchannels'.trans hchannels⟩
    | ok d =>
      intro w
      obtain ⟨a, v, hexec, hfollows, hchannels⟩ := hnext w
      obtain ⟨c, v', hexec', hrelated', hchannels'⟩ := hfollows v
      exact ⟨c, v', by simp [hexec, hexec'], hrelated', hchannels'.trans hchannels⟩

theorem channels_of_follows {look : Except E β} (h : Follows blame related r look) {w v : World}
    {result : Except Failure α} (hexec : r.exec w = some (result, v)) :
    v.channels = w.channels := by
  cases look with
  | ok b =>
    obtain ⟨a, v', hexec', -, hchannels⟩ := h w
    cases hexec.symm.trans hexec'
    exact hchannels
  | error e =>
    obtain ⟨failure, v', hexec', -, hchannels⟩ := h w
    cases hexec.symm.trans hexec'
    exact hchannels

/-- A step of the run alone. -/
theorem follows_after {related' : γ → δ → Prop} {f : α → Run γ} {look : Except E δ} {b : β}
    (h : Follows blame related r (.ok b))
    (hf : ∀ a, related a b → Follows blame related' (f a) look) :
    Follows blame related' (r >>= f) look := by
  have h' : Follows blame (fun a (_ : β) => related a b) r (.ok b) := h
  exact follows_bind (g := fun _ => look) h' fun a _ => hf a

theorem follows_log (event : LogEvent) :
    Follows blame (fun _ _ => True) (Run.log event) (.ok ()) :=
  fun w => ⟨(), _, Run.exec_log event w, trivial, rfl⟩

/-- An attempt ends as a look does, and shows how. -/
theorem follows_attempt {look : Except E β} (h : Follows blame related r look) :
    Follows blame
      (fun result look =>
        match result, look with
        | .ok a, .ok b => related a b
        | .error failure, .error e => blame failure = e
        | _, _ => False)
      (Run.attempt r) (.ok look) := by
  cases look with
  | ok b =>
    intro w
    obtain ⟨a, v, hexec, hrelated, hchannels⟩ := h w
    exact ⟨.ok a, v, by simp [hexec], hrelated, hchannels⟩
  | error e =>
    intro w
    obtain ⟨failure, v, hexec, hblame, hchannels⟩ := h w
    exact ⟨.error failure, v, by simp [hexec], hblame, hchannels⟩

/-- A reply differs from what it replies to in its payload, and in what no view should show. -/
theorem follows_reply (m : Message) (payload : Payload) :
    Follows blame (fun reply _ => ∃ id now, reply = m.replaced id now payload)
      (Run.reply m payload) (.ok ()) := by
  intro w
  refine ⟨m.replaced (.fresh w.issued) w.clock payload, { w with issued := w.issued + 1 }, ?_,
    ⟨_, _, rfl⟩, rfl⟩
  simp [Run.reply, Run.freshId, Except.map]

end Follows

/-! ## Stages -/

/-- The messages that an outcome passes on to the output of its stage, if it sends none
elsewhere. -/
def Outcome.onward : Outcome → Option (List Message)
  | .reply m => some [m]
  | .many ms => some ms
  | .discard _ none => some []
  | .done => some []
  | .discard _ (some _) => none
  | .route _ => none

/-- An outcome as a view shows it. All of its messages are of one sort. -/
def PassesOn {V : Type} (view : Message → V) (sort : Message → Prop) (outcome : Outcome)
    (vs : List V) : Prop :=
  ∃ ms, outcome.onward = some ms ∧ ms.map view = vs ∧ ∀ m ∈ ms, sort m

/-- A stage that is a function of what a view shows of a message. It is told of messages of one
sort, and makes no others of them. -/
def ComputesOn {V E : Type} (view : Message → V) (blame : Failure → E) (sort : Message → Prop)
    (stage : Message → Run Outcome) (f : V → Except E (List V)) : Prop :=
  ∀ m, sort m → Follows blame (PassesOn view sort) (stage m) (f (view m))

/-- A stage that is a function of what a view shows of a message, whatever message it is given and
whatever messages it makes. -/
def Computes {V E : Type} (view : Message → V) (blame : Failure → E)
    (stage : Message → Run Outcome) (f : V → Except E (List V)) : Prop :=
  ComputesOn view blame (fun _ => True) stage f

/-- An outcome as a view shows it. All of its messages have one reply channel, or none has. -/
abbrev PassesFor {V : Type} (view : Message → V) (reply : Option ChannelRef) (outcome : Outcome)
    (vs : List V) : Prop :=
  PassesOn view (fun m => m.headers.replyChannel = reply) outcome vs

/-- A stage that is a function of what a view shows of a message. It is told of messages with one
reply channel, or with none, and gives it to all messages that it makes of them. -/
def ComputesFor {V E : Type} (view : Message → V) (blame : Failure → E) (reply : Option ChannelRef)
    (stage : Message → Run Outcome) (f : V → Except E (List V)) : Prop :=
  ComputesOn view blame (fun m => m.headers.replyChannel = reply) stage f

section Stages

variable {V E : Type} {view : Message → V} {blame : Failure → E} {stage : Message → Run Outcome}
  {f : V → Except E (List V)}

theorem computes_of_forall (h : ∀ reply, ComputesFor view blame reply stage f) :
    Computes view blame stage f := by
  intro m _
  refine follows_mono (h m.headers.replyChannel m rfl) fun outcome vs hpasses => ?_
  obtain ⟨ms, hms, hviews, -⟩ := hpasses
  exact ⟨ms, hms, hviews, fun _ _ => trivial⟩

/-- Tracing does not change how a stage ends. -/
theorem follows_traced {β : Type} {related : Outcome → β → Prop} {look : Except E β}
    (info : StageInfo) (m : Message) (h : Follows blame related (stage m) look) :
    Follows blame related (Advice.tracing info m stage) look := by
  refine follows_after (follows_log _) fun _ _ => ?_
  refine follows_after (follows_attempt h) fun result hresult => ?_
  cases result with
  | ok outcome =>
    cases look with
    | ok vs => exact follows_after (follows_log _) fun _ _ => follows_pure hresult
    | error e => exact hresult.elim
  | error failure =>
    cases look with
    | ok vs => exact hresult.elim
    | error e =>
      have hblame : blame failure = e := hresult
      subst hblame
      exact follows_after (follows_log _) fun _ _ => follows_throw failure

theorem computesOn_traced {sort : Message → Prop} (info : StageInfo)
    (h : ComputesOn view blame sort stage f) :
    ComputesOn view blame sort (fun m => Advice.tracing info m stage) f :=
  fun m hm => follows_traced info m (h m hm)

theorem computes_traced (info : StageInfo) (h : Computes view blame stage f) :
    Computes view blame (fun m => Advice.tracing info m stage) f :=
  computesOn_traced info h

end Stages

end MessageFlow
