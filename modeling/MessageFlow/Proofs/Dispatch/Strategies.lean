import MessageFlow.Proofs.Dispatch.Stages

/-!
# What stages compute under error strategies

A strategy that knows a failure by its face alone leaves a stateless stage stateless. Trying again
changes nothing: such a stage fails again. What counts is whether the failure is passed on in the
end, or the message is dropped (`computesOn_strategy`).
-/

namespace MessageFlow

variable [PayloadTypes]

/-- A strategy that knows a failure by its face: it tries again so many times, and then drops the
message or passes the failure on. -/
def ErrorStrategy.Settles (limit : Failure → Nat) (skips : Failure → Bool)
    (strategy : ErrorStrategy) : Prop :=
  ∀ failure retries, retries ≤ limit failure.face →
    Follows Failure.face (· = ·) (strategy.decide failure retries)
      (.ok (if retries < limit failure.face then .retry
        else if skips failure.face then .skip else .stop))

theorem settles_stop : ErrorStrategy.stop.Settles (fun _ => 0) fun _ => false :=
  fun _ _ _ => follows_pure rfl

theorem settles_skip : ErrorStrategy.skip.Settles (fun _ => 0) fun _ => true :=
  fun _ _ _ => follows_pure rfl

theorem settles_retry (limit : Nat) :
    (ErrorStrategy.retry limit).Settles (fun _ => limit) fun _ => false :=
  fun _ _ _ => follows_pure rfl

/-- What a stage makes of a message if some of its failures drop the message instead. -/
def spared {V : Type} (skips : Failure → Bool) (f : V → Except Failure (List V)) (v : V) :
    Except Failure (List V) :=
  match f v with
  | .ok vs => .ok vs
  | .error e => if skips e then .ok [] else .error e

section Strategies

variable {V : Type} {view : Message → V} {sort : Message → Prop} {info : StageInfo} {m : Message}
  {stage : Message → Run Outcome} {strategy : ErrorStrategy}
  {limit : Failure → Nat} {skips : Failure → Bool} {e : Failure}

/-- A stage that fails is tried again as long as the strategy has it, and fails each time. -/
theorem follows_retried (hstrategy : strategy.Settles limit skips)
    (hstage : Follows Failure.face (PassesOn view sort) (stage m) (.error e)) {left retries : Nat}
    (hretries : retries + left = limit e) :
    Follows Failure.face (PassesOn view sort)
      (Run.loop (strategy.attempt info m stage) retries)
      (if skips e then .ok [] else .error e) := by
  induction left generalizing retries with
  | zero =>
    rw [Run.loop_eq, ErrorStrategy.attempt, bind_assoc]
    refine follows_after (follows_attempt hstage) fun result hresult => ?_
    cases result with
    | ok outcome => exact hresult.elim
    | error failure =>
      have hface : failure.face = e := hresult
      subst hface
      have hlast : ¬retries < limit failure.face := by omega
      have hdecide := hstrategy failure retries (by omega)
      rw [if_neg hlast] at hdecide
      rw [bind_assoc]
      refine follows_after hdecide fun action haction => ?_
      subst haction
      cases skips failure.face with
      | false => exact follows_throw failure
      | true =>
        simp only [if_true, bind_assoc]
        exact follows_after (follows_log _) fun _ _ => follows_pure ⟨[], rfl, rfl, by simp⟩
  | succ left ih =>
    rw [Run.loop_eq, ErrorStrategy.attempt, bind_assoc]
    refine follows_after (follows_attempt hstage) fun result hresult => ?_
    cases result with
    | ok outcome => exact hresult.elim
    | error failure =>
      have hface : failure.face = e := hresult
      subst hface
      have hmore : retries < limit failure.face := by omega
      have hdecide := hstrategy failure retries (by omega)
      rw [if_pos hmore] at hdecide
      rw [bind_assoc]
      refine follows_after hdecide fun action haction => ?_
      subst haction
      simp only [bind_assoc]
      refine follows_after (follows_log _) fun _ _ => ?_
      rw [pure_bind]
      exact ih (by omega)

/-- What a stage computes that is wrapped in a strategy. -/
theorem computesOn_strategy {f : V → Except Failure (List V)}
    (hstrategy : strategy.Settles limit skips) (h : ComputesOn view Failure.face sort stage f) :
    ComputesOn view Failure.face sort (fun m => strategy.advice info m stage)
      (spared skips f) := by
  intro m hm
  have hstage := h m hm
  unfold ErrorStrategy.advice spared
  cases hlook : f (view m) with
  | error e =>
    rw [hlook] at hstage
    exact follows_retried hstrategy hstage (Nat.zero_add _)
  | ok vs =>
    rw [hlook] at hstage
    show Follows Failure.face (PassesOn view sort)
      (Run.loop (strategy.attempt info m stage) 0) (.ok vs)
    rw [Run.loop_eq, ErrorStrategy.attempt, bind_assoc]
    refine follows_after (follows_attempt hstage) fun result hresult => ?_
    cases result with
    | error failure => exact hresult.elim
    | ok outcome =>
      rw [pure_bind]
      exact follows_pure hresult

/-- Advice that drops the messages of certain failures, and changes nothing else about how stages
end. -/
def Advice.Spares (skips : Failure → Bool) (advice : Advice) : Prop :=
  ∀ (V : Type) (view : Message → V) (sort : Message → Prop) (info : StageInfo)
    (stage : Message → Run Outcome) (f : V → Except Failure (List V)),
    ComputesOn view Failure.face sort stage f →
    ComputesOn view Failure.face sort (fun m => advice info m stage) (spared skips f)

theorem spares_tracing : Advice.tracing.Spares fun _ => false := by
  intro V view sort info stage f h m hm
  have hspared : spared (fun _ => false) f (view m) = f (view m) := by
    unfold spared
    cases f (view m) <;> rfl
  rw [hspared]
  exact computesOn_traced info h m hm

theorem spares_strategy (hstrategy : strategy.Settles limit skips) :
    strategy.advice.Spares skips :=
  fun _ _ _ _ _ _ h => computesOn_strategy hstrategy h

/-- What a stage computes with a chain of advice around it, the innermost first to spare a
failure. -/
theorem computesOn_advised {handler : Handler} {f : V → Except Failure (List V)}
    {chain : List (Advice × (Failure → Bool))} (hchain : ∀ a ∈ chain, a.1.Spares a.2)
    (h : ComputesOn view Failure.face sort (handler info) f) :
    ComputesOn view Failure.face sort (handler.advised (chain.map Prod.fst) info)
      (chain.foldr (fun a => spared a.2) f) := by
  induction chain with
  | nil => exact h
  | cons a chain ih =>
    rw [List.forall_mem_cons] at hchain
    exact hchain.1 V view sort info _ _ (ih hchain.2)

end Strategies

end MessageFlow
