import MessageFlow.Failure

/-!
# Changes

A change acts on a state in place and may be refused on the way. What it did before it was refused
stays done; whoever wants a refusal without traces has to look first. `exec` runs a change, and its
equations say what every way of building one does to the state. A look is a value or a refusal, and
touches nothing.
-/

namespace MessageFlow

section Look

variable {ε α β : Type} {look : Except ε α} {f : α → Except ε β}

@[simp] theorem look_pure (a : α) : (pure a : Except ε α) = .ok a := rfl

@[simp] theorem look_throw (failure : ε) :
    (throw failure : Except ε α) = .error failure := rfl

@[simp] theorem look_ok_bind (a : α) (f : α → Except ε β) : (.ok a >>= f) = f a := rfl

@[simp] theorem look_error_bind (failure : ε) (f : α → Except ε β) :
    (.error failure >>= f) = .error failure := rfl

@[simp] theorem look_map_ok (f : α → β) (a : α) :
    (Except.ok a : Except ε α).map f = .ok (f a) := rfl

@[simp] theorem look_map_error (f : α → β) (failure : ε) :
    (Except.error failure : Except ε α).map f = .error failure := rfl

/-- A failure that neither of two looks has is not that of both. -/
theorem look_bind_ne_error {failure : ε} (h : look ≠ .error failure)
    (hf : ∀ a, f a ≠ .error failure) : (look >>= f) ≠ .error failure := by
  cases look with
  | error failure' => simpa using h
  | ok a => exact hf a

/-- Two looks, one after the other, have a value if the first has one and the second has that value.
-/
theorem look_bind_eq_ok {b : β} : (look >>= f) = .ok b ↔ ∃ a, look = .ok a ∧ f a = .ok b := by
  cases look <;> simp

/-- A list is looked through to its end if nothing on it is refused. -/
theorem look_of_forM {check : β → Except ε Unit} {bs : List β} (h : bs.forM check = .ok ()) :
    ∀ b ∈ bs, check b = .ok () := by
  induction bs with
  | nil => simp
  | cons b bs ih =>
    rw [List.forM_eq_forM, List.forM_cons] at h
    obtain ⟨_, hfirst, hrest⟩ := look_bind_eq_ok.1 h
    simpa [hfirst] using ih hrest

/-- A list on which nothing is refused is looked through to its end. -/
theorem look_forM_of_ok {check : β → Except ε Unit} {bs : List β}
    (h : ∀ b ∈ bs, check b = .ok ()) : bs.forM check = .ok () := by
  induction bs with
  | nil => rfl
  | cons b bs ih =>
    obtain ⟨hb, hbs⟩ := List.forall_mem_cons.1 h
    rw [List.forM_eq_forM, List.forM_cons, hb]
    exact ih hbs

end Look

/-- A change of a state that returns something or is refused. -/
abbrev Change (σ α : Type) := ExceptT Failure (StateM σ) α

namespace Change

variable {σ α β : Type}

/-- Runs a change: what it returns, and the state it leaves. -/
def exec (c : Change σ α) (s : σ) : Except Failure α × σ :=
  c.run.run s

/-- Reads something off the state, or is refused with it. -/
def ask (f : σ → Except Failure α) : Change σ α := do
  match f (← get) with
  | .ok a => return a
  | .error failure => throw failure

/-- Runs `c` and shows its refusal as a value. -/
def attempt (c : Change σ α) : Change σ (Except Failure α) :=
  ExceptT.mk do
    let result ← c.run
    return .ok result

/-- A value leaves the state as it is. -/
@[simp] theorem exec_pure (a : α) (s : σ) : exec (pure a) s = (.ok a, s) := rfl

@[simp] theorem exec_throw (failure : Failure) (s : σ) :
    exec (throw failure : Change σ α) s = (.error failure, s) := rfl

@[simp] theorem exec_get (s : σ) : exec get s = (.ok s, s) := rfl

@[simp] theorem exec_set (s t : σ) : exec (set t) s = (.ok ⟨⟩, t) := rfl

@[simp] theorem exec_modify (f : σ → σ) (s : σ) : exec (modify f) s = (.ok ⟨⟩, f s) := rfl

/-- What comes after a refusal is not done. -/
@[simp] theorem exec_bind (c : Change σ α) (f : α → Change σ β) (s : σ) :
    exec (c >>= f) s =
      match exec c s with
      | (.ok a, t) => exec (f a) t
      | (.error failure, t) => (.error failure, t) := by
  unfold exec
  rw [ExceptT.run_bind, StateT.run_bind]
  rcases StateT.run c.run s with ⟨_ | a, t⟩ <;> rfl

/-- A function of the result is no business of the state's. -/
@[simp] theorem exec_map (f : α → β) (c : Change σ α) (s : σ) :
    exec (f <$> c) s = ((exec c s).1.map f, (exec c s).2) := by
  rw [map_eq_pure_bind, exec_bind]
  rcases exec c s with ⟨_ | a, t⟩ <;> rfl

/-- A look leaves the state as it is. -/
@[simp] theorem exec_ask (f : σ → Except Failure α) (s : σ) : exec (ask f) s = (f s, s) := by
  unfold ask
  rw [exec_bind, exec_get]
  cases h : f s <;> simp [h]

/-- An attempt has the refusal as its value, and the state as the refusal left it. -/
@[simp] theorem exec_attempt (c : Change σ α) (s : σ) :
    exec (attempt c) s = (.ok (exec c s).1, (exec c s).2) := rfl

/-- Of changes that are made one after the other the first is made, and the rest from there on. -/
theorem exec_mapM_cons (f : β → Change σ α) (b : β) (bs : List β) (s : σ) :
    exec ((b :: bs).mapM f) s =
      match exec (f b) s with
      | (.ok a, t) => ((exec (bs.mapM f) t).1.map (a :: ·), (exec (bs.mapM f) t).2)
      | (.error failure, t) => (.error failure, t) := by
  rw [List.mapM_cons, exec_bind]
  rcases exec (f b) s with ⟨failure | a, t⟩
  · rfl
  · simp only [bind_pure_comp, exec_map]

/-- Changes that are all made are made one by one. -/
theorem ok_of_mapM_cons {f : β → Change σ α} {b : β} {bs : List β} {s u : σ} {as : List α}
    (h : exec ((b :: bs).mapM f) s = (.ok as, u)) :
    ∃ a t as', exec (f b) s = (.ok a, t) ∧ exec (bs.mapM f) t = (.ok as', u) := by
  rw [exec_mapM_cons] at h
  rcases hfirst : exec (f b) s with ⟨failure | a, t⟩
  · rw [hfirst] at h
    cases h
  · rw [hfirst] at h
    rcases hrest : exec (bs.mapM f) t with ⟨failure | as', v⟩
    · simp [hrest] at h
    · simp only [hrest, look_map_ok, Prod.mk.injEq] at h
      obtain ⟨-, rfl⟩ := h
      exact ⟨a, t, as', rfl, hrest⟩

end Change

end MessageFlow
