import MessageFlow.Change

/-!
# Levels

Two ways to apply stages that make many things of one, or fail. `levels` applies each stage to all
that the stages before it made, so the first failure is the one of the earliest stage. `through`
follows each thing to the end before it looks at the next one: the composition of the stages as
functions to lists. Where one of them succeeds both do, with the same list (`levels_eq_ok`); only
what fails first may differ.
-/

namespace MessageFlow

variable {σ V E : Type} {f : σ → V → Except E (List V)}

/-- Stage by stage. -/
def levels (f : σ → V → Except E (List V)) (stages : List σ) (vs : List V) :
    Except E (List V) :=
  stages.foldlM (fun vs stage => vs.flatMapM (f stage)) vs

/-- Thing by thing. -/
def through (f : σ → V → Except E (List V)) : List σ → V → Except E (List V)
  | [], v => .ok [v]
  | stage :: stages, v => do (← f stage v).flatMapM (through f stages)

theorem levels_cons (stage : σ) (stages : List σ) (vs : List V) :
    levels f (stage :: stages) vs = vs.flatMapM (f stage) >>= levels f stages := by
  rw [levels, List.foldlM_cons]
  rfl

theorem flatMapM_cons_eq_ok {α β : Type} {g : α → Except E (List β)} {a : α} {as : List α}
    {bs : List β} : (a :: as).flatMapM g = .ok bs ↔
      ∃ first rest, g a = .ok first ∧ as.flatMapM g = .ok rest ∧ first ++ rest = bs := by
  rw [List.flatMapM_cons, look_bind_eq_ok]
  refine exists_congr fun first => ?_
  rw [look_bind_eq_ok]
  constructor
  · rintro ⟨hfirst, rest, hrest, hbs⟩
    cases hbs
    exact ⟨rest, hfirst, hrest, rfl⟩
  · rintro ⟨rest, hfirst, hrest, rfl⟩
    exact ⟨hfirst, rest, hrest, rfl⟩

theorem flatMapM_append_eq_ok {α β : Type} {g : α → Except E (List β)} {as as' : List α}
    {bs : List β} : (as ++ as').flatMapM g = .ok bs ↔
      ∃ first rest, as.flatMapM g = .ok first ∧ as'.flatMapM g = .ok rest ∧
        first ++ rest = bs := by
  induction as generalizing bs with
  | nil =>
    refine ⟨fun h => ⟨[], bs, rfl, h, rfl⟩, ?_⟩
    rintro ⟨first, rest, hfirst, hrest, hbs⟩
    cases hfirst
    rw [← hbs]
    exact hrest
  | cons a as ih =>
    rw [List.cons_append, flatMapM_cons_eq_ok]
    constructor
    · rintro ⟨first, rest, hfirst, hrest, rfl⟩
      obtain ⟨middle, last, hmiddle, hlast, rfl⟩ := ih.1 hrest
      refine ⟨first ++ middle, last, flatMapM_cons_eq_ok.2 ⟨first, middle, hfirst, hmiddle, rfl⟩,
        hlast, List.append_assoc ..⟩
    · rintro ⟨front, last, hfront, hlast, rfl⟩
      obtain ⟨first, middle, hfirst, hmiddle, rfl⟩ := flatMapM_cons_eq_ok.1 hfront
      exact ⟨first, middle ++ last, hfirst, ih.2 ⟨middle, last, hmiddle, hlast, rfl⟩,
        (List.append_assoc ..).symm⟩

/-- What two steps make of a list, each for the whole list or both for one thing after the other. -/
theorem flatMapM_flatMapM_eq_ok {α β γ : Type} {g : α → Except E (List β)}
    {h : β → Except E (List γ)} {as : List α} {cs : List γ} :
    (as.flatMapM g >>= fun bs => bs.flatMapM h) = .ok cs ↔
      (as.flatMapM fun a => g a >>= fun bs => bs.flatMapM h) = .ok cs := by
  induction as generalizing cs with
  | nil => exact Iff.rfl
  | cons a as ih =>
    rw [look_bind_eq_ok, flatMapM_cons_eq_ok]
    constructor
    · rintro ⟨bs, hbs, hcs⟩
      obtain ⟨first, rest, hfirst, hrest, rfl⟩ := flatMapM_cons_eq_ok.1 hbs
      obtain ⟨front, last, hfront, hlast, rfl⟩ := flatMapM_append_eq_ok.1 hcs
      exact ⟨front, last, look_bind_eq_ok.2 ⟨first, hfirst, hfront⟩,
        ih.1 (look_bind_eq_ok.2 ⟨rest, hrest, hlast⟩), rfl⟩
    · rintro ⟨front, last, hfront, hlast, rfl⟩
      obtain ⟨first, hfirst, hfront⟩ := look_bind_eq_ok.1 hfront
      obtain ⟨rest, hrest, hlast⟩ := look_bind_eq_ok.1 (ih.2 hlast)
      exact ⟨first ++ rest, flatMapM_cons_eq_ok.2 ⟨first, rest, hfirst, hrest, rfl⟩,
        flatMapM_append_eq_ok.2 ⟨front, last, hfront, hlast, rfl⟩⟩

theorem flatMapM_singletons {α : Type} (as : List α) :
    (as.flatMapM fun a => (.ok [a] : Except E (List α))) = .ok as := by
  induction as with
  | nil => rfl
  | cons a as ih => exact flatMapM_cons_eq_ok.2 ⟨[a], as, rfl, ih, rfl⟩

theorem levels_eq_ok {stages : List σ} {vs rs : List V} :
    levels f stages vs = .ok rs ↔ vs.flatMapM (through f stages) = .ok rs := by
  induction stages generalizing vs rs with
  | nil =>
    have hself : vs.flatMapM (through f []) = .ok vs := flatMapM_singletons vs
    rw [hself]
    exact Iff.rfl
  | cons stage stages ih =>
    -- The stages behind the first one get all that it made, so the induction is for all lists.
    have hbind : (vs.flatMapM (f stage) >>= levels f stages) = .ok rs ↔
        (vs.flatMapM (f stage) >>= fun us => us.flatMapM (through f stages)) = .ok rs := by
      rw [look_bind_eq_ok, look_bind_eq_ok]
      exact exists_congr fun us => and_congr_right fun _ => ih
    rw [levels_cons, hbind]
    exact flatMapM_flatMapM_eq_ok

theorem levels_singleton_eq_ok {stages : List σ} {v : V} {rs : List V} :
    levels f stages [v] = .ok rs ↔ through f stages v = .ok rs := by
  rw [levels_eq_ok, flatMapM_cons_eq_ok]
  constructor
  · rintro ⟨first, rest, hfirst, hrest, rfl⟩
    cases hrest
    rw [hfirst]
    exact congrArg Except.ok (List.append_nil first).symm
  · intro h
    exact ⟨rs, [], h, rfl, List.append_nil rs⟩

end MessageFlow
