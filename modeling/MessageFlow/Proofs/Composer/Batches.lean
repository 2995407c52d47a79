import MessageFlow.Composer
import MessageFlow.Proofs.Composer.Components
import MessageFlow.Proofs.Sample

/-!
# Batches

A batch of components is looked at as a whole before any of it is registered. The look has to find
what the first refusal would be if the components were registered one by one: it compares each name
with the registry as it was and with the names earlier in the batch, while one by one each name is
compared with a registry that grows (`exec_addEach_clash`). So a batch is registered exactly if all
of its components can be, one after the other, and then at the same places. A batch that is refused
leaves everything as it was; one by one, the components before the refused one stay.
-/

namespace MessageFlow

namespace Registering

open ComponentRegistry

/-- Registers the components of a batch one after the other, until one is refused. -/
def addEach (batch : List (FlowComponent × Option String)) : Registering (List Nat) :=
  batch.mapM fun entry => add entry.1 entry.2

/-- One by one, a batch is refused for the first name that is taken or comes again. `seen` has the
names of what was registered since the look at `r`. -/
theorem exec_addEach_clash {r r' : ComponentRegistry}
    {batch : List (FlowComponent × Option String)} {seen : List String} {taken : String}
    (hclash : r.clash? seen batch = some taken)
    (hseen : ∀ name, r'.contains name = true ↔ r.contains name = true ∨ name ∈ seen) :
    ((addEach batch).exec r').1 = .error (.duplicateName taken) := by
  induction batch generalizing seen r' with
  | nil => cases hclash
  | cons entry batch ih =>
    obtain ⟨component, name⟩ := entry
    rw [addEach, Change.exec_mapM_cons]
    cases name with
    | none =>
      have hsame : ∀ other, (r'.push component none).contains other = true ↔
          r.contains other = true ∨ other ∈ seen := by
        simpa [contains] using hseen
      rw [exec_add_free (by simp)]
      show ((addEach batch).exec (r'.push component none)).1.map _ = _
      rw [ih hclash hsame, look_map_error]
    | some name =>
      simp only [clash?, Bool.or_eq_true, List.contains_iff_mem, ← hseen] at hclash
      by_cases hname : r'.contains name = true
      · rw [if_pos hname, Option.some_inj] at hclash
        rw [exec_add_taken hname, hclash]
      · rw [if_neg hname] at hclash
        have hmore : ∀ other, (r'.push component (some name)).contains other = true ↔
            r.contains other = true ∨ other ∈ name :: seen := by
          intro other
          by_cases hother : other = name
          · simp [hother, contains, find_push_self]
          · rw [contains_push_of_ne hother, hseen, List.mem_cons, or_iff_right hother]
        rw [exec_add_named (Bool.eq_false_iff.2 hname)]
        show ((addEach batch).exec (r'.push component (some name))).1.map _ = _
        rw [ih hclash hmore, look_map_error]

/-- A batch is registered as a whole if it can be registered one by one, and refused for the same
reason if not. -/
theorem exec_addAll_eq (batch : List (FlowComponent × Option String)) (r : ComponentRegistry) :
    (addAll batch).exec r =
      match (addEach batch).exec r with
      | (.ok places, r') => (.ok places, r')
      | (.error failure, _) => (.error failure, r) := by
  rw [exec_addAll]
  cases hclash : r.clash? [] batch with
  | none =>
    have hexec : (addEach batch).exec r = _ := (exec_batch hclash fun _ h => Or.inl h).1
    rw [hexec]
  | some taken =>
    have hrefused : ((addEach batch).exec r).1 = .error (.duplicateName taken) :=
      exec_addEach_clash hclash fun name => by simp
    rcases hexec : (addEach batch).exec r with ⟨result, r'⟩
    rw [hexec] at hrefused
    cases hrefused
    rfl

end Registering

section

variable [PayloadTypes]

namespace Composer

/-- Registers the components of a batch one after the other, until one is refused. -/
def addEach (batch : List (FlowComponent × Option String)) : Composer (List Nat) :=
  batch.mapM fun entry => addComponent entry.1 entry.2

variable {d d' : FlowDefinition} {batch : List (FlowComponent × Option String)}

theorem exec_addComponent_eq (component : FlowComponent) (name : Option String)
    (d : FlowDefinition) :
    (addComponent component name).exec d =
      match d.checkComponent component with
      | .ok () => (registering (.add component name)).exec d
      | .error failure => (.error failure, d) := by
  rw [addComponent, Change.exec_bind, Change.exec_ask]
  cases d.checkComponent component <;> rfl

/-- Whether a component is fit for a flow does not depend on what is registered already. So one by
one, components that are all fit are registered as by the registry alone. -/
theorem exec_addEach (h : ∀ entry ∈ batch, d.checkComponent entry.1 = .ok ()) :
    (addEach batch).exec d = (registering (.addEach batch)).exec d := by
  induction batch generalizing d with
  | nil => rfl
  | cons entry batch ih =>
    obtain ⟨hentry, hbatch⟩ := List.forall_mem_cons.1 h
    rw [addEach, Change.exec_mapM_cons, exec_addComponent_eq, hentry, exec_registering,
      exec_registering, Registering.addEach, Change.exec_mapM_cons]
    rcases (Registering.add entry.1 entry.2).exec d.components with ⟨failure | place, r⟩
    · rfl
    · have hrest : (addEach batch).exec { d with components := r } = _ :=
        ih (d := { d with components := r }) hbatch
      dsimp only
      rw [← addEach, hrest]
      rfl

/-- One by one, a component that is not fit is refused when its turn comes, or another one before
it. -/
theorem fit_of_exec_addEach {places : List Nat} (h : (addEach batch).exec d = (.ok places, d')) :
    ∀ entry ∈ batch, d.checkComponent entry.1 = .ok () := by
  induction batch generalizing d places with
  | nil => nofun
  | cons entry batch ih =>
    obtain ⟨place, t, places', hentry, hbatch⟩ := Change.ok_of_mapM_cons h
    rw [exec_addComponent_eq] at hentry
    cases hfit : d.checkComponent entry.1 with
    | error failure =>
      rw [hfit] at hentry
      cases hentry
    | ok =>
      rw [hfit, exec_registering] at hentry
      obtain rfl := (Prod.mk.inj hentry).2
      have hrest : ∀ other ∈ batch, FlowDefinition.checkComponent _ other.1 = .ok () := ih hbatch
      exact List.forall_mem_cons.2 ⟨hfit, hrest⟩

/-- A batch is registered as a whole if it can be registered one by one, and changes nothing if
not. -/
theorem exec_addComponents_eq (batch : List (FlowComponent × Option String))
    (d : FlowDefinition) :
    match (addEach batch).exec d with
    | (.ok places, d') => (addComponents batch).exec d = (.ok places, d')
    | (.error _, _) => ∃ failure, (addComponents batch).exec d = (.error failure, d) := by
  have hexec : (addComponents batch).exec d =
      match batch.forM fun entry => d.checkComponent entry.1 with
      | .ok () => (registering (.addAll batch)).exec d
      | .error failure => (.error failure, d) := by
    rw [addComponents, Change.exec_bind, Change.exec_ask]
    cases batch.forM fun entry => d.checkComponent entry.1 <;> rfl
  rw [hexec]
  cases hlook : batch.forM fun entry => d.checkComponent entry.1 with
  | ok =>
    rw [exec_addEach (look_of_forM hlook), exec_registering, exec_registering,
      Registering.exec_addAll_eq]
    rcases (Registering.addEach batch).exec d.components with ⟨failure | places, r⟩
    · exact ⟨failure, rfl⟩
    · rfl
  | error failure =>
    rcases heach : (addEach batch).exec d with ⟨failure' | places, d'⟩
    · exact ⟨failure, rfl⟩
    · rw [look_forM_of_ok (fit_of_exec_addEach heach)] at hlook
      cases hlook

end Composer

/-- A batch is registered exactly if its components can be registered one by one: with the same
places, and leaving the same registry. Otherwise it is refused as the first component that is
refused one by one, and the registry stays as it was. The batch of a composer, too, is registered
exactly if its components can be, leaves the same definition then, and otherwise changes nothing. -/
theorem batch_as_one_by_one (batch : List (FlowComponent × Option String)) :
    (∀ r r' places, (Registering.addAll batch).exec r = (.ok places, r') ↔
      (Registering.addEach batch).exec r = (.ok places, r')) ∧
    (∀ r failure, (Registering.addAll batch).exec r = (.error failure, r) ↔
      ((Registering.addEach batch).exec r).1 = .error failure) ∧
    (∀ d d' places, (Composer.addComponents batch).exec d = (.ok places, d') ↔
      (Composer.addEach batch).exec d = (.ok places, d')) ∧
    ∀ d, (∃ failure, (Composer.addComponents batch).exec d = (.error failure, d)) ↔
      ∃ failure, ((Composer.addEach batch).exec d).1 = .error failure := by
  refine ⟨fun r r' places => ?_, fun r failure => ?_, fun d d' places => ?_, fun d => ?_⟩
  · rw [Registering.exec_addAll_eq]
    rcases (Registering.addEach batch).exec r with ⟨failure | places', s⟩ <;> simp
  · rw [Registering.exec_addAll_eq]
    rcases (Registering.addEach batch).exec r with ⟨failure' | places, s⟩ <;> simp
  · have hbatch := Composer.exec_addComponents_eq batch d
    rcases heach : (Composer.addEach batch).exec d with ⟨failure | places', s⟩
    · rw [heach] at hbatch
      obtain ⟨failure', hrefused⟩ := hbatch
      simp [hrefused]
    · rw [heach] at hbatch
      rw [hbatch]
  · have hbatch := Composer.exec_addComponents_eq batch d
    rcases heach : (Composer.addEach batch).exec d with ⟨failure | places, s⟩
    · rw [heach] at hbatch
      exact ⟨fun _ => ⟨failure, rfl⟩, fun _ => hbatch⟩
    · rw [heach] at hbatch
      simp [hbatch]

end

open Sample

/-- The failure of a composer's batch may be another: it looks for unfit components first. -/
example :
    let d := FlowDefinition.start "f" (.channel "in" false) .standard
    let batch := [(.bean, some "in"), (.source "another", none)]
    ((Composer.addComponents batch).exec d).1 = .error (.invalidCursor .secondSource) ∧
      ((Composer.addEach batch).exec d).1 = .error (.duplicateName "in") :=
  ⟨rfl, rfl⟩

end MessageFlow
