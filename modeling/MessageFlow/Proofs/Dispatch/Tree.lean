/-!
# Walks over a tree

Things that lead to further things, walked in two orders. `levelOrder` goes level by level;
`depthFirst` goes on from each thing before it looks at the next one, and has no result where it
gets too deep. If the levels run out after a number of steps, both walks end within this number and
pass the same things, each as often (`depthFirst_perm`).
-/

namespace MessageFlow

variable {α : Type} (next : α → List α)

/-- What the things on a list lead to in so many steps. -/
def level : Nat → List α → List α
  | 0, xs => xs
  | n + 1, xs => level n (xs.flatMap next)

/-- The first levels, one after the other. -/
def levelOrder : Nat → List α → List α
  | 0, _ => []
  | n + 1, xs => xs ++ levelOrder n (xs.flatMap next)

/-- A thing, and then the whole of what it leads to, one branch after the other, if it leads nowhere
deeper than so many levels. -/
def depthFirst : Nat → α → Option (List α)
  | 0, _ => none
  | n + 1, x => do
    let branches ← (next x).mapM (depthFirst n)
    return x :: branches.flatten

variable {next} {n : Nat}

/-- A step down: if the branches of all things end, the things themselves do. -/
theorem depthFirst_of_branches {xs : List α} {branches : List (List α)}
    (h : (xs.flatMap next).mapM (depthFirst next n) = some branches) :
    ∃ walks, xs.mapM (depthFirst next (n + 1)) = some walks ∧
      walks.flatten.Perm (xs ++ branches.flatten) := by
  induction xs generalizing branches with
  | nil =>
    cases h
    exact ⟨[], rfl, .nil⟩
  | cons x xs ih =>
    rw [List.flatMap_cons, List.mapM_append] at h
    obtain ⟨first, hfirst, h⟩ := Option.bind_eq_some_iff.1 h
    obtain ⟨rest, hrest, h⟩ := Option.bind_eq_some_iff.1 h
    cases h
    obtain ⟨walks, hwalks, hperm⟩ := ih hrest
    have hx : depthFirst next (n + 1) x = some (x :: first.flatten) :=
      Option.bind_eq_some_iff.2 ⟨first, hfirst, rfl⟩
    refine ⟨(x :: first.flatten) :: walks, by simp [hx, hwalks], ?_⟩
    have htail : (first.flatten ++ walks.flatten).Perm (xs ++ (first.flatten ++ rest.flatten)) :=
      (hperm.append_left first.flatten).trans (List.perm_append_comm_assoc ..)
    simpa using htail

theorem mapM_depthFirst {xs : List α} (h : level next n xs = []) :
    ∃ walks, xs.mapM (depthFirst next n) = some walks ∧
      walks.flatten.Perm (levelOrder next n xs) := by
  induction n generalizing xs with
  | zero =>
    cases (h : xs = [])
    exact ⟨[], rfl, .nil⟩
  | succ n ih =>
    obtain ⟨branches, hbranches, hperm⟩ := ih (h : level next n (xs.flatMap next) = [])
    obtain ⟨walks, hwalks, hwalk⟩ := depthFirst_of_branches hbranches
    exact ⟨walks, hwalks, hwalk.trans (hperm.append_left xs)⟩

/-- Both orders pass the same things. -/
theorem depthFirst_perm {x : α} (h : level next n [x] = []) :
    ∃ walk, depthFirst next n x = some walk ∧ walk.Perm (levelOrder next n [x]) := by
  obtain ⟨walks, hwalks, hperm⟩ := mapM_depthFirst h
  rw [List.mapM_cons] at hwalks
  obtain ⟨walk, hwalk, hrest⟩ := Option.bind_eq_some_iff.1 hwalks
  cases hrest
  exact ⟨walk, hwalk, by simpa using hperm⟩

end MessageFlow
