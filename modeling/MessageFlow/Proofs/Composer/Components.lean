import MessageFlow.Component

/-!
# Components and their names

A registry keeps its names apart from its components. `Consistent` says that the two agree, and
`consistent_push` that they go on to agree as long as only free names are given. A batch looks at
its names first; `exec_addAll` says that nothing it does after that look is refused.
-/

namespace MessageFlow

namespace ComponentRegistry

variable {r : ComponentRegistry} {component : FlowComponent} {name other : String} {place : Nat}

/-- A name stands for a place exactly when the component there bears it. -/
def Consistent (r : ComponentRegistry) : Prop :=
  ∀ name place, r.find name = some place ↔ r.name place = some name

theorem contains_eq_false : r.contains name = false ↔ r.find name = none := by
  simp [contains]

/-- A component that is there has its place among all of them. -/
theorem lt_size_of_get (h : r.get place = some component) : place < r.size := by
  unfold get at h
  obtain ⟨entry, hentry, -⟩ := Option.map_eq_some_iff.1 h
  exact (List.getElem?_eq_some_iff.1 hentry).1

/-- A name that is there belongs to one of the components. -/
theorem lt_size_of_name (h : r.name place = some name) : place < r.size := by
  unfold ComponentRegistry.name at h
  obtain ⟨entry, hentry, -⟩ := Option.bind_eq_some_iff.1 h
  exact (List.getElem?_eq_some_iff.1 hentry).1

theorem Consistent.lt_size (h : r.Consistent) (hfind : r.find name = some place) :
    place < r.size :=
  lt_size_of_name ((h name place).1 hfind)

/-! ## One more component -/

@[simp] theorem size_push (r : ComponentRegistry) (component : FlowComponent)
    (name : Option String) : (r.push component name).size = r.size + 1 := by
  simp [push, size]

/-- A component that is added leaves the others in their places. -/
theorem get_push_of_lt (h : place < r.size) (component : FlowComponent) (name : Option String) :
    (r.push component name).get place = r.get place := by
  unfold get push
  rw [List.getElem?_append_left h]

/-- A component that is added has the next place. -/
@[simp] theorem get_push_size (r : ComponentRegistry) (component : FlowComponent)
    (name : Option String) : (r.push component name).get r.size = some component := by
  simp [get, push, size]

/-- What was found at a place is found there later. -/
theorem get_push_of_get {c : FlowComponent} (h : r.get place = some c) (component : FlowComponent)
    (name : Option String) : (r.push component name).get place = some c := by
  rw [get_push_of_lt (lt_size_of_get h), h]

/-- A component that is added brings its own name and no other. -/
theorem name_push (r : ComponentRegistry) (component : FlowComponent) (name : Option String)
    (place : Nat) :
    (r.push component name).name place = if place = r.size then name else r.name place := by
  unfold ComponentRegistry.name push size
  dsimp only
  rcases Nat.lt_trichotomy place r.entries.length with hlt | heq | hgt
  · rw [if_neg (Nat.ne_of_lt hlt), List.getElem?_append_left hlt]
  · subst heq
    simp
  · rw [if_neg (Nat.ne_of_gt hgt), List.getElem?_eq_none (Nat.le_of_lt hgt),
      List.getElem?_eq_none (by simp; omega)]

/-- A component that is added is found under its name. -/
theorem find_push_self (r : ComponentRegistry) (component : FlowComponent) (name : String) :
    (r.push component (some name)).find name = some r.size := by
  simp [find, push]

/-- A component that is added is not found under other names. -/
theorem find_push_of_ne (h : other ≠ name) (r : ComponentRegistry) (component : FlowComponent) :
    (r.push component (some name)).find other = r.find other := by
  have hbeq : (other == name) = false := beq_eq_false_iff_ne.2 h
  simp [find, push, List.lookup_cons, hbeq]

@[simp] theorem find_push_none (r : ComponentRegistry) (component : FlowComponent)
    (name : String) : (r.push component none).find name = r.find name := by
  simp [find, push]

/-- A component that is added takes no other name. -/
theorem contains_push_of_ne (h : other ≠ name) (r : ComponentRegistry)
    (component : FlowComponent) :
    (r.push component (some name)).contains other = r.contains other := by
  unfold contains
  rw [find_push_of_ne h]

/-- A name that is taken after an addition is the new one, or was taken before. -/
theorem eq_or_contains_of_push {name : Option String}
    (h : (r.push component name).contains other = true) :
    name = some other ∨ r.contains other = true := by
  cases name with
  | none => exact Or.inr (by simpa [contains] using h)
  | some name =>
    by_cases hne : other = name
    · exact Or.inl (by rw [hne])
    · exact Or.inr (by rwa [contains_push_of_ne hne] at h)

/-- A name that is taken stays so. -/
theorem contains_push (h : r.contains name = true) (component : FlowComponent)
    (other : Option String) : (r.push component other).contains name = true := by
  cases other with
  | none => simpa [contains] using h
  | some other =>
    by_cases hname : name = other
    · simp [contains, hname, find_push_self]
    · rwa [contains_push_of_ne hname]

/-- A channel that is added is known by its name. -/
theorem channelNamed_push_self (r : ComponentRegistry) (ref : ChannelRef) (name : String) :
    (r.push (.channel ref) (some name)).channelNamed name = some ref := by
  simp [channelNamed, find_push_self]

/-- What another name stands for is still there, because its place was taken before. -/
theorem Consistent.channelNamed_push_of_ne (hr : r.Consistent) (h : other ≠ name)
    (component : FlowComponent) :
    (r.push component (some name)).channelNamed other = r.channelNamed other := by
  unfold channelNamed
  rw [find_push_of_ne h]
  cases hfind : r.find other with
  | none => rfl
  | some place => simp only [Option.bind_some, get_push_of_lt (hr.lt_size hfind)]

/-- Where there are no components they are consistent. -/
theorem consistent_empty : empty.Consistent := by
  intro name place
  simp [empty, find, ComponentRegistry.name]

/-- Free names keep names and components in agreement. -/
theorem consistent_push (hr : r.Consistent) {name : Option String}
    (hfree : ∀ n, name = some n → r.contains n = false) :
    (r.push component name).Consistent := by
  intro other place
  rw [name_push]
  cases name with
  | none =>
    rw [find_push_none, hr other place]
    split
    · next hplace =>
      -- Nothing stood for the new place, and its component is nameless.
      subst hplace
      constructor
      · intro h
        exact absurd (lt_size_of_name h) (Nat.lt_irrefl _)
      · intro h
        cases h
    · exact Iff.rfl
  | some name =>
    have hnone : r.find name = none := contains_eq_false.1 (hfree name rfl)
    by_cases hne : other = name
    · subst hne
      rw [find_push_self]
      split
      · next hplace => simp [hplace]
      · next hplace =>
        rw [← hr other place, hnone]
        simp [Ne.symm hplace]
    · rw [find_push_of_ne hne]
      split
      · next hplace =>
        -- Another name cannot stand for a place that was not there before.
        subst hplace
        constructor
        · intro h
          exact absurd (hr.lt_size h) (Nat.lt_irrefl _)
        · intro h
          exact absurd (Option.some.inj h).symm hne
      · exact hr other place

/-! ## Channels -/

/-- The registry with a channel, unless one of its name is there. -/
def withChannel (r : ComponentRegistry) (ref : ChannelRef) : ComponentRegistry :=
  if (r.channelNamed ref.name).isNone then r.push (.channel ref) (some ref.name) else r

/-- A channel that was named is known by its name. -/
theorem exists_channelNamed_withChannel (r : ComponentRegistry) (ref : ChannelRef) :
    ∃ known, (r.withChannel ref).channelNamed ref.name = some known := by
  unfold withChannel
  cases hnamed : r.channelNamed ref.name with
  | none => exact ⟨ref, by simp [channelNamed_push_self]⟩
  | some known => exact ⟨known, by simp [hnamed]⟩

/-- The name of a channel that is known is taken. -/
theorem contains_of_channelNamed {known : ChannelRef} (h : r.channelNamed name = some known) :
    r.contains name = true := by
  unfold channelNamed at h
  cases hfind : r.find name with
  | none => simp [hfind] at h
  | some place => simp [contains, hfind]

/-- A name can be given to a channel if it is free or a channel bears it. -/
theorem consistent_withChannel (hr : r.Consistent) {ref : ChannelRef}
    (h : r.contains ref.name = false ∨ ∃ known, r.channelNamed ref.name = some known) :
    (r.withChannel ref).Consistent := by
  unfold withChannel
  split
  · next hnone =>
    apply consistent_push hr
    intro n hn
    cases hn
    rcases h with hfree | ⟨known, hknown⟩
    · exact hfree
    · rw [hknown] at hnone
      cases hnone
  · exact hr

/-- A name that was taken is taken later. -/
theorem contains_withChannel (h : r.contains name = true) (ref : ChannelRef) :
    (r.withChannel ref).contains name = true := by
  unfold withChannel
  split
  · exact contains_push h _ _
  · exact h

/-! ## Batches -/

/-- The registry with all components of a batch. -/
def pushAll (r : ComponentRegistry) (batch : List (FlowComponent × Option String)) :
    ComponentRegistry :=
  batch.foldl (fun r entry => r.push entry.1 entry.2) r

/-- What was found at a place is found there after a batch. -/
theorem get_pushAll_of_get {batch : List (FlowComponent × Option String)}
    (h : r.get place = some component) : (r.pushAll batch).get place = some component := by
  induction batch generalizing r with
  | nil => exact h
  | cons entry batch ih => exact ih (get_push_of_get h entry.1 entry.2)

/-- A name that was taken is taken after a batch. -/
theorem contains_pushAll (h : r.contains name = true)
    (batch : List (FlowComponent × Option String)) : (r.pushAll batch).contains name = true := by
  induction batch generalizing r with
  | nil => exact h
  | cons entry batch ih => exact ih (contains_push h entry.1 entry.2)

end ComponentRegistry

namespace Registering

open ComponentRegistry

variable {r : ComponentRegistry}

/-- A component is added if its name is free, or if it has none. -/
theorem exec_add_free {name : Option String} (hfree : ∀ n, name = some n → r.contains n = false)
    (component : FlowComponent) :
    (add component name).exec r = (.ok r.size, r.push component name) := by
  have hnone : name.filter r.contains = none := by
    cases name with
    | none => rfl
    | some n => simp [hfree n rfl]
  simp [add, hnone]

theorem exec_add_named {name : String} (hfree : r.contains name = false)
    (component : FlowComponent) :
    (add component (some name)).exec r = (.ok r.size, r.push component (some name)) := by
  apply exec_add_free
  intro n hn
  cases hn
  exact hfree

/-- A component whose name is taken is refused, and nothing changes. -/
theorem exec_add_taken {name : String} (h : r.contains name = true) (component : FlowComponent) :
    (add component (some name)).exec r = (.error (.duplicateName name), r) := by
  have htaken : (some name).filter r.contains = some name := by simp [h]
  simp [add, htaken]

/-- A batch whose names were found free is registered to its end. `seen` has the names of what was
registered since the look at `r`. -/
theorem exec_batch {batch : List (FlowComponent × Option String)} {seen : List String}
    (hclash : r.clash? seen batch = none) {r' : ComponentRegistry}
    (hseen : ∀ name, r'.contains name = true → r.contains name = true ∨ name ∈ seen) :
    Change.exec (batch.mapM fun entry => add entry.1 entry.2) r' =
        (.ok (List.range' r'.size batch.length), r'.pushAll batch) ∧
      (r'.Consistent → (r'.pushAll batch).Consistent) := by
  induction batch generalizing seen r' with
  | nil => exact ⟨rfl, id⟩
  | cons entry batch ih =>
    obtain ⟨component, name⟩ := entry
    -- What the entry adds is free now, and it is seen by the rest of the batch.
    have hstep : ∃ seen', r.clash? seen' batch = none ∧
        (∀ n, name = some n → r'.contains n = false) ∧
        ∀ n, (r'.push component name).contains n = true → r.contains n = true ∨ n ∈ seen' := by
      cases name with
      | none =>
        refine ⟨seen, hclash, by simp, fun n hn => hseen n ?_⟩
        simpa [contains] using hn
      | some name =>
        simp only [clash?] at hclash
        split at hclash
        · cases hclash
        next hfree =>
        simp only [Bool.or_eq_true, List.contains_iff_mem, not_or] at hfree
        refine ⟨name :: seen, hclash, ?_, ?_⟩
        · intro n hn
          cases hn
          cases htaken : r'.contains name with
          | false => rfl
          | true =>
            rcases hseen name htaken with h | h
            · exact absurd h hfree.1
            · exact absurd h hfree.2
        · intro n hn
          rcases eq_or_contains_of_push hn with h | h
          · cases h
            exact Or.inr List.mem_cons_self
          · exact (hseen n h).imp id (List.mem_cons_of_mem _)
    obtain ⟨seen', hclash', hfree, hseen'⟩ := hstep
    obtain ⟨hexec, hkeep⟩ := ih hclash' hseen'
    refine ⟨?_, fun hr => hkeep (consistent_push hr hfree)⟩
    rw [List.mapM_cons, Change.exec_bind, exec_add_free hfree]
    simp only [Change.exec_bind, hexec, Change.exec_pure]
    rw [size_push, List.length_cons, List.range'_succ]
    rfl

/-- A batch is refused by its look at the names or not at all. -/
theorem exec_addAll (batch : List (FlowComponent × Option String)) (r : ComponentRegistry) :
    (addAll batch).exec r =
      match r.clash? [] batch with
      | some name => (.error (.duplicateName name), r)
      | none => (.ok (List.range' r.size batch.length), r.pushAll batch) := by
  rw [addAll, Change.exec_bind, Change.exec_get]
  cases hclash : r.clash? [] batch with
  | some name => simp [hclash]
  | none => simpa [hclash] using (exec_batch hclash fun _ h => Or.inl h).1

end Registering

/-- A batch without a clash keeps the components consistent. -/
theorem ComponentRegistry.consistent_pushAll {r : ComponentRegistry}
    {batch : List (FlowComponent × Option String)}
    (hclash : r.clash? [] batch = none) (hr : r.Consistent) : (r.pushAll batch).Consistent :=
  (Registering.exec_batch hclash fun _ h => Or.inl h).2 hr

/-! ## Growth -/

namespace ComponentRegistry

variable {r r' r'' : ComponentRegistry} {fresh : FlowComponent → Prop} {c : FlowComponent}
  {ref : ChannelRef} {name : String} {place : Nat}

/-- The component of a name. -/
def named (r : ComponentRegistry) (name : String) : Option FlowComponent :=
  (r.find name).bind r.get

/-- The channel of a name is the component of that name, if this is a channel. -/
theorem channelNamed_eq_some : r.channelNamed name = some ref ↔
    r.named name = some (.channel ref) := by
  unfold channelNamed named
  rcases (r.find name).bind r.get with _ | _ | _ | _ | _ <;> simp

/-- A registry that has all components of another, and fresh ones behind them. -/
structure Grows (r r' : ComponentRegistry) (fresh : FlowComponent → Prop) : Prop where
  consistent : r'.Consistent
  entries : ∃ more, r'.entries = r.entries ++ more ∧ ∀ entry ∈ more, fresh entry.1

theorem Grows.refl (hr : r.Consistent) : r.Grows r fresh :=
  ⟨hr, [], (List.append_nil _).symm, by simp⟩

/-- What grows and then grows again has grown. -/
theorem Grows.trans (h : r.Grows r' fresh) (h' : r'.Grows r'' fresh) : r.Grows r'' fresh := by
  obtain ⟨more, hmore, hfresh⟩ := h.entries
  obtain ⟨more', hmore', hfresh'⟩ := h'.entries
  refine ⟨h'.consistent, more ++ more', by rw [hmore', hmore, List.append_assoc], ?_⟩
  intro entry hentry
  exact (List.mem_append.1 hentry).elim (hfresh entry) (hfresh' entry)

/-- What grows keeps its entries. -/
theorem Grows.entry (h : r.Grows r' fresh) {entry : FlowComponent × Option String}
    (hentry : r.entries[place]? = some entry) : r'.entries[place]? = some entry := by
  obtain ⟨more, hmore, -⟩ := h.entries
  rw [hmore, List.getElem?_append_left (List.getElem?_eq_some_iff.1 hentry).1, hentry]

theorem Grows.get (h : r.Grows r' fresh) (hget : r.get place = some c) :
    r'.get place = some c := by
  obtain ⟨entry, hentry, hc⟩ := Option.map_eq_some_iff.1 hget
  exact Option.map_eq_some_iff.2 ⟨entry, h.entry hentry, hc⟩

/-- What grows keeps what its names stand for. -/
theorem Grows.named (h : r.Grows r' fresh) (hr : r.Consistent) (hnamed : r.named name = some c) :
    r'.named name = some c := by
  obtain ⟨place, hfind, hget⟩ := Option.bind_eq_some_iff.1 hnamed
  -- The place bears the name still, and no other place does.
  obtain ⟨entry, hentry, hname⟩ := Option.bind_eq_some_iff.1 ((hr name place).1 hfind)
  have hname' : r'.name place = some name :=
    Option.bind_eq_some_iff.2 ⟨entry, h.entry hentry, hname⟩
  exact Option.bind_eq_some_iff.2 ⟨place, (h.consistent name place).2 hname', h.get hget⟩

/-- What is there was there before, or is fresh. -/
theorem Grows.get_or_fresh (h : r.Grows r' fresh) (hget : r'.get place = some c) :
    r.get place = some c ∨ fresh c := by
  obtain ⟨more, hmore, hfresh⟩ := h.entries
  obtain ⟨entry, hentry, rfl⟩ := Option.map_eq_some_iff.1 hget
  rw [hmore, List.getElem?_append] at hentry
  split at hentry
  · exact Or.inl (Option.map_eq_some_iff.2 ⟨entry, hentry, rfl⟩)
  · exact Or.inr (hfresh entry (List.mem_of_getElem? hentry))

/-- Components grow by one that is consistent with them. -/
theorem grows_push {name : Option String} (hr : (r.push c name).Consistent) (hc : fresh c) :
    r.Grows (r.push c name) fresh :=
  ⟨hr, [(c, name)], rfl, by simpa using hc⟩

/-- A batch is entered behind what was there, in its order. -/
theorem entries_pushAll (r : ComponentRegistry) (batch : List (FlowComponent × Option String)) :
    (r.pushAll batch).entries = r.entries ++ batch := by
  induction batch generalizing r with
  | nil => exact (List.append_nil _).symm
  | cons entry batch ih =>
    show ((r.push entry.1 entry.2).pushAll batch).entries = _
    rw [ih]
    simp [push]

/-- Components grow by a channel that is named. -/
theorem grows_withChannel (hr : (r.withChannel ref).Consistent) (hc : fresh (.channel ref)) :
    r.Grows (r.withChannel ref) fresh := by
  unfold withChannel at hr ⊢
  split at hr
  · next hnone =>
    rw [if_pos hnone]
    exact grows_push hr hc
  · next hsome =>
    rw [if_neg hsome]
    exact .refl hr

/-- A name that was free stands for what was pushed under it. -/
theorem named_push_self (r : ComponentRegistry) (c : FlowComponent) (name : String) :
    (r.push c (some name)).named name = some c := by
  simp [named, find_push_self]

end ComponentRegistry

end MessageFlow
