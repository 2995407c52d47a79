import MessageFlow.Proofs.Json.Lockstep
import MessageFlow.Proofs.Json.Taken

/-!
# Documents as they are written

A tree that was read has lost the order of the members of its objects, and of several members of one
name all but the last. `Reader.verbatim` keeps them as they stand in the text. What is read is the
written document with the members of every object sorted (`tree_eq`), so that a document can be said
to repeat no key before anything is known of what was read from it.
-/

namespace MessageFlow.Json

mutual

/-- A document with the members of its objects sorted, the last one of each name. -/
def sorted : Json → Json
  | .array items => .array (sortedItems items)
  | .object members => ofMembers (sortedMembers members)
  | v => v

def sortedItems : List Json → List Json
  | [] => []
  | item :: rest => item.sorted :: sortedItems rest

def sortedMembers : List (String × Json) → List (String × Json)
  | [] => []
  | (name, value) :: rest => (name, value.sorted) :: sortedMembers rest

end

mutual

/-- No object of the document repeats a key. -/
def Unrepeated : Json → Prop
  | .array items => UnrepeatedItems items
  | .object members => (members.map Prod.fst).Nodup ∧ UnrepeatedMembers members
  | _ => True

def UnrepeatedItems : List Json → Prop
  | [] => True
  | item :: rest => item.Unrepeated ∧ UnrepeatedItems rest

def UnrepeatedMembers : List (String × Json) → Prop
  | [] => True
  | (_, value) :: rest => value.Unrepeated ∧ UnrepeatedMembers rest

end

/-- Sorting what members hold leaves their names. -/
theorem map_fst_sortedMembers (members : List (String × Json)) :
    (sortedMembers members).map Prod.fst = members.map Prod.fst := by
  induction members with
  | nil => rfl
  | cons member rest ih => exact congrArg (member.1 :: ·) ih

namespace Reader

/-- A document tree with the members of its objects as they are written. -/
def verbatim : (depth : Nat) → Reader Json
  | 0 => tree 0
  | depth + 1 => do
    match ← scalar? with
    | some v => return v
    | none =>
      let open? ← next
      if open? == some 0x5B then
        return .array (← items (verbatim depth) (← remaining) true)
      else
        return .object (← members (verbatim depth) (← remaining) true)

/-! ## Scalars -/

/-- A value that is not compound stands at a cursor. -/
inductive ScalarAt (c : Cursor) : Json → Cursor → Prop where
  | null {d : Cursor} (head : c.rest.head? = some 0x6E)
      (rest : (word [0x75, 0x6C, 0x6C]).taken c.advance = some ((), d)) : ScalarAt c .null d
  | yes {d : Cursor} (head : c.rest.head? = some 0x74)
      (rest : (word [0x72, 0x75, 0x65]).taken c.advance = some ((), d)) :
      ScalarAt c (.bool true) d
  | no {d : Cursor} (head : c.rest.head? = some 0x66)
      (rest : (word [0x61, 0x6C, 0x73, 0x65]).taken c.advance = some ((), d)) :
      ScalarAt c (.bool false) d
  | signed {n : Number} {d : Cursor} (head : c.rest.head? = some 0x2D)
      (rest : (number false).taken c.advance = some (n, d)) : ScalarAt c (.number n) d
  | string {s : String} {d : Cursor} (head : c.rest.head? = some 0x22)
      (rest : string.taken c.advance = some (s, d)) : ScalarAt c (.string s) d
  | unsigned {b : UInt8} {n : Number} {d : Cursor} (head : c.rest.head? = some b)
      (digit : (digit? b).isSome) (rest : (number true).taken c = some (n, d)) :
      ScalarAt c (.number n) d

/-- What a reader of scalars has found: a scalar, or the beginning of something else. -/
theorem scalar_cases {c d : Cursor} {v : Option Json} (h : scalar?.taken c = some (v, d)) :
    (∃ w, v = some w ∧ ScalarAt c.settled w d) ∨
      (v = none ∧ d = c.settled ∧
        (c.settled.rest.head? = some 0x5B ∨ c.settled.rest.head? = some 0x7B)) := by
  unfold scalar? at h
  rw [taken_blanks_bind] at h
  split at h
  · cases h
  · next head =>
    rw [taken_skip_bind] at h
    obtain ⟨_, hrest, rfl⟩ := taken_bind_pure.1 h
    exact .inl ⟨_, rfl, .null head hrest⟩
  · next head =>
    rw [taken_skip_bind] at h
    obtain ⟨_, hrest, rfl⟩ := taken_bind_pure.1 h
    exact .inl ⟨_, rfl, .yes head hrest⟩
  · next head =>
    rw [taken_skip_bind] at h
    obtain ⟨_, hrest, rfl⟩ := taken_bind_pure.1 h
    exact .inl ⟨_, rfl, .no head hrest⟩
  · next head =>
    rw [taken_skip_bind] at h
    obtain ⟨n, hrest, rfl⟩ := taken_bind_pure.1 h
    exact .inl ⟨_, rfl, .signed head hrest⟩
  · next head =>
    rw [taken_skip_bind] at h
    obtain ⟨s, hrest, rfl⟩ := taken_bind_pure.1 h
    exact .inl ⟨_, rfl, .string head hrest⟩
  · next b _ _ _ _ _ head =>
    by_cases hb : (digit? b).isSome
    · rw [if_pos hb] at h
      obtain ⟨n, hrest, rfl⟩ := taken_bind_pure.1 h
      exact .inl ⟨_, rfl, .unsigned head hb hrest⟩
    · rw [if_neg hb] at h
      split at h
      · next hbracket =>
        cases h
        refine .inr ⟨rfl, rfl, ?_⟩
        rw [head, Option.some_inj, Option.some_inj]
        exact hbracket
      · cases h

/-- No scalar begins with a bracket. -/
theorem head_ne_bracket {c d : Cursor} {v : Json} (h : ScalarAt c v d) :
    c.rest.head? ≠ some 0x5B ∧ c.rest.head? ≠ some 0x7B := by
  cases h with
  | unsigned head digit rest =>
    rw [head]
    constructor
    · rintro ⟨⟩
      exact absurd digit (by decide)
    · rintro ⟨⟩
      exact absurd digit (by decide)
  | _ head rest =>
    rw [head]
    decide

/-- What is not compound has nothing to be sorted. -/
theorem sorted_of_scalarAt {c d : Cursor} {v : Json} (h : ScalarAt c v d) : v.sorted = v := by
  cases h <;> rfl

/-! ## Compound values -/

section Loops

variable {α : Type} {c d : Cursor} {first : Bool}

/-- An array ends at its bracket. -/
theorem nextItem_end (h : (nextItem first).taken c = some (false, d)) :
    d = c.settled ∧ d.rest.head? = some 0x5D := by
  unfold nextItem at h
  rw [taken_blanks_bind] at h
  split at h
  · cases h
  · next head =>
    cases h
    exact ⟨rfl, head⟩
  · cases first with
    | true => cases h
    | false =>
      simp only [Bool.false_eq_true, if_false] at h
      rw [taken_skip_bind, taken_blanks_bind] at h
      split at h <;> cases h
  · cases first <;> cases h

/-- The first item of an array stands behind the opening bracket. -/
theorem nextItem_first (h : (nextItem true).taken c = some (true, d)) :
    d = c.settled ∧ ∃ b, d.rest.head? = some b ∧ b ≠ 0x5D := by
  unfold nextItem at h
  rw [taken_blanks_bind] at h
  split at h
  · cases h
  · cases h
  · next head =>
    cases h
    exact ⟨rfl, _, head, by decide⟩
  · next b hb _ head =>
    cases h
    exact ⟨rfl, b, head, hb⟩

/-- Every other item stands behind a comma. -/
theorem nextItem_later (h : (nextItem false).taken c = some (true, d)) :
    c.settled.rest.head? = some 0x2C ∧ d = c.settled.advance.settled ∧
      ∃ b, d.rest.head? = some b ∧ b ≠ 0x5D := by
  unfold nextItem at h
  rw [taken_blanks_bind] at h
  split at h
  · cases h
  · cases h
  · next head =>
    simp only [Bool.false_eq_true, if_false] at h
    rw [taken_skip_bind, taken_blanks_bind] at h
    split at h
    · cases h
    · cases h
    · next b hb head' =>
      cases h
      exact ⟨head, rfl, b, head', hb⟩
  · cases h

/-- No bracket stands before an item. -/
theorem head_ne_of_nextItem (h : (nextItem first).taken c = some (true, d)) :
    c.settled.rest.head? ≠ some 0x5D := by
  cases first with
  | true =>
    obtain ⟨rfl, b, hb, hne⟩ := nextItem_first h
    rw [hb]
    exact fun heq => hne (Option.some_inj.1 heq)
  | false =>
    obtain ⟨head, _⟩ := nextItem_later h
    rw [head]
    decide

/-- An object ends at its bracket. -/
theorem nextMember_end (h : (nextMember first).taken c = some (false, d)) :
    d = c.settled ∧ d.rest.head? = some 0x7D := by
  unfold nextMember at h
  rw [taken_blanks_bind] at h
  split at h
  · cases h
  · next head =>
    cases h
    exact ⟨rfl, head⟩
  · next b hb head =>
    cases first with
    | true =>
      rw [if_pos rfl, taken_ite] at h
      split at h <;> cases h
    | false =>
      rw [if_neg (by decide), taken_ite] at h
      split at h
      · rw [taken_skip_bind, taken_blanks_bind] at h
        split at h <;> cases h
      · cases h

/-- The key of the first member of an object stands behind the opening bracket. -/
theorem nextMember_first (h : (nextMember true).taken c = some (true, d)) :
    c.settled.rest.head? = some 0x22 ∧ d = c.settled.advance := by
  unfold nextMember at h
  rw [taken_blanks_bind] at h
  split at h
  · cases h
  · cases h
  · next b _ head =>
    rw [if_pos rfl, taken_ite] at h
    split at h
    · next hb =>
      cases h
      exact ⟨hb ▸ head, rfl⟩
    · cases h

/-- Every other key stands behind a comma. -/
theorem nextMember_later (h : (nextMember false).taken c = some (true, d)) :
    c.settled.rest.head? = some 0x2C ∧ c.settled.advance.settled.rest.head? = some 0x22 ∧
      d = c.settled.advance.settled.advance := by
  unfold nextMember at h
  rw [taken_blanks_bind] at h
  split at h
  · cases h
  · cases h
  · next b _ head =>
    rw [if_neg (by decide), taken_ite] at h
    split at h
    · next hb =>
      rw [taken_skip_bind, taken_blanks_bind] at h
      split at h
      · cases h
      · next head' =>
        cases h
        exact ⟨hb ▸ head, head', rfl⟩
      · cases h
      · cases h
    · cases h

/-- What stands at a cursor where the rest of an array was read: its end, or an item and the rest
behind it. -/
inductive ItemsAt (item : Reader α) (bound : Nat) (first : Bool) (c : Cursor) :
    List α → Cursor → Prop where
  | ended {e : Cursor} (next : (nextItem first).taken c = some (false, e)) :
      ItemsAt item bound first c [] e.advance
  | more {n : Nat} {a : α} {as : List α} {e e' d : Cursor} (hbound : bound = n + 1)
      (next : (nextItem first).taken c = some (true, e)) (one : item.taken e = some (a, e'))
      (rest : (items item n false).taken e' = some (as, d)) :
      ItemsAt item bound first c (a :: as) d

/-- What a reader of items has found. -/
theorem items_cases {item : Reader α} {bound : Nat} {as : List α}
    (h : (items item bound first).taken c = some (as, d)) : ItemsAt item bound first c as d := by
  cases bound with
  | zero => cases h
  | succ n =>
    unfold items at h
    obtain ⟨more, e, hnext, h⟩ := taken_of_bind h
    cases more with
    | false =>
      cases h
      exact .ended hnext
    | true =>
      rw [if_pos rfl] at h
      obtain ⟨a, e', ha, h⟩ := taken_of_bind h
      obtain ⟨rest, hrest, rfl⟩ := taken_bind_pure.1 h
      exact .more rfl hnext ha hrest

/-- What stands at a cursor where the rest of an object was read. -/
inductive MembersAt (value : Reader α) (bound : Nat) (first : Bool) (c : Cursor) :
    List (String × α) → Cursor → Prop where
  | ended {e : Cursor} (next : (nextMember first).taken c = some (false, e)) :
      MembersAt value bound first c [] e.advance
  | more {n : Nat} {name : String} {a : α} {ms : List (String × α)} {e e₁ e₂ e₃ d : Cursor}
      (hbound : bound = n + 1) (next : (nextMember first).taken c = some (true, e))
      (key : string.taken e = some (name, e₁)) (mark : colon.taken e₁ = some ((), e₂))
      (one : value.taken e₂ = some (a, e₃))
      (rest : (members value n false).taken e₃ = some (ms, d)) :
      MembersAt value bound first c ((name, a) :: ms) d

/-- What a reader of members has found. -/
theorem members_cases {value : Reader α} {bound : Nat} {ms : List (String × α)}
    (h : (members value bound first).taken c = some (ms, d)) :
    MembersAt value bound first c ms d := by
  cases bound with
  | zero => cases h
  | succ n =>
    unfold members at h
    obtain ⟨more, e, hnext, h⟩ := taken_of_bind h
    cases more with
    | false =>
      cases h
      exact .ended hnext
    | true =>
      rw [if_pos rfl] at h
      obtain ⟨name, e₁, hname, h⟩ := taken_of_bind h
      obtain ⟨_, e₂, hcolon, h⟩ := taken_of_bind h
      obtain ⟨a, e₃, ha, h⟩ := taken_of_bind h
      obtain ⟨rest, hrest, rfl⟩ := taken_bind_pure.1 h
      exact .more rfl hnext hname hcolon ha hrest

end Loops

/-- What stands at a cursor where a document was read: a scalar, or a bracket and what it
encloses. -/
inductive DocumentAt (depth : Nat) (c : Cursor) : Json → Cursor → Prop where
  | scalar {w : Json} {d : Cursor} (read : scalar?.taken c = some (some w, d))
      (here : ScalarAt c.settled w d) : DocumentAt depth c w d
  | array {inner : Nat} {ws : List Json} {d : Cursor} (hdepth : depth = inner + 1)
      (read : scalar?.taken c = some (none, c.settled)) (head : c.settled.rest.head? = some 0x5B)
      (rest : (items (verbatim inner) c.settled.advance.rest.length true).taken
        c.settled.advance = some (ws, d)) : DocumentAt depth c (.array ws) d
  | object {inner : Nat} {ms : List (String × Json)} {d : Cursor} (hdepth : depth = inner + 1)
      (read : scalar?.taken c = some (none, c.settled)) (head : c.settled.rest.head? = some 0x7B)
      (rest : (members (verbatim inner) c.settled.advance.rest.length true).taken
        c.settled.advance = some (ms, d)) : DocumentAt depth c (.object ms) d

/-- What a reader of documents has found. -/
theorem verbatim_cases {depth : Nat} {c d : Cursor} {w : Json}
    (h : (verbatim depth).taken c = some (w, d)) : DocumentAt depth c w d := by
  cases depth with
  | zero =>
    rw [verbatim, tree] at h
    obtain ⟨v, e, hv, h⟩ := taken_of_bind h
    obtain ⟨w', rfl, hw⟩ | ⟨rfl, rfl, head⟩ := scalar_cases hv
    · cases h
      exact .scalar hv hw
    · cases h
  | succ inner =>
    rw [verbatim] at h
    obtain ⟨v, e, hv, h⟩ := taken_of_bind h
    obtain ⟨w', rfl, hw⟩ | ⟨rfl, rfl, head⟩ := scalar_cases hv
    · cases h
      exact .scalar hv hw
    · dsimp only at h
      rw [taken_next_bind] at h
      obtain head | head := head
      · rw [head, if_pos (by decide), taken_remaining_bind] at h
        obtain ⟨ws, hws, rfl⟩ := taken_bind_pure.1 h
        exact .array rfl hv head hws
      · rw [head, if_neg (by decide), taken_remaining_bind] at h
        obtain ⟨ms, hms, rfl⟩ := taken_bind_pure.1 h
        exact .object rfl hv head hms

/-- Blanks before a document do not matter. -/
theorem verbatim_settled (depth : Nat) (c : Cursor) :
    (verbatim depth).taken c.settled = (verbatim depth).taken c := by
  have hscalar : scalar?.taken c.settled = scalar?.taken c := by
    unfold scalar?
    rw [taken_blanks_bind, taken_blanks_bind, Cursor.settled_settled]
  cases depth with
  | zero => rw [verbatim, tree, taken_bind, taken_bind, hscalar]
  | succ depth => rw [verbatim, taken_bind, taken_bind, hscalar]

/-! ## Room for brackets -/

/-- Whatever one reader takes, the other takes too. -/
def Extends {α : Type} (r r' : Reader α) : Prop :=
  ∀ c a d, r.taken c = some (a, d) → r'.taken c = some (a, d)

section Extends

variable {α β : Type}

theorem extends_refl (r : Reader α) : r.Extends r :=
  fun _ _ _ h => h

theorem extends_failAhead (fault : Fault) (r : Reader α) : (failAhead fault).Extends r := by
  intro c a d h
  cases h

/-- A reader that takes more does so one step after the other. -/
theorem extends_bind {r r' : Reader α} {f f' : α → Reader β} (h : r.Extends r')
    (hf : ∀ a, (f a).Extends (f' a)) : (r >>= f).Extends (r' >>= f') := by
  intro c b e he
  obtain ⟨a, d, hd, he⟩ := taken_of_bind he
  rw [taken_bind, h c a d hd]
  exact hf a d b e he

/-- Items that take more make an array that does. -/
theorem extends_items {item item' : Reader α} (h : item.Extends item') (bound : Nat)
    (first : Bool) : (items item bound first).Extends (items item' bound first) := by
  induction bound generalizing first with
  | zero => exact extends_refl _
  | succ bound ih =>
    refine extends_bind (extends_refl _) fun more => ?_
    cases more with
    | false => exact extends_refl _
    | true => exact extends_bind h fun a => extends_bind (ih false) fun _ => extends_refl _

/-- Members that take more make an object that does. -/
theorem extends_members {value value' : Reader α} (h : value.Extends value') (bound : Nat)
    (first : Bool) : (members value bound first).Extends (members value' bound first) := by
  induction bound generalizing first with
  | zero => exact extends_refl _
  | succ bound ih =>
    refine extends_bind (extends_refl _) fun more => ?_
    cases more with
    | false =>
      rw [if_neg Bool.false_ne_true, if_neg Bool.false_ne_true]
      exact extends_refl _
    | true =>
      refine extends_bind (extends_refl _) fun name => extends_bind (extends_refl _) fun _ => ?_
      exact extends_bind h fun a => extends_bind (ih false) fun _ => extends_refl _

end Extends

/-- More brackets may be nested than there are. -/
theorem extends_verbatim {depth room : Nat} (h : depth ≤ room) :
    (verbatim depth).Extends (verbatim room) := by
  induction depth generalizing room with
  | zero =>
    cases room with
    | zero => exact extends_refl _
    | succ room =>
      refine extends_bind (extends_refl _) fun v => ?_
      cases v with
      | none => exact extends_failAhead _ _
      | some w => exact extends_refl _
  | succ depth ih =>
    obtain ⟨room, rfl⟩ : ∃ r, room = r + 1 := ⟨room - 1, by omega⟩
    have hinner := ih (Nat.le_of_succ_le_succ h)
    refine extends_bind (extends_refl _) fun v => ?_
    cases v with
    | some w => exact extends_refl _
    | none =>
      refine extends_bind (extends_refl _) fun open? => ?_
      split
      · refine extends_bind (extends_refl _) fun bound => ?_
        exact extends_bind (extends_items hinner bound true) fun _ => extends_refl _
      · refine extends_bind (extends_refl _) fun bound => ?_
        exact extends_bind (extends_members hinner bound true) fun _ => extends_refl _

/-! ## The tree of a written document -/

/-- Items are read as they stand in step with their reading as trees. -/
theorem lockstep_items {item item' : Reader Json}
    (h : item.Lockstep (fun w v => v = w.sorted) item') (bound : Nat) (first : Bool) :
    (items item bound first).Lockstep (fun ws vs => vs = sortedItems ws)
      (items item' bound first) := by
  induction bound generalizing first with
  | zero => exact lockstep_failHere _
  | succ bound ih =>
    refine lockstep_after _ fun more => ?_
    cases more with
    | false => exact lockstep_after _ fun _ => lockstep_pure rfl
    | true =>
      refine lockstep_bind h fun w v hv => lockstep_bind (ih false) fun ws vs hvs => ?_
      subst hv hvs
      exact lockstep_pure rfl

/-- Members are read as they stand in step with their reading as trees. -/
theorem lockstep_members {value value' : Reader Json}
    (h : value.Lockstep (fun w v => v = w.sorted) value') (bound : Nat) (first : Bool) :
    (members value bound first).Lockstep (fun ws vs => vs = sortedMembers ws)
      (members value' bound first) := by
  induction bound generalizing first with
  | zero => exact lockstep_failHere _
  | succ bound ih =>
    refine lockstep_after _ fun more => ?_
    cases more with
    | false => exact lockstep_after _ fun _ => lockstep_pure rfl
    | true =>
      refine lockstep_after _ fun name => lockstep_after _ fun _ => ?_
      refine lockstep_bind h fun w v hv => lockstep_bind (ih false) fun ws vs hvs => ?_
      subst hv hvs
      exact lockstep_pure rfl

/-- A reader in step with itself, as far as its values are of one kind. -/
theorem lockstep_of_taken {α : Type} {r : Reader α} {P : α → Prop}
    (h : ∀ c a d, r.taken c = some (a, d) → P a) : r.Lockstep (fun a b => a = b ∧ P a) r := by
  intro c
  cases hr : r.run c with
  | error refusal => rfl
  | ok ended =>
    refine ⟨⟨rfl, h c ended.1 ended.2 ?_⟩, rfl⟩
    unfold taken
    rw [hr]
    rfl

/-- The scalar that may stand here is its own sorted form. -/
theorem lockstep_scalar :
    scalar?.Lockstep (fun v v' => v = v' ∧ ∀ w, v = some w → w.sorted = w) scalar? := by
  refine lockstep_of_taken fun c v d h w hw => ?_
  obtain ⟨w', rfl, hw'⟩ | ⟨rfl, _, _⟩ := scalar_cases h
  · cases hw
    exact sorted_of_scalarAt hw'
  · cases hw

/-- A document is read as it stands in step with its reading as a tree. -/
theorem lockstep_verbatim (depth : Nat) :
    (verbatim depth).Lockstep (fun w v => v = w.sorted) (tree depth) := by
  induction depth with
  | zero =>
    refine lockstep_bind lockstep_scalar ?_
    rintro v _ ⟨rfl, hv⟩
    cases v with
    | none => exact lockstep_failAhead _
    | some w => exact lockstep_pure (hv w rfl).symm
  | succ depth ih =>
    refine lockstep_bind lockstep_scalar ?_
    rintro v _ ⟨rfl, hv⟩
    cases v with
    | some w => exact lockstep_pure (hv w rfl).symm
    | none =>
      refine lockstep_after _ fun open? => ?_
      split
      · refine lockstep_after _ fun bound => ?_
        refine lockstep_bind (lockstep_items ih bound true) fun ws vs hvs => ?_
        subst hvs
        exact lockstep_pure rfl
      · refine lockstep_after _ fun bound => ?_
        refine lockstep_bind (lockstep_members ih bound true) fun ws vs hvs => ?_
        subst hvs
        exact lockstep_pure rfl

/-- What is read is what is written, sorted. -/
theorem tree_eq (depth : Nat) : tree depth = sorted <$> verbatim depth :=
  map_of_lockstep (lockstep_verbatim depth)

end Reader

end MessageFlow.Json
