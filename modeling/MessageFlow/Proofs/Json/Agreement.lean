import MessageFlow.Proofs.Json.Skipped

/-!
# Text and trees are decoded alike

A decoder reads text on the one hand and trees on the other. It agrees with itself if it takes from
every document what it makes of the document's tree, and refuses the document if it refuses the tree
(`Decoder.Agrees`), as long as no object repeats a key: a repeated field is refused in the text and
gone from the tree. Scalars agree, and options, lists and records agree if their parts do. A record
may find its fields in another order in the tree than in the text, so its fields must not interfere
with each other (`RecordShape.Independent`).
-/

namespace MessageFlow.Json

open Reader

variable {α β σ : Type}

/-- What is taken from a document is what is made of its tree. -/
def Decoder.Agrees (d : Decoder α) : Prop :=
  ∀ depth c w e, depth ≤ deepest → (verbatim depth).taken c = some (w, e) → w.Unrepeated →
    d.read.taken c = (d.ofTree w.sorted).toOption.map fun a => (a, e)

/-! ## Scalars, options and documents -/

/-- A scalar is decoded alike from text and from a tree. -/
theorem agrees_scalar (expected : String) (judge : Json → Option (Except Fault α)) :
    (Decoder.scalar expected judge).Agrees := by
  intro depth c w e _ h _
  unfold Decoder.scalar
  dsimp only
  rw [taken_bind]
  cases verbatim_cases h with
  | scalar hread here =>
    rw [hread, Option.bind_some]
    dsimp only
    rw [taken_judged, sorted_of_scalarAt here]
    cases here <;> rfl
  | array _ hread =>
    rw [hread]
    exact taken_mismatch expected _
  | object _ hread =>
    rw [hread]
    exact taken_mismatch expected _

/-- What is not null is decoded by the decoder of an option. -/
theorem ofTree_option (d : Decoder α) {v : Json} (h : v ≠ .null) :
    (Decoder.option d).ofTree v = (d.ofTree v).map some := by
  cases v with
  | null => exact absurd rfl h
  | _ => rfl

/-- What does not begin like null is read by the decoder of an option. -/
theorem taken_option (d : Decoder α) {c : Cursor} (h : c.settled.rest.head? ≠ some 0x6E) :
    (Decoder.option d).read.taken c =
      (d.read.taken c.settled).map fun ended => (some ended.1, ended.2) := by
  unfold Decoder.option
  dsimp only
  rw [taken_blanks_bind]
  split
  · next head => exact absurd head h
  · rw [bind_pure_comp, taken_map]

/-- An option is decoded alike if what it holds is. -/
theorem agrees_option {d : Decoder α} (h : d.Agrees) : (Decoder.option d).Agrees := by
  intro depth c w e hdepth hw hkeys
  -- Whatever is not null is read as what the option holds.
  have some_of (head : c.settled.rest.head? ≠ some 0x6E) (hne : w.sorted ≠ .null) :
      (Decoder.option d).read.taken c =
        ((Decoder.option d).ofTree w.sorted).toOption.map fun a => (a, e) := by
    rw [taken_option d head, ofTree_option d hne, toOption_map, Option.map_map]
    rw [h depth c.settled w e hdepth ((verbatim_settled depth c).trans hw) hkeys,
      Option.map_map]
    rfl
  cases verbatim_cases hw with
  | scalar _ here =>
    cases here with
    | null head rest =>
      unfold Decoder.option
      dsimp only
      rw [taken_blanks_bind, head]
      show (skip >>= fun _ => word [0x75, 0x6C, 0x6C] >>= fun _ => pure none).taken c.settled = _
      rw [taken_skip_bind]
      exact taken_bind_pure.2 ⟨(), rest, rfl⟩
    | yes head rest => exact some_of (by rw [head]; decide) (by simp [sorted])
    | no head rest => exact some_of (by rw [head]; decide) (by simp [sorted])
    | signed head rest => exact some_of (by rw [head]; decide) (by simp [sorted])
    | string head rest => exact some_of (by rw [head]; decide) (by simp [sorted])
    | unsigned head digit rest =>
      refine some_of ?_ (by simp [sorted])
      rw [head]
      rintro ⟨⟩
      exact absurd digit (by decide)
  | array _ _ head => exact some_of (by rw [head]; decide) (by simp [sorted])
  | object _ _ head => exact some_of (by rw [head]; decide) (by simp [sorted, ofMembers])

/-- A document is read as it is, whatever surrounds it. -/
theorem agrees_tree : Decoder.tree.Agrees := by
  intro depth c w e hdepth hw _
  show (tree deepest).taken c = some (w.sorted, e)
  rw [tree_eq, taken_map, extends_verbatim hdepth c w e hw]
  rfl

/-! ## Lists -/

/-- Items that were read can be decoded as they stand, with the same results. -/
theorem taken_items {d : Decoder α} (h : d.Agrees) {depth bound : Nat} {first : Bool}
    {c e : Cursor} {ws : List Json} (hdepth : depth ≤ deepest)
    (hws : (Reader.items (verbatim depth) bound first).taken c = some (ws, e))
    (hkeys : UnrepeatedItems ws) :
    (Reader.items d.read bound first).taken c =
      ((sortedItems ws).mapM d.ofTree).toOption.map fun as => (as, e) := by
  induction bound generalizing first c ws with
  | zero => cases hws
  | succ bound ih =>
    cases items_cases hws with
    | ended hend =>
      rw [Reader.items, taken_bind, hend]
      rfl
    | more hbound hnext hw hrest =>
      cases hbound
      obtain ⟨hkey, hkeys⟩ := hkeys
      rw [Reader.items, taken_bind, hnext, Option.bind_some, if_pos rfl, taken_bind,
        h _ _ _ _ hdepth hw hkey]
      rw [sortedItems, List.mapM_cons, toOption_bind]
      cases d.ofTree (sorted _) with
      | error fault => rfl
      | ok a =>
        show (Reader.items d.read bound false >>= fun as => pure (a :: as)).taken _ =
          ((sortedItems _).mapM d.ofTree >>= fun as => pure (a :: as)).toOption.map _
        rw [bind_pure_comp, taken_map, ih hrest hkeys, bind_pure_comp]
        cases (sortedItems _).mapM d.ofTree <;> rfl

/-- A list is read from a bracket on. -/
theorem taken_list_bracket (d : Decoder α) {c : Cursor} (h : c.settled.rest.head? = some 0x5B) :
    (Decoder.list d).read.taken c =
      (Reader.items d.read c.settled.advance.rest.length true).taken c.settled.advance := by
  unfold Decoder.list
  dsimp only
  rw [taken_blanks_bind, h]
  show (skip >>= fun _ => remaining >>= fun bound =>
    Reader.items d.read bound true).taken c.settled = _
  rw [taken_skip_bind, taken_remaining_bind]

/-- What does not begin with a bracket is no list. -/
theorem taken_list_other (d : Decoder α) {c : Cursor} (h : c.settled.rest.head? ≠ some 0x5B) :
    (Decoder.list d).read.taken c = none := by
  unfold Decoder.list
  dsimp only
  rw [taken_blanks_bind]
  split
  · next head => exact absurd head h
  · exact taken_mismatch _ _

/-- A list is decoded alike if its items are. -/
theorem agrees_list {d : Decoder α} (h : d.Agrees) : (Decoder.list d).Agrees := by
  intro depth c w e hdepth hw hkeys
  cases verbatim_cases hw with
  | scalar _ here =>
    rw [taken_list_other d (head_ne_bracket here).1]
    cases here <;> rfl
  | array hinner _ head hws =>
    rw [taken_list_bracket d head]
    exact taken_items h (by omega) hws hkeys
  | object _ _ head =>
    rw [taken_list_other d (by rw [head]; decide)]
    rfl

/-! ## Records -/

/-- A decoder whose values are passed on through a function. -/
theorem agrees_map {d : Decoder α} (h : d.Agrees) (f : α → β) :
    Decoder.Agrees { read := do return f (← d.read), ofTree := fun v => (d.ofTree v).map f } := by
  intro depth c w e hdepth hw hkeys
  dsimp only
  rw [bind_pure_comp, taken_map, h depth c w e hdepth hw hkeys, toOption_map, Option.map_map,
    Option.map_map]
  rfl

/-- What is filled in for either of two fields neither fills in the other nor depends on it. -/
structure Field.Apart (field other : Field σ) : Prop where
  held : ∀ v fill, other.decoder.ofTree v = .ok fill → ∀ s, field.held (fill s) = field.held s
  heldOther : ∀ v fill, field.decoder.ofTree v = .ok fill → ∀ s, other.held (fill s) = other.held s
  fills : ∀ v fill v' fill', field.decoder.ofTree v = .ok fill →
    other.decoder.ofTree v' = .ok fill' → ∀ s, fill (fill' s) = fill' (fill s)

/-- Two fields are apart, whichever comes first. -/
theorem Field.Apart.symm {field other : Field σ} (h : field.Apart other) : other.Apart field where
  held := h.heldOther
  heldOther := h.held
  fills v fill v' fill' hfill hfill' s := (h.fills v' fill' v fill hfill' hfill s).symm

namespace RecordShape

variable {shape : RecordShape σ α}

/-- What is filled in for one field neither fills in another nor depends on it. -/
structure Independent (shape : RecordShape σ α) : Prop where
  held : ∀ field ∈ shape.fields, ∀ other ∈ shape.fields, field.name ≠ other.name →
    ∀ v fill, other.decoder.ofTree v = .ok fill → ∀ s, field.held (fill s) = field.held s
  fills : ∀ field ∈ shape.fields, ∀ other ∈ shape.fields, field.name ≠ other.name →
    ∀ v fill v' fill', field.decoder.ofTree v = .ok fill → other.decoder.ofTree v' = .ok fill' →
      ∀ s, fill (fill' s) = fill' (fill s)

/-- Fields that are apart, two by two, are independent. -/
theorem independent_of_pairwise (h : shape.fields.Pairwise Field.Apart) : shape.Independent := by
  have hapart : ∀ ⦃field⦄, field ∈ shape.fields → ∀ ⦃other⦄, other ∈ shape.fields →
      field.name ≠ other.name → field.Apart other :=
    List.Pairwise.forall_of_forall_of_flip
      (R := fun field other => field.name ≠ other.name → field.Apart other)
      (fun _ _ hne => absurd rfl hne)
      (h.imp fun {field other} h (_ : field.name ≠ other.name) => h)
      (h.imp fun {field other} h (_ : other.name ≠ field.name) => h.symm)
  exact ⟨fun _ hfield _ hother hne => (hapart hfield hother hne).held,
    fun _ hfield _ hother hne => (hapart hfield hother hne).fills⟩

/-- The partial record after one member, unless the member is refused. -/
def put (shape : RecordShape σ α) (s : σ) (m : String × Json) : Option σ :=
  match shape.fields.find? (·.name == m.1) with
  | none => some s
  | some field =>
    if field.held s then none else (field.decoder.ofTree m.2).toOption.map fun fill => fill s

/-- The first member is put into a record, and then the others are. -/
theorem toOption_ofMembers_cons (s : σ) (m : String × Json) (rest : List (String × Json)) :
    (shape.ofMembers s (m :: rest)).toOption =
      (shape.put s m).bind fun s => (shape.ofMembers s rest).toOption := by
  obtain ⟨name, v⟩ := m
  unfold put
  rw [ofMembers]
  dsimp only
  cases shape.fields.find? (·.name == name) with
  | none => rfl
  | some field =>
    dsimp only
    split
    · rfl
    · cases field.decoder.ofTree v <;> rfl

/-- Two members of different names may be put in either order. -/
theorem put_swap (h : shape.Independent) {m m' : String × Json} (hne : m.1 ≠ m'.1) (s : σ) :
    ((shape.put s m).bind fun s => shape.put s m') =
      (shape.put s m').bind fun s => shape.put s m := by
  unfold put
  cases hfield : shape.fields.find? (·.name == m.1) with
  | none => simp
  | some field =>
    cases hother : shape.fields.find? (·.name == m'.1) with
    | none => simp
    | some other =>
      have hmem := List.mem_of_find?_eq_some hfield
      have hmem' := List.mem_of_find?_eq_some hother
      have hname : field.name = m.1 := by simpa using List.find?_some hfield
      have hname' : other.name = m'.1 := by simpa using List.find?_some hother
      have hfields : field.name ≠ other.name := by rw [hname, hname']; exact hne
      dsimp only
      cases hv : field.decoder.ofTree m.2 with
      | error fault => cases field.held s <;> cases other.held s <;> simp [Except.toOption]
      | ok fill =>
        cases hv' : other.decoder.ofTree m'.2 with
        | error fault => cases field.held s <;> cases other.held s <;> simp [Except.toOption]
        | ok fill' =>
          have hheld := h.held field hmem other hmem' hfields _ _ hv' s
          have hheld' := h.held other hmem' field hmem (Ne.symm hfields) _ _ hv s
          have hfills := h.fills field hmem other hmem' hfields _ _ _ _ hv hv' s
          cases hs : field.held s <;> cases hs' : other.held s <;>
            simp [Except.toOption, hheld, hheld', hs, hs', hfills]

/-- The members of an object may come in any order, if no two are of one name. -/
theorem ofMembers_perm (h : shape.Independent) {ms ms' : List (String × Json)}
    (hperm : ms.Perm ms') (hnames : (ms.map Prod.fst).Nodup) (s : σ) :
    (shape.ofMembers s ms).toOption = (shape.ofMembers s ms').toOption := by
  induction hperm generalizing s with
  | nil => rfl
  | cons m _ ih =>
    rw [toOption_ofMembers_cons, toOption_ofMembers_cons]
    congr 1
    funext s
    exact ih (List.nodup_cons.1 hnames).2 s
  | swap m m' rest =>
    have hne : m'.1 ≠ m.1 := by
      intro heq
      refine (List.nodup_cons.1 hnames).1 ?_
      rw [heq]
      exact List.mem_cons_self
    simp only [toOption_ofMembers_cons]
    rw [← Option.bind_assoc, put_swap h hne, Option.bind_assoc]
  | trans hperm _ ih ih' =>
    rw [ih hnames, ih' ((hperm.map Prod.fst).nodup_iff.1 hnames)]

end RecordShape

/-! ### Members in the order of their names -/

/-- A new member comes to the others, somewhere among them. -/
theorem setMember_perm {name : String} {ms : List (String × Json)} (v : Json)
    (h : name ∉ ms.map Prod.fst) : (setMember name v ms).Perm ((name, v) :: ms) := by
  induction ms with
  | nil => exact .refl _
  | cons m rest ih =>
    obtain ⟨key, old⟩ := m
    rw [List.map_cons, List.mem_cons, not_or] at h
    rw [setMember, if_neg h.1]
    split
    · exact .refl _
    · exact ((ih h.2).cons _).trans (.swap _ _ _)

/-- Members with different names are all there in the end. -/
theorem foldl_setMember_perm {ms acc : List (String × Json)}
    (h : ((acc ++ ms).map Prod.fst).Nodup) :
    (ms.foldl (fun acc m => setMember m.1 m.2 acc) acc).Perm (acc ++ ms) := by
  induction ms generalizing acc with
  | nil => rw [List.append_nil]; exact .refl _
  | cons m rest ih =>
    have hmid : (acc ++ m :: rest).Perm (m :: (acc ++ rest)) := List.perm_middle
    have hnodup := (hmid.map Prod.fst).nodup_iff.1 h
    have hset : (setMember m.1 m.2 acc).Perm (m :: acc) := by
      refine setMember_perm m.2 fun hmem => ?_
      refine (List.nodup_cons.1 hnodup).1 ?_
      rw [List.map_append]
      exact List.mem_append_left _ hmem
    have happ : (setMember m.1 m.2 acc ++ rest).Perm (m :: (acc ++ rest)) :=
      hset.append_right rest
    exact (ih ((happ.map Prod.fst).nodup_iff.2 hnodup)).trans (happ.trans hmid.symm)

/-- The members of a sorted object are those that were set, if no two are of one name. -/
theorem setMembers_perm {ms : List (String × Json)} (h : (ms.map Prod.fst).Nodup) :
    (ms.foldl (fun acc m => setMember m.1 m.2 acc) []).Perm ms :=
  foldl_setMember_perm h

namespace RecordShape

variable {shape : RecordShape σ α}

/-! ### Reading records -/

/-- A record is judged behind its closing bracket. -/
theorem taken_judgedAfter {close : UInt8} {c : Cursor} (h : c.settled.rest.head? = some close)
    (judgement : Except Fault α) :
    (judgedAfter close judgement).taken c =
      judgement.toOption.map fun a => (a, c.settled.advance) := by
  unfold judgedAfter closing
  rw [taken_bind, taken_blanks_bind, h]
  simp

theorem taken_judgedAfter_error (close : UInt8) (fault : Fault) (c : Cursor) :
    (judgedAfter close (.error fault : Except Fault α)).taken c = none := by
  unfold judgedAfter closing
  simp [Except.toOption]

/-- The members of an object are read as those of its tree, in the order of the text. -/
theorem taken_readMembers (hfields : ∀ field ∈ shape.fields, field.decoder.Agrees)
    {depth bound : Nat} {first : Bool} {c e : Cursor} {ms : List (String × Json)}
    (hdepth : depth ≤ deepest)
    (hms : (Reader.members (verbatim depth) bound first).taken c = some (ms, e))
    (hkeys : UnrepeatedMembers ms) (s : σ) :
    (shape.readMembers bound first s).taken c =
      ((shape.ofMembers s (sortedMembers ms)).toOption.bind fun s =>
        (shape.ofObject s).toOption).map fun a => (a, e) := by
  induction bound generalizing first c ms s with
  | zero => cases hms
  | succ bound ih =>
    cases members_cases hms with
    | ended hend =>
      obtain ⟨rfl, head⟩ := nextMember_end hend
      rw [readMembers, taken_bind, hend, Option.bind_some, if_neg Bool.false_ne_true]
      rw [← Cursor.settled_settled] at head
      rw [taken_judgedAfter head, Cursor.settled_settled]
      rfl
    | @more _ name w _ _ _ _ _ _ hbound hnext hname hcolon hw hrest =>
      cases hbound
      obtain ⟨hkey, hkeys⟩ := hkeys
      rw [readMembers, taken_bind, hnext, Option.bind_some, if_pos rfl, taken_bind, hname,
        Option.bind_some, sortedMembers, toOption_ofMembers_cons]
      unfold put
      dsimp only
      cases hfind : shape.fields.find? (·.name == name) with
      | none =>
        -- Nobody asked for this member.
        dsimp only
        rw [taken_bind, hcolon, Option.bind_some, taken_bind, taken_skipOne hw, Option.bind_some,
          ih hrest hkeys, Option.bind_some]
      | some field =>
        dsimp only
        rw [taken_ite, taken_judgedAfter_error]
        split
        · rfl
        · have hagrees := hfields field (List.mem_of_find?_eq_some hfind) _ _ _ _ hdepth hw hkey
          rw [taken_bind, hcolon, Option.bind_some, taken_bind, hagrees]
          cases field.decoder.ofTree w.sorted with
          | error fault => rfl
          | ok fill => exact ih hrest hkeys (fill s)

/-- The items of an array are read as those of its tree. -/
theorem taken_readItems {fields : List (Field σ)} (total : Nat)
    (hfields : ∀ field ∈ fields, field.decoder.Agrees) {depth bound : Nat} {first : Bool}
    {c e : Cursor} {ws : List Json} (hdepth : depth ≤ deepest)
    (hws : (Reader.items (verbatim depth) bound first).taken c = some (ws, e))
    (hkeys : UnrepeatedItems ws) (count : Nat) (s : σ) :
    (shape.readItems fields first count s).taken c =
      (shape.ofItems total fields (sortedItems ws) count s).toOption.map fun a => (a, e) := by
  induction fields generalizing bound first c ws count s with
  | nil =>
    rw [readItems]
    cases items_cases hws with
    | ended hend =>
      obtain ⟨rfl, head⟩ := nextItem_end hend
      rw [sortedItems, ofItems]
      cases shape.ofArray s count with
      | error fault => exact taken_judgedAfter_error 0x5D fault c
      | ok a =>
        dsimp only
        rw [taken_blanks_bind, head]
        rfl
    | more _ hnext =>
      rw [sortedItems, ofItems]
      cases shape.ofArray s count with
      | error fault => exact taken_judgedAfter_error 0x5D fault c
      | ok a =>
        -- One item too many: what stands before it is not the bracket.
        dsimp only
        rw [taken_blanks_bind]
        split
        · rfl
        · next head => exact absurd head (head_ne_of_nextItem hnext)
        · rw [taken_skip_bind, taken_blanks_bind, taken_ite]
          split <;> rfl
        · rfl
  | cons field fields ih =>
    rw [readItems]
    cases items_cases hws with
    | ended hend =>
      obtain ⟨rfl, head⟩ := nextItem_end hend
      rw [taken_bind, hend, Option.bind_some, if_neg Bool.false_ne_true]
      rw [← Cursor.settled_settled] at head
      rw [taken_judgedAfter head, Cursor.settled_settled]
      rfl
    | more _ hnext hw hrest =>
      obtain ⟨hkey, hkeys⟩ := hkeys
      have hagrees := hfields field List.mem_cons_self _ _ _ _ hdepth hw hkey
      rw [taken_bind, hnext, Option.bind_some, if_pos rfl, taken_bind, hagrees, sortedItems,
        ofItems]
      cases field.decoder.ofTree (sorted _) with
      | error fault => rfl
      | ok fill =>
        have hrestFields : ∀ field ∈ fields, field.decoder.Agrees := fun field hmem =>
          hfields field (List.mem_cons_of_mem _ hmem)
        exact ih hrestFields hrest hkeys (count + 1) (fill s)

/-- The members of a sorted object may be decoded in the order in which they were written. -/
theorem toOption_ofTree_sorted (h : shape.Independent) {ms : List (String × Json)}
    (hnames : (ms.map Prod.fst).Nodup) :
    (shape.decoder.ofTree (Json.object ms).sorted).toOption =
      (shape.ofMembers shape.empty (sortedMembers ms)).toOption.bind fun s =>
        (shape.ofObject s).toOption := by
  rw [← map_fst_sortedMembers] at hnames
  rw [ofMembers_perm h (setMembers_perm hnames).symm hnames, ← toOption_bind]
  rfl

/-- A record is read from a brace on by its members. -/
theorem taken_object {c : Cursor} (h : c.settled.rest.head? = some 0x7B) :
    shape.decoder.read.taken c =
      (shape.readMembers c.settled.advance.rest.length true shape.empty).taken
        c.settled.advance := by
  unfold decoder
  dsimp only
  rw [taken_blanks_bind, h]
  show (skip >>= fun _ => remaining >>= fun bound =>
    shape.readMembers bound true shape.empty).taken c.settled = _
  rw [taken_skip_bind, taken_remaining_bind]

/-- A record is read from a bracket on by its fields in order. -/
theorem taken_array {c : Cursor} (h : c.settled.rest.head? = some 0x5B) :
    shape.decoder.read.taken c =
      (shape.readItems shape.fields true 0 shape.empty).taken c.settled.advance := by
  unfold decoder
  dsimp only
  rw [taken_blanks_bind, h]
  show (skip >>= fun _ => shape.readItems shape.fields true 0 shape.empty).taken c.settled = _
  rw [taken_skip_bind]

/-- What begins with neither is no record. -/
theorem taken_other {c : Cursor}
    (h : c.settled.rest.head? ≠ some 0x5B ∧ c.settled.rest.head? ≠ some 0x7B) :
    shape.decoder.read.taken c = none := by
  unfold decoder
  dsimp only
  rw [taken_blanks_bind]
  split
  · next head => exact absurd head h.2
  · next head => exact absurd head h.1
  · exact taken_mismatch _ _

/-- A record is decoded alike if its fields are, and are independent. -/
theorem agrees_decoder (h : shape.Independent)
    (hfields : ∀ field ∈ shape.fields, field.decoder.Agrees) : shape.decoder.Agrees := by
  intro depth c w e hdepth hw hkeys
  cases verbatim_cases hw with
  | scalar _ here =>
    rw [taken_other (head_ne_bracket here)]
    cases here <;> rfl
  | array hinner _ head hws =>
    rw [taken_array head, taken_readItems (sortedItems _).length hfields (by omega) hws hkeys]
    rfl
  | object hinner _ head hms =>
    obtain ⟨hnames, hkeys⟩ := hkeys
    rw [taken_object head, taken_readMembers hfields (by omega) hms hkeys,
      toOption_ofTree_sorted h hnames]

end RecordShape

end MessageFlow.Json
