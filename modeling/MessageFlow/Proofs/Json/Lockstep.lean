import Mathlib.Data.List.Forall2
import MessageFlow.Json.Decoder

/-!
# Readers in lockstep

Two readers that consume the same bytes, refuse the same documents at the same places, and read
related values. A record that is read into two partial records at once stays in step as long as its
fields do (`lockstep_decoder`), so that what is made of a record can be told from what was given for
its fields.
-/

namespace MessageFlow.Json

/-- Two readers do the same to every document, but for what they make of it. -/
def Reader.Lockstep {α β : Type} (rel : α → β → Prop) (r : Reader α) (r' : Reader β) : Prop :=
  ∀ c, match r.run c, r'.run c with
    | .ok (a, d), .ok (b, d') => rel a b ∧ d = d'
    | .error refusal, .error refusal' => refusal = refusal'
    | _, _ => False

namespace Reader

variable {α β γ δ : Type} {rel : α → β → Prop} {rel' : γ → δ → Prop} {r : Reader α}
  {r' : Reader β}

/-- A reader is in step with itself. -/
theorem lockstep_refl (r : Reader α) : r.Lockstep Eq r := by
  intro c
  cases r.run c with
  | error refusal => rfl
  | ok ended => exact ⟨rfl, rfl⟩

/-- Readers in step are in step for what follows from it. -/
theorem lockstep_mono {weaker : α → β → Prop} (h : r.Lockstep rel r')
    (hrel : ∀ a b, rel a b → weaker a b) : r.Lockstep weaker r' := by
  intro c
  have hc := h c
  revert hc
  rcases r.run c with refusal | ⟨a, d⟩ <;> rcases r'.run c with refusal' | ⟨b, d'⟩ <;> intro hc
  · exact hc
  · exact hc
  · exact hc
  · exact ⟨hrel a b hc.1, hc.2⟩

theorem lockstep_pure {a : α} {b : β} (h : rel a b) :
    (pure a : Reader α).Lockstep rel (pure b) :=
  fun _ => ⟨h, rfl⟩

theorem lockstep_failHere (fault : Fault) :
    (failHere fault : Reader α).Lockstep rel (failHere fault) :=
  fun _ => rfl

theorem lockstep_failAhead (fault : Fault) :
    (failAhead fault : Reader α).Lockstep rel (failAhead fault) :=
  fun _ => rfl

/-- Readers that are in step remain so, one after the other. -/
theorem lockstep_bind {f : α → Reader γ} {f' : β → Reader δ} (h : r.Lockstep rel r')
    (hf : ∀ a b, rel a b → (f a).Lockstep rel' (f' b)) :
    (r >>= f).Lockstep rel' (r' >>= f') := by
  intro c
  have hc := h c
  rw [StateT.run_bind, StateT.run_bind]
  revert hc
  rcases r.run c with refusal | ⟨a, d⟩ <;> rcases r'.run c with refusal' | ⟨b, d'⟩ <;> intro hc
  · exact hc
  · cases hc
  · cases hc
  · obtain ⟨hrel, rfl⟩ := hc
    exact hf a b hrel d

/-- The same reader first, and then two that stay in step whatever it read. -/
theorem lockstep_after (first : Reader α) {f : α → Reader γ} {f' : α → Reader δ}
    (hf : ∀ a, (f a).Lockstep rel' (f' a)) : (first >>= f).Lockstep rel' (first >>= f') := by
  refine lockstep_bind (lockstep_refl first) ?_
  rintro a _ rfl
  exact hf a

/-- Judgements that are alike are in step. -/
theorem lockstep_judged {judgement : Except Fault α} {judgement' : Except Fault β}
    (h : match judgement, judgement' with
      | .ok a, .ok b => rel a b
      | .error fault, .error fault' => fault = fault'
      | _, _ => False) :
    (judged judgement).Lockstep rel (judged judgement') := by
  cases judgement <;> cases judgement'
  · obtain rfl := h
    exact lockstep_failHere _
  · cases h
  · cases h
  · exact lockstep_pure h

theorem lockstep_mismatch (expected : String) :
    (mismatch expected : Reader α).Lockstep rel (mismatch expected) := by
  refine lockstep_after _ fun v => ?_
  cases v with
  | some v => exact lockstep_failHere _
  | none => exact lockstep_after _ fun b => lockstep_failHere _

/-- What is made of a value by a function is made of it in step. -/
theorem map_of_lockstep {g : α → β} (h : r.Lockstep (fun a b => b = g a) r') : r' = g <$> r := by
  funext c
  have hc := h c
  have hmap : (g <$> r).run c = (fun ended => (g ended.1, ended.2)) <$> r.run c :=
    StateT.run_map g r c
  show r'.run c = (g <$> r).run c
  rw [hmap]
  revert hc
  rcases r.run c with refusal | ⟨a, d⟩ <;> rcases r'.run c with refusal' | ⟨b, d'⟩ <;> intro hc
  · exact congrArg _ hc.symm
  · cases hc
  · cases hc
  · obtain ⟨rfl, rfl⟩ := hc
    rfl

end Reader

/-! ## Records -/

variable {σ τ α β : Type}

/-- Two fields of one name, one of them of partial records that the others are made of. -/
structure Field.Lockstep (f : σ → τ) (field : Field σ) (field' : Field τ) : Prop where
  name : field'.name = field.name
  held : ∀ s, field'.held (f s) = field.held s
  read : field.decoder.read.Lockstep (fun fill fill' => ∀ s, fill' (f s) = f (fill s))
    field'.decoder.read

/-- Two shapes of records, with the same fields. -/
structure RecordShape.Lockstep (f : σ → τ) (g : α → β) (shape : RecordShape σ α)
    (shape' : RecordShape τ β) : Prop where
  expected : shape'.expected = shape.expected
  fields : List.Forall₂ (Field.Lockstep f) shape.fields shape'.fields
  empty : shape'.empty = f shape.empty
  ofObject : ∀ s, shape'.ofObject (f s) = (shape.ofObject s).map g
  ofArray : ∀ s count, shape'.ofArray (f s) count = (shape.ofArray s count).map g

section Records

variable {f : σ → τ} {g : α → β} {shape : RecordShape σ α} {shape' : RecordShape τ β}

/-- A field of a value is in step with a field of what is made of the value. -/
theorem lockstep_slot {γ δ : Type} {name : String} {d : Decoder γ} {d' : Decoder δ}
    {get : σ → Option γ} {get' : τ → Option δ} {set : γ → σ → σ} {set' : δ → τ → τ} {h : γ → δ}
    (hread : d'.read = h <$> d.read) (hget : ∀ s, get' (f s) = (get s).map h)
    (hset : ∀ v s, set' (h v) (f s) = f (set v s)) :
    (Field.slot name d get set).Lockstep f (.slot name d' get' set') := by
  refine ⟨rfl, fun s => ?_, ?_⟩
  · show (get' (f s)).isSome = (get s).isSome
    rw [hget, Option.isSome_map]
  · show (do return set (← d.read) : Reader (σ → σ)).Lockstep _ (do return set' (← d'.read))
    rw [hread, bind_map_left]
    exact Reader.lockstep_after _ fun v => Reader.lockstep_pure (hset v)

/-- Records in step have a field of some name both or neither. -/
theorem lockstep_find {fields : List (Field σ)} {fields' : List (Field τ)}
    (h : List.Forall₂ (Field.Lockstep f) fields fields') (name : String) :
    Option.Rel (Field.Lockstep f) (fields.find? (·.name == name))
      (fields'.find? (·.name == name)) := by
  induction h with
  | nil => exact .none
  | cons hfield hrest ih =>
    rw [List.find?_cons, List.find?_cons, hfield.name]
    split
    · exact .some hfield
    · exact ih

/-- A judgement behind a bracket is in step with one of a function of it. -/
theorem lockstep_judgedAfter (close : UInt8) (judgement : Except Fault α) :
    (RecordShape.judgedAfter close judgement).Lockstep (fun a b => b = g a)
      (RecordShape.judgedAfter close (judgement.map g)) := by
  refine Reader.lockstep_after _ fun _ => Reader.lockstep_judged ?_
  cases judgement <;> rfl

/-- Members are read into both records in step. -/
theorem lockstep_readMembers (h : shape.Lockstep f g shape') (bound : Nat) (first : Bool) (s : σ) :
    (shape.readMembers bound first s).Lockstep (fun a b => b = g a)
      (shape'.readMembers bound first (f s)) := by
  induction bound generalizing first s with
  | zero => exact Reader.lockstep_failHere _
  | succ bound ih =>
    unfold RecordShape.readMembers
    refine Reader.lockstep_after _ fun more => ?_
    cases more with
    | false => exact h.ofObject s ▸ lockstep_judgedAfter 0x7D _
    | true =>
      refine Reader.lockstep_after _ fun name => ?_
      -- Either both records have a field of this name or none of them has.
      have hfind := lockstep_find h.fields name
      revert hfind
      generalize shape.fields.find? (·.name == name) = field
      generalize shape'.fields.find? (·.name == name) = field'
      intro hfind
      cases hfind with
      | none =>
        -- The value is skipped.
        refine Reader.lockstep_after _ fun _ => Reader.lockstep_after _ fun _ => ?_
        exact ih false s
      | some hfield =>
        dsimp only
        rw [hfield.held]
        split
        · exact lockstep_judgedAfter 0x7D (.error _)
        · refine Reader.lockstep_after _ fun _ => Reader.lockstep_bind hfield.read ?_
          intro fill fill' hfill
          exact hfill s ▸ ih false (fill s)

/-- Items are read into both records in step. -/
theorem lockstep_readItems (h : shape.Lockstep f g shape') {fields : List (Field σ)}
    {fields' : List (Field τ)} (hfields : List.Forall₂ (Field.Lockstep f) fields fields')
    (first : Bool) (count : Nat) (s : σ) :
    (shape.readItems fields first count s).Lockstep (fun a b => b = g a)
      (shape'.readItems fields' first count (f s)) := by
  induction hfields generalizing first count s with
  | nil =>
    unfold RecordShape.readItems
    rw [h.ofArray]
    cases shape.ofArray s count with
    | error fault => exact lockstep_judgedAfter 0x5D (.error fault)
    | ok a =>
      -- The record is there. What the array has besides is refused, by the byte that comes next.
      refine Reader.lockstep_after _ fun b => ?_
      split
      · exact Reader.lockstep_failAhead _
      · exact Reader.lockstep_after _ fun _ => Reader.lockstep_pure rfl
      · refine Reader.lockstep_after _ fun _ => Reader.lockstep_after _ fun b => ?_
        split <;> exact Reader.lockstep_failAhead _
      · exact Reader.lockstep_failAhead _
  | cons hfield hrest ih =>
    unfold RecordShape.readItems
    refine Reader.lockstep_after _ fun more => ?_
    cases more with
    | false => exact h.ofArray s count ▸ lockstep_judgedAfter 0x5D _
    | true =>
      refine Reader.lockstep_bind hfield.read ?_
      intro fill fill' hfill
      exact hfill s ▸ ih false (count + 1) (fill s)

/-- What is made of a record is made of what was read for its fields. -/
theorem lockstep_decoder (h : shape.Lockstep f g shape') :
    shape'.decoder.read = g <$> shape.decoder.read := by
  refine Reader.map_of_lockstep (Reader.lockstep_after _ fun b => ?_)
  split
  · refine Reader.lockstep_after _ fun _ => Reader.lockstep_after _ fun bound => ?_
    exact h.empty ▸ lockstep_readMembers h bound true shape.empty
  · refine Reader.lockstep_after _ fun _ => ?_
    exact h.empty ▸ lockstep_readItems h h.fields true 0 shape.empty
  · rw [h.expected]
    exact Reader.lockstep_mismatch shape.expected

/-- Whole documents are read in step. -/
theorem fromBytes_of_lockstep (h : shape.Lockstep f g shape') (bytes : List UInt8) :
    shape'.decoder.fromBytes bytes = (shape.decoder.fromBytes bytes).map g := by
  unfold Decoder.fromBytes Reader.whole
  rw [lockstep_decoder h, StateT.run_map]
  cases shape.decoder.read.run (.ofBytes bytes) with
  | error refusal => rfl
  | ok ended =>
    obtain ⟨a, c⟩ := ended
    -- Behind the record only blanks may stand, and both readers are at the same place there.
    simp only [Functor.map, Except.map, bind, Except.bind]
    cases Reader.blanks.run c with
    | error refusal => rfl
    | ok ended' =>
      obtain ⟨rest, c'⟩ := ended'
      cases rest <;> rfl

end Records

end MessageFlow.Json
