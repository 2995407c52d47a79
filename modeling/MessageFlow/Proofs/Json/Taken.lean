import MessageFlow.Json.Decoder

/-!
# What a reader takes

A reader seen as a partial function on cursors: the value it makes and the cursor it ends at, or
nothing where it refuses the document, whatever it refuses it for. In this form the elementary
readers compute by rewriting, and two readers can be compared that accept the same documents but
word their refusals differently. A reader that only moves forward leaves a suffix of what it was
given (`Forward`), which is what the loops bounded by the bytes that remain need to know.
-/

namespace MessageFlow.Json

namespace Cursor

/-- The cursor after the blanks before it. -/
def settled (c : Cursor) : Cursor :=
  Reader.afterBlanks c.rest c.place

/-- A step goes past the first byte, if there is one. -/
theorem rest_advance (c : Cursor) : c.advance.rest = c.rest.tail := by
  unfold advance
  split
  next h => rw [h, List.tail_nil]
  next h => rw [h, List.tail_cons]

/-- Going past blanks leaves the end of what there was. -/
theorem rest_settled_suffix (c : Cursor) : c.settled.rest <:+ c.rest := by
  obtain ⟨rest, place⟩ := c
  show (Reader.afterBlanks rest place).rest <:+ rest
  induction rest generalizing place with
  | nil => exact List.suffix_rfl
  | cons b rest ih =>
    unfold Reader.afterBlanks
    split
    · exact (ih (place.after b)).trans (List.suffix_cons b rest)
    · exact List.suffix_rfl

/-- There are no blanks behind blanks. -/
@[simp] theorem settled_settled (c : Cursor) : c.settled.settled = c.settled := by
  obtain ⟨rest, place⟩ := c
  show (Reader.afterBlanks rest place).settled = Reader.afterBlanks rest place
  induction rest generalizing place with
  | nil => rfl
  | cons b rest ih =>
    by_cases hb : Reader.isBlank b
    · rw [Reader.afterBlanks, if_pos hb]
      exact ih (place.after b)
    · rw [Reader.afterBlanks, if_neg hb]
      show Reader.afterBlanks (b :: rest) place = ⟨b :: rest, place⟩
      rw [Reader.afterBlanks, if_neg hb]

/-- There is one byte less to read behind a byte. -/
theorem length_advance {c : Cursor} {b : UInt8} (h : c.rest.head? = some b) :
    c.rest.length = c.advance.rest.length + 1 := by
  obtain ⟨rest, hrest⟩ := List.head?_eq_some_iff.1 h
  rw [rest_advance, hrest]
  rfl

end Cursor

/-- Without its failure, one step after the other. -/
theorem toOption_bind {ε α β : Type} (x : Except ε α) (f : α → Except ε β) :
    (x >>= f).toOption = x.toOption.bind fun a => (f a).toOption := by
  cases x <;> rfl

theorem toOption_map {ε α β : Type} (x : Except ε α) (f : α → β) :
    (x.map f).toOption = x.toOption.map f := by
  cases x <;> rfl

theorem toOption_mapError {ε ε' α : Type} (x : Except ε α) (f : ε → ε') :
    (x.mapError f).toOption = x.toOption := by
  cases x <;> rfl

/-- A result is known by what is left when failures are forgotten. -/
theorem ok_iff_toOption {ε α : Type} {x : Except ε α} {a : α} :
    x = .ok a ↔ x.toOption = some a := by
  cases x <;> simp [Except.toOption]

namespace Reader

variable {α β : Type}

/-- What a reader makes of a document and where it ends, if it does not refuse the document. -/
def taken (r : Reader α) (c : Cursor) : Option (α × Cursor) :=
  (r.run c).toOption

/-- A value takes nothing. -/
@[simp] theorem taken_pure (a : α) (c : Cursor) : (pure a : Reader α).taken c = some (a, c) := rfl

/-- What is left by one reader is taken by the next, unless the first fails. -/
@[simp] theorem taken_bind (r : Reader α) (f : α → Reader β) (c : Cursor) :
    (r >>= f).taken c = (r.taken c).bind fun ended => (f ended.1).taken ended.2 := by
  unfold taken
  rw [StateT.run_bind]
  exact toOption_bind _ _

/-- A function of the value is no business of what is taken. -/
@[simp] theorem taken_map (f : α → β) (r : Reader α) (c : Cursor) :
    (f <$> r).taken c = (r.taken c).map fun ended => (f ended.1, ended.2) := by
  unfold taken
  rw [StateT.run_map]
  exact toOption_map _ _

/-- Of two steps that take something the first takes something, and the second goes on from
there. -/
theorem taken_of_bind {r : Reader α} {f : α → Reader β} {c e : Cursor} {b : β}
    (h : (r >>= f).taken c = some (b, e)) :
    ∃ a d, r.taken c = some (a, d) ∧ (f a).taken d = some (b, e) := by
  rw [taken_bind, Option.bind_eq_some_iff] at h
  obtain ⟨⟨a, d⟩, ha, hb⟩ := h
  exact ⟨a, d, ha, hb⟩

/-- What is made of a value that was read leaves the cursor where the value ended. -/
theorem taken_bind_pure {r : Reader α} {f : α → β} {c d : Cursor} {b : β} :
    (r >>= fun a => pure (f a)).taken c = some (b, d) ↔
      ∃ a, r.taken c = some (a, d) ∧ f a = b := by
  rw [bind_pure_comp, taken_map, Option.map_eq_some_iff]
  constructor
  · rintro ⟨⟨a, e⟩, ha, he⟩
    cases he
    exact ⟨a, ha, rfl⟩
  · rintro ⟨a, ha, rfl⟩
    exact ⟨(a, d), ha, rfl⟩

@[simp] theorem taken_ite (p : Prop) [Decidable p] (r r' : Reader α) (c : Cursor) :
    (if p then r else r').taken c = if p then r.taken c else r'.taken c := by
  split <;> rfl

@[simp] theorem taken_skip (c : Cursor) : skip.taken c = some ((), c.advance) := rfl

@[simp] theorem taken_peek (c : Cursor) : peek.taken c = some (c.rest.head?, c) := rfl

@[simp] theorem taken_next (c : Cursor) : next.taken c = some (c.rest.head?, c.advance) := rfl

-- Elementary readers, each as the first step of a longer one.
section Steps

variable (c : Cursor)

/-- A reader that begins with going past a byte. -/
theorem taken_skip_bind (f : Unit → Reader α) :
    (skip >>= f).taken c = (f ()).taken c.advance := rfl

/-- A reader that begins with a look at the place. -/
theorem taken_get_bind (f : Cursor → Reader α) :
    (get >>= f).taken c = (f c).taken c := rfl

/-- A reader that begins with a look at the next byte, which stays there. -/
theorem taken_peek_bind (f : Option UInt8 → Reader α) :
    (peek >>= f).taken c = (f c.rest.head?).taken c := rfl

/-- A reader that begins with the next byte. -/
theorem taken_next_bind (f : Option UInt8 → Reader α) :
    (next >>= f).taken c = (f c.rest.head?).taken c.advance := rfl

/-- A reader that begins with blanks, and then looks at what comes. -/
theorem taken_blanks_bind (f : Option UInt8 → Reader α) :
    (blanks >>= f).taken c = (f c.settled.rest.head?).taken c.settled := rfl

/-- A reader that begins with counting what there is. -/
theorem taken_remaining_bind (f : Nat → Reader α) :
    (remaining >>= f).taken c = (f c.rest.length).taken c := rfl

/-- A reader that begins with a look at a digit. -/
theorem taken_peekDigit_bind (f : Option Nat → Reader α) :
    (peekDigit >>= f).taken c = (f (c.rest.head?.bind digit?)).taken c := rfl

/-- A reader that begins with a look at the mark of an exponent. -/
theorem taken_atExponent_bind (f : Bool → Reader α) :
    (atExponent >>= f).taken c =
      (f (c.rest.head? == some 0x65 || c.rest.head? == some 0x45)).taken c := rfl

end Steps

/-- Nothing is taken where reading fails. -/
@[simp] theorem taken_failHere (fault : Fault) (c : Cursor) :
    (failHere fault : Reader α).taken c = none := rfl

@[simp] theorem taken_failAhead (fault : Fault) (c : Cursor) :
    (failAhead fault : Reader α).taken c = none := rfl

/-- Inside of a string there has to be a byte to look at. -/
theorem taken_peekInString (c : Cursor) :
    peekInString.taken c = c.rest.head?.map fun b => (b, c) := by
  unfold peekInString
  cases h : c.rest.head? <;> simp [h]

/-- Inside of a string there has to be a byte to take. -/
theorem taken_nextInString (c : Cursor) :
    nextInString.taken c = c.rest.head?.map fun b => (b, c.advance) := by
  unfold nextInString
  cases h : c.rest.head? <;> simp [h]

section InString

variable {c e : Cursor} {b : UInt8} {a : α} {f : UInt8 → Reader α}

/-- A look at a byte of a string succeeds if there is one. -/
theorem taken_peekInString_bind (h : c.rest.head? = some b) :
    (peekInString >>= f).taken c = (f b).taken c := by
  rw [taken_bind, taken_peekInString, h]
  rfl

/-- A byte of a string is taken if there is one. -/
theorem taken_nextInString_bind (h : c.rest.head? = some b) :
    (nextInString >>= f).taken c = (f b).taken c.advance := by
  rw [taken_bind, taken_nextInString, h]
  rfl

/-- A string does not end before its quote. -/
theorem head_of_peekInString (h : (peekInString >>= f).taken c = some (a, e)) :
    ∃ b, c.rest.head? = some b := by
  obtain ⟨b, d, hb, _⟩ := taken_of_bind h
  rw [taken_peekInString, Option.map_eq_some_iff] at hb
  obtain ⟨b, hb, _⟩ := hb
  exact ⟨b, hb⟩

/-- What took a byte of a string found one. -/
theorem head_of_nextInString (h : (nextInString >>= f).taken c = some (a, e)) :
    ∃ b, c.rest.head? = some b := by
  obtain ⟨b, d, hb, _⟩ := taken_of_bind h
  rw [taken_nextInString, Option.map_eq_some_iff] at hb
  obtain ⟨b, hb, _⟩ := hb
  exact ⟨b, hb⟩

end InString

/-- A judgement takes nothing, whatever it is. -/
@[simp] theorem taken_judged (judgement : Except Fault α) (c : Cursor) :
    (judged judgement).taken c = judgement.toOption.map fun a => (a, c) := by
  cases judgement <;> rfl

/-- Nothing is ever taken of the wrong kind. -/
@[simp] theorem taken_mismatch (expected : String) (c : Cursor) :
    (mismatch expected : Reader α).taken c = none := by
  unfold mismatch
  rw [taken_bind]
  cases scalar?.taken c with
  | none => rfl
  | some ended =>
    obtain ⟨v, d⟩ := ended
    cases v <;> rfl

/-- A whole document is read by what takes it, if nothing but blanks is left. -/
theorem toOption_whole (r : Reader α) (bytes : List UInt8) :
    (whole r bytes).toOption = (r.taken (.ofBytes bytes)).bind fun ended =>
      if ended.2.settled.rest = [] then some ended.1 else none := by
  unfold whole taken
  rw [toOption_bind]
  congr 1
  funext ended
  obtain ⟨a, c⟩ := ended
  have hblanks : blanks.run c = .ok (c.settled.rest.head?, c.settled) := rfl
  dsimp only
  rw [hblanks]
  cases c.settled.rest <;> rfl

/-! ## Forward -/

/-- A reader that leaves a suffix of the document. -/
def Forward (r : Reader α) : Prop :=
  ∀ c a d, r.taken c = some (a, d) → d.rest <:+ c.rest

/-- A value goes nowhere. -/
theorem forward_pure (a : α) : (pure a : Reader α).Forward := by
  intro c b d h
  cases h
  exact List.suffix_rfl

/-- Two readers that only go forward do so one after the other. -/
theorem forward_bind {r : Reader α} {f : α → Reader β} (h : r.Forward) (hf : ∀ a, (f a).Forward) :
    (r >>= f).Forward := by
  intro c b e he
  obtain ⟨a, d, hd, he⟩ := taken_of_bind he
  exact (hf a d b e he).trans (h c a d hd)

/-- What fails goes nowhere. -/
theorem forward_failHere (fault : Fault) : (failHere fault : Reader α).Forward := by
  intro c a d h
  cases h

theorem forward_failAhead (fault : Fault) : (failAhead fault : Reader α).Forward := by
  intro c a d h
  cases h

/-- Going past a byte is going forward. -/
theorem forward_skip : skip.Forward := by
  intro c a d h
  cases h
  rw [Cursor.rest_advance]
  exact List.tail_suffix _

theorem forward_peek : peek.Forward := by
  intro c a d h
  cases h
  exact List.suffix_rfl

theorem forward_next : next.Forward :=
  forward_bind forward_peek fun _ => forward_bind forward_skip fun _ => forward_pure _

/-- Going past blanks is going forward. -/
theorem forward_blanks : blanks.Forward := by
  intro c a d h
  cases h
  exact c.rest_settled_suffix

theorem forward_remaining : remaining.Forward := by
  intro c a d h
  cases h
  exact List.suffix_rfl

theorem forward_peekDigit : peekDigit.Forward :=
  forward_bind forward_peek fun _ => forward_pure _

theorem forward_atExponent : atExponent.Forward :=
  forward_bind forward_peek fun _ => forward_pure _

/-- A word that is expected is gone past, as far as it is there. -/
theorem forward_word (bytes : List UInt8) : (word bytes).Forward := by
  induction bytes with
  | nil => exact forward_pure _
  | cons b rest ih =>
    refine forward_bind forward_next fun found => ?_
    split
    · exact forward_failHere _
    · split
      · exact ih
      · exact forward_failHere _

theorem forward_colon : colon.Forward := by
  refine forward_bind forward_blanks fun b => ?_
  split
  · exact forward_failAhead _
  · exact forward_skip
  · exact forward_failAhead _

end Reader

end MessageFlow.Json
