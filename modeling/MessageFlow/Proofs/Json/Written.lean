import MessageFlow.Proofs.Json.Forms
import MessageFlow.Proofs.Json.WrittenScalars

/-!
# Documents that were written

The compact text of a document is read back as the document (`makes_verbatim`), and so the text
spells it (`spells_text`): if it has no numbers but natural ones, nests no deeper than a reader
goes, and no object repeats a key. The induction is on the document. What is written of a compound
value are its parts with commas between them, so both loops of the reader are shown to make the list
of parts of any such bytes, given that the reader of one part makes the part (`Reader.Parts`).
-/

namespace MessageFlow.Json

/-! ## What is written of a document -/

/-- Parts with commas between them. -/
def separated : List (List UInt8) → List UInt8
  | [] => []
  | part :: parts => part ++ parts.flatMap (0x2C :: ·)

/-- Texts with commas between them are bytes with commas between them. -/
theorem bytes_intercalate (ss : List String) :
    (",".intercalate ss).toUTF8.toList = separated (ss.map fun s => s.toUTF8.toList) := by
  have hcomma : (",": String).toUTF8.toList = [0x2C] := bytes_ofList [',']
  induction ss with
  | nil => exact bytes_ofList []
  | cons s ss ih =>
    cases ss with
    | nil => simp [separated]
    | cons s' ss =>
      rw [String.intercalate_cons_cons, bytes_append, bytes_append, ih, hcomma, List.append_assoc]
      rfl

/-- The bytes of the text of a document. -/
def code (v : Json) : List UInt8 :=
  v.text.toUTF8.toList

/-- The bytes of a member of an object, after the quote before its name. -/
def memberCode (m : String × Json) : List UInt8 :=
  ((m.1.toList.flatMap escaped).flatMap String.utf8EncodeChar ++ [0x22]) ++ ([0x3A] ++ m.2.code)

/-- Items are written one by one. -/
theorem itemTexts_eq (items : List Json) : itemTexts items = items.map text := by
  induction items with
  | nil => rfl
  | cons item items ih => rw [itemTexts, ih, List.map_cons]

/-- Members are written one by one, name and value. -/
theorem memberTexts_eq (members : List (String × Json)) :
    memberTexts members = members.map fun m => quoted m.1 ++ ":" ++ m.2.text := by
  induction members with
  | nil => rfl
  | cons member members ih => rw [memberTexts, ih, List.map_cons]

/-- The bytes of a string: its characters escaped, between quotes. -/
theorem code_string (s : String) : (Json.string s).code =
    0x22 :: ((s.toList.flatMap escaped).flatMap String.utf8EncodeChar ++ [0x22]) := by
  rw [code, text, Reader.bytes_quoted]

/-- The bytes of an array: its items with commas between them, in brackets. -/
theorem code_array (items : List Json) :
    (Json.array items).code = 0x5B :: (separated (items.map code) ++ [0x5D]) := by
  have hopen : ("[" : String).toUTF8.toList = [0x5B] := bytes_ofList ['[']
  have hclose : ("]" : String).toUTF8.toList = [0x5D] := bytes_ofList [']']
  rw [code, text, bytes_append, bytes_append, hopen, hclose, bytes_intercalate, itemTexts_eq,
    List.map_map]
  rfl

/-- The bytes of an object: its members with commas between them, in braces. -/
theorem code_object (members : List (String × Json)) : (Json.object members).code =
    0x7B :: (separated (members.map fun m => 0x22 :: memberCode m) ++ [0x7D]) := by
  have hopen : ("\x7b" : String).toUTF8.toList = [0x7B] := bytes_ofList ['\x7b']
  have hclose : ("\x7d" : String).toUTF8.toList = [0x7D] := bytes_ofList ['\x7d']
  have hcolon : (":" : String).toUTF8.toList = [0x3A] := bytes_ofList [':']
  have hmember : ∀ m : String × Json,
      (quoted m.1 ++ ":" ++ m.2.text).toUTF8.toList = 0x22 :: memberCode m := by
    intro m
    rw [bytes_append, bytes_append, Reader.bytes_quoted, hcolon, List.append_assoc]
    rfl
  rw [code, text, bytes_append, bytes_append, hopen, hclose, bytes_intercalate, memberTexts_eq,
    List.map_map]
  simp only [Function.comp_def, hmember]
  rfl

namespace Reader

variable {α : Type}

/-! ## The parts of a compound value -/

theorem noNumber_cons {b : UInt8} (h : digit? b = none ∧ b ≠ 0x2E ∧ b ≠ 0x65 ∧ b ≠ 0x45)
    (rest : List UInt8) : NoNumber (b :: rest) := by
  intro b' hb'
  cases hb'
  exact h

/-- How the parts of a compound value are read one after the other: `next` moves to the next part,
behind what leads to it, and stays at the closing bracket. -/
structure Parts (next : Bool → Reader Bool) (one : Reader α) (lead : List UInt8) (close : UInt8)
    (loop : Nat → Bool → Reader (List α)) (part : α → List UInt8) (xs : List α) : Prop where
  step : ∀ bound first, loop (bound + 1) first = next first >>= fun more =>
    if more then one >>= fun a => loop bound false >>= fun as => pure (a :: as)
    else skip >>= fun _ => pure []
  ended : ∀ first rest place,
    (next first).taken ⟨close :: rest, place⟩ = some (false, ⟨close :: rest, place⟩)
  first : ∀ x ∈ xs, ∀ rest place, ∃ place', (next true).taken ⟨lead ++ part x ++ rest, place⟩ =
    some (true, ⟨part x ++ rest, place'⟩)
  later : ∀ x ∈ xs, ∀ rest place, ∃ place',
    (next false).taken ⟨0x2C :: lead ++ part x ++ rest, place⟩ =
      some (true, ⟨part x ++ rest, place'⟩)
  one : ∀ x ∈ xs, one.Makes (part x) x NoNumber
  close : ∀ rest, NoNumber (close :: rest)

namespace Parts

variable {next : Bool → Reader Bool} {one : Reader α} {lead : List UInt8} {close : UInt8}
  {loop : Nat → Bool → Reader (List α)} {part : α → List UInt8} {x : α} {xs : List α}

/-- The parts behind the first are parts. -/
theorem tail (h : Parts next one lead close loop part (x :: xs)) :
    Parts next one lead close loop part xs where
  step := h.step
  ended := h.ended
  first y hy := h.first y (.tail x hy)
  later y hy := h.later y (.tail x hy)
  one y hy := h.one y (.tail x hy)
  close := h.close

/-- One part and what is read of the rest. -/
theorem taken_more (h : Parts next one lead close loop part (x :: xs)) {bound : Nat}
    {first : Bool} {c : Cursor} {bytes rest : List UInt8} {place : Position}
    (hnext : (next first).taken c = some (true, ⟨part x ++ (bytes ++ rest), place⟩))
    (hbytes : NoNumber (bytes ++ rest)) (hloop : (loop bound false).Makes bytes xs Anything) :
    ∃ place', (loop (bound + 1) first).taken c = some (x :: xs, ⟨rest, place'⟩) := by
  obtain ⟨place₁, hone⟩ := h.one x List.mem_cons_self _ place hbytes
  obtain ⟨place₂, hloop⟩ := hloop rest place₁ trivial
  refine ⟨place₂, ?_⟩
  rw [h.step, taken_bind, hnext, Option.bind_some, if_pos rfl, taken_bind, hone, Option.bind_some,
    taken_bind, hloop]
  rfl

/-- A closing bracket ends the parts. -/
theorem taken_ended (h : Parts next one lead close loop part xs) (bound : Nat) (first : Bool)
    (rest : List UInt8) (place : Position) :
    (loop (bound + 1) first).taken ⟨close :: rest, place⟩ =
      some ([], ⟨rest, place.after close⟩) := by
  rw [h.step, taken_bind, h.ended]
  rfl

/-- What follows a part does not go on with a number. -/
theorem noNumber_rest (h : Parts next one lead close loop part xs) (rest : List UInt8) :
    NoNumber ((xs.map fun x => lead ++ part x).flatMap (0x2C :: ·) ++ [close] ++ rest) := by
  cases xs with
  | nil => exact h.close rest
  | cons x xs => exact noNumber_cons (by decide) _

/-- Behind its first part the others are read, each behind its comma. -/
theorem makes_later (h : Parts next one lead close loop part xs) {bound : Nat}
    (hbound : xs.length < bound) :
    (loop bound false).Makes ((xs.map fun x => lead ++ part x).flatMap (0x2C :: ·) ++ [close]) xs
      Anything := by
  induction xs generalizing bound with
  | nil =>
    intro rest place _
    obtain ⟨bound, rfl⟩ : ∃ n, bound = n + 1 := ⟨bound - 1, by omega⟩
    exact ⟨_, h.taken_ended bound false rest place⟩
  | cons x xs ih =>
    intro rest place _
    obtain ⟨bound, rfl⟩ : ∃ n, bound = n + 1 := ⟨bound - 1, by omega⟩
    -- What is left of the parts begins with a comma or the bracket, so a number ends before it.
    have hloop := ih h.tail (Nat.lt_of_succ_lt_succ hbound)
    obtain ⟨place', hnext⟩ := h.later x List.mem_cons_self
      ((xs.map fun x => lead ++ part x).flatMap (0x2C :: ·) ++ [close] ++ rest) place
    obtain ⟨place'', hmore⟩ := h.taken_more hnext (h.tail.noNumber_rest rest) hloop
    refine ⟨place'', ?_⟩
    rw [← hmore]
    simp

/-- The parts with commas between them, and the closing bracket, are read as the parts. -/
theorem makes_all (h : Parts next one lead close loop part xs) {bound : Nat}
    (hbound : xs.length < bound) :
    (loop bound true).Makes (separated (xs.map fun x => lead ++ part x) ++ [close]) xs
      Anything := by
  intro rest place _
  obtain ⟨bound, rfl⟩ : ∃ n, bound = n + 1 := ⟨bound - 1, by omega⟩
  cases xs with
  | nil => exact ⟨_, h.taken_ended bound true rest place⟩
  | cons x xs =>
    obtain ⟨place', hnext⟩ := h.first x List.mem_cons_self
      ((xs.map fun x => lead ++ part x).flatMap (0x2C :: ·) ++ [close] ++ rest) place
    obtain ⟨place'', hmore⟩ := h.taken_more hnext (h.tail.noNumber_rest rest)
      (h.tail.makes_later (Nat.lt_of_succ_lt_succ hbound))
    refine ⟨place'', ?_⟩
    rw [← hmore]
    simp [separated]

end Parts

/-- Bytes with which a value begins: the first of them is no blank and no closing bracket. -/
def Opens (bytes : List UInt8) : Prop :=
  ∃ b rest, bytes = b :: rest ∧ isBlank b = false ∧ b ≠ 0x5D

/-- What opens something does so whatever follows. -/
theorem opens_append {bytes : List UInt8} (h : Opens bytes) (rest : List UInt8) :
    Opens (bytes ++ rest) := by
  obtain ⟨b, bytes, rfl, hb⟩ := h
  exact ⟨b, bytes ++ rest, rfl, hb⟩

/-- There are no blanks to go past before a byte that is none. -/
theorem taken_blanks_byte {b : UInt8} (h : isBlank b = false) (f : Option UInt8 → Reader α)
    (bytes : List UInt8) (place : Position) :
    (blanks >>= f).taken ⟨b :: bytes, place⟩ = (f (some b)).taken ⟨b :: bytes, place⟩ := by
  have hsettled : (Cursor.mk (b :: bytes) place).settled = ⟨b :: bytes, place⟩ := by
    show afterBlanks (b :: bytes) place = _
    rw [afterBlanks, if_neg (by rw [h]; exact Bool.false_ne_true)]
  rw [taken_blanks_bind, hsettled]
  rfl

/-- The first item is there if something opens. -/
theorem taken_nextItem_first {bytes : List UInt8} (h : Opens bytes) (place : Position) :
    (nextItem true).taken ⟨bytes, place⟩ = some (true, ⟨bytes, place⟩) := by
  obtain ⟨b, rest, rfl, hblank, hb⟩ := h
  unfold nextItem
  rw [taken_blanks_byte hblank]
  split
  · next heq => cases heq
  · next heq => exact absurd (Option.some_inj.1 heq) hb
  · rfl
  · rfl

/-- Another item is there behind a comma. -/
theorem taken_nextItem_later {bytes : List UInt8} (h : Opens bytes) (place : Position) :
    (nextItem false).taken ⟨0x2C :: bytes, place⟩ = some (true, ⟨bytes, place.after 0x2C⟩) := by
  obtain ⟨b, rest, rfl, hblank, hb⟩ := h
  unfold nextItem
  rw [taken_blanks_byte rfl]
  show (skip >>= fun _ => blanks >>= _ : Reader Bool).taken _ = _
  rw [taken_skip_bind]
  show (blanks >>= _ : Reader Bool).taken ⟨b :: rest, place.after 0x2C⟩ = _
  rw [taken_blanks_byte hblank]
  split
  · next heq => cases heq
  · next heq => exact absurd (Option.some_inj.1 heq) hb
  · rfl

/-- Items that are read back one by one are parts of an array. -/
theorem parts_items {item : Reader α} {part : α → List UInt8} {xs : List α}
    (h : ∀ x ∈ xs, item.Makes (part x) x NoNumber) (hopens : ∀ x ∈ xs, Opens (part x)) :
    Parts nextItem item [] 0x5D (Reader.items item) part xs where
  step _ _ := rfl
  ended _ _ _ := rfl
  first x hx rest place := ⟨place, taken_nextItem_first (opens_append (hopens x hx) rest) place⟩
  later x hx rest _ := ⟨_, taken_nextItem_later (opens_append (hopens x hx) rest) _⟩
  one := h
  close rest := noNumber_cons (by decide) rest

/-- A member of an object, after the quote before its name. -/
def member (value : Reader α) : Reader (String × α) := do
  let name ← string
  colon
  let a ← value
  return (name, a)

/-- A member is read back if its value is. -/
theorem makes_member {value : Reader Json} {m : String × Json}
    (h : value.Makes m.2.code m.2 NoNumber) : (member value).Makes (memberCode m) m NoNumber := by
  have hcolon : colon.Makes [0x3A] () Anything := fun _ _ _ => ⟨_, rfl⟩
  refine makes_bind (makes_string m.1) ?_ fun _ _ => trivial
  exact makes_bind hcolon (makes_map h) fun _ _ => trivial

/-- Members that are read back one by one are parts of an object. -/
theorem parts_members {value : Reader Json} {ms : List (String × Json)}
    (h : ∀ m ∈ ms, value.Makes m.2.code m.2 NoNumber) :
    Parts nextMember (member value) [0x22] 0x7D (Reader.members value) memberCode ms where
  step bound first := by
    rw [Reader.members]
    congr 1
    funext more
    cases more with
    | false => rfl
    | true =>
      unfold member
      simp only [bind_assoc, pure_bind]
  ended _ _ _ := rfl
  first _ _ _ _ := ⟨_, rfl⟩
  later _ _ _ _ := ⟨_, rfl⟩
  one m hm := makes_member (h m hm)
  close rest := noNumber_cons (by decide) rest

/-! ## Documents -/

/-- What is read back as a scalar is read back as a document. -/
theorem makes_scalar {depth : Nat} {v : Json} {bytes : List UInt8} {after : List UInt8 → Prop}
    (h : scalar?.Makes bytes (some v) after) : (verbatim depth).Makes bytes v after := by
  intro rest place hrest
  obtain ⟨place', h⟩ := h rest place hrest
  refine ⟨place', ?_⟩
  cases depth with
  | zero =>
    rw [verbatim, tree, taken_bind, h]
    rfl
  | succ depth =>
    rw [verbatim, taken_bind, h]
    rfl

/-- A string is read back. -/
theorem makes_scalar_string (s : String) :
    scalar?.Makes (Json.string s).code (some (.string s)) Anything := by
  rw [code_string]
  intro rest place _
  obtain ⟨place', h⟩ := makes_string s rest (place.after 0x22) trivial
  refine ⟨place', ?_⟩
  unfold scalar?
  rw [List.cons_append, taken_blanks_byte rfl]
  show (skip >>= fun _ => string >>= fun s => pure (some (Json.string s))).taken _ = _
  rw [taken_skip_bind]
  exact taken_bind_pure.2 ⟨s, h, rfl⟩

/-- A digit opens a value. -/
theorem opens_of_digit {b : UInt8} (h : (digit? b).isSome) : isBlank b = false ∧ b ≠ 0x5D := by
  have hle : 0x30 ≤ b := by
    unfold digit? at h
    split at h
    · next hb => exact hb.1
    · cases h
  refine ⟨?_, ?_⟩
  · by_contra hb
    simp only [isBlank, Bool.not_eq_false, Bool.or_eq_true, beq_iff_eq] at hb
    rcases hb with ((rfl | rfl) | rfl) | rfl <;> exact absurd hle (by decide)
  · rintro rfl
    exact absurd h (by decide)

/-- A number of 64 bits is read back. -/
theorem makes_scalar_number (n : UInt64) :
    scalar?.Makes (Json.number (.natural n)).code (some (.number (.natural n))) NoNumber := by
  obtain ⟨b, bytes, hbytes, hb, h⟩ := makes_number n
  have hcode : (Json.number (.natural n)).code = b :: bytes := hbytes
  rw [hcode]
  intro rest place hrest
  obtain ⟨place', h⟩ := h rest place hrest
  refine ⟨place', ?_⟩
  unfold scalar?
  rw [List.cons_append, taken_blanks_byte (opens_of_digit hb |>.1)]
  split
  · next heq => cases heq
  · next heq => cases heq; exact absurd hb (by decide)
  · next heq => cases heq; exact absurd hb (by decide)
  · next heq => cases heq; exact absurd hb (by decide)
  · next heq => cases heq; exact absurd hb (by decide)
  · next heq => cases heq; exact absurd hb (by decide)
  · next heq =>
    cases heq
    rw [if_pos hb]
    exact taken_bind_pure.2 ⟨_, h, rfl⟩

theorem taken_array_open (depth : Nat) (rest : List UInt8) (place : Position) :
    (verbatim (depth + 1)).taken ⟨0x5B :: rest, place⟩ =
      (Reader.items (verbatim depth) rest.length true >>= fun items =>
        pure (.array items)).taken ⟨rest, place.after 0x5B⟩ := rfl

theorem taken_object_open (depth : Nat) (rest : List UInt8) (place : Position) :
    (verbatim (depth + 1)).taken ⟨0x7B :: rest, place⟩ =
      (Reader.members (verbatim depth) rest.length true >>= fun members =>
        pure (.object members)).taken ⟨rest, place.after 0x7B⟩ := rfl

/-- Every part is a byte at least, and so is the closing bracket. -/
theorem length_lt_separated {β : Type} {part : β → List UInt8} {xs : List β}
    (h : ∀ x ∈ xs, part x ≠ []) (close : UInt8) (rest : List UInt8) :
    xs.length < (separated (xs.map part) ++ [close] ++ rest).length := by
  have hlater : ∀ parts : List (List UInt8), parts.length ≤ (parts.flatMap (0x2C :: ·)).length := by
    intro parts
    induction parts with
    | nil => exact Nat.le_refl _
    | cons part parts ih =>
      rw [List.flatMap_cons, List.length_append, List.length_cons, List.length_cons]
      omega
  rw [List.length_append, List.length_append, List.length_singleton]
  cases xs with
  | nil => exact Nat.lt_of_lt_of_le Nat.zero_lt_one (by omega)
  | cons x xs =>
    have hpart := List.length_pos_iff.2 (h x List.mem_cons_self)
    have hparts := hlater (xs.map part)
    rw [List.length_map] at hparts
    rw [List.map_cons, separated, List.length_append, List.length_cons]
    omega

/-- An array is read back if its items are. -/
theorem makes_array {depth : Nat} {items : List Json}
    (h : ∀ item ∈ items, (verbatim depth).Makes item.code item NoNumber)
    (hopens : ∀ item ∈ items, Opens item.code) :
    (verbatim (depth + 1)).Makes (Json.array items).code (.array items) Anything := by
  intro rest place _
  have hnonempty : ∀ item ∈ items, item.code ≠ [] := by
    intro item hitem
    obtain ⟨b, bytes, hb, _⟩ := hopens item hitem
    rw [hb]
    exact List.cons_ne_nil b bytes
  obtain ⟨place', hitems⟩ := (parts_items h hopens).makes_all
    (length_lt_separated hnonempty 0x5D rest) rest (place.after 0x5B) trivial
  refine ⟨place', ?_⟩
  rw [code_array, List.cons_append, taken_array_open]
  exact taken_bind_pure.2 ⟨items, hitems, rfl⟩

/-- An object is read back if its members are. -/
theorem makes_object {depth : Nat} {members : List (String × Json)}
    (h : ∀ m ∈ members, (verbatim depth).Makes m.2.code m.2 NoNumber) :
    (verbatim (depth + 1)).Makes (Json.object members).code (.object members) Anything := by
  intro rest place _
  have hnonempty : ∀ m ∈ members, 0x22 :: memberCode m ≠ [] := fun _ _ => List.cons_ne_nil _ _
  obtain ⟨place', hmembers⟩ := (parts_members h).makes_all
    (length_lt_separated hnonempty 0x7D rest) rest (place.after 0x7B) trivial
  refine ⟨place', ?_⟩
  rw [code_object, List.cons_append, taken_object_open]
  exact taken_bind_pure.2 ⟨members, hmembers, rfl⟩

end Reader

/-- A document that nests at most `depth` brackets, has no numbers but natural ones, and repeats no
key. -/
inductive Plain : Nat → Json → Prop where
  | null {depth : Nat} : Plain depth .null
  | bool {depth : Nat} (b : Bool) : Plain depth (.bool b)
  | natural {depth : Nat} (n : UInt64) : Plain depth (.number (.natural n))
  | string {depth : Nat} (s : String) : Plain depth (.string s)
  | array {depth : Nat} {items : List Json} (h : ∀ item ∈ items, Plain depth item) :
      Plain (depth + 1) (.array items)
  | object {depth : Nat} {members : List (String × Json)} (hnames : (members.map Prod.fst).Nodup)
      (h : ∀ m ∈ members, Plain depth m.2) : Plain (depth + 1) (.object members)

theorem unrepeatedItems_iff (items : List Json) :
    UnrepeatedItems items ↔ ∀ item ∈ items, item.Unrepeated := by
  induction items with
  | nil => simp [UnrepeatedItems]
  | cons item items ih => rw [UnrepeatedItems, ih, List.forall_mem_cons]

theorem unrepeatedMembers_iff (members : List (String × Json)) :
    UnrepeatedMembers members ↔ ∀ m ∈ members, m.2.Unrepeated := by
  induction members with
  | nil => simp [UnrepeatedMembers]
  | cons m members ih => rw [UnrepeatedMembers, ih, List.forall_mem_cons]

/-- Plain documents repeat no name. -/
theorem unrepeated_of_plain {depth : Nat} {v : Json} (h : v.Plain depth) : v.Unrepeated := by
  induction h with
  | null | bool | natural | string => trivial
  | array _ ih => exact (unrepeatedItems_iff _).2 ih
  | object hnames _ ih => exact ⟨hnames, (unrepeatedMembers_iff _).2 ih⟩

/-- What is written of a plain document opens a value. -/
theorem opens_code {depth : Nat} {v : Json} (h : v.Plain depth) : Reader.Opens v.code := by
  cases h with
  | null => exact ⟨0x6E, _, bytes_ofList ['n', 'u', 'l', 'l'], by decide⟩
  | bool b =>
    cases b with
    | false => exact ⟨0x66, _, bytes_ofList ['f', 'a', 'l', 's', 'e'], by decide⟩
    | true => exact ⟨0x74, _, bytes_ofList ['t', 'r', 'u', 'e'], by decide⟩
  | natural n =>
    obtain ⟨b, bytes, hbytes, hb, _⟩ := Reader.makes_number n
    exact ⟨b, bytes, hbytes, Reader.opens_of_digit hb⟩
  | string s => exact ⟨0x22, _, code_string s, by decide⟩
  | array _ => exact ⟨0x5B, _, code_array _, by decide⟩
  | object _ _ => exact ⟨0x7B, _, code_object _, by decide⟩

/-- What is written of a document is read as the document. -/
theorem makes_verbatim {depth : Nat} {v : Json} (h : v.Plain depth) :
    (Reader.verbatim depth).Makes v.code v Reader.NoNumber := by
  induction h with
  | null =>
    have hcode : Json.null.code = [0x6E, 0x75, 0x6C, 0x6C] := bytes_ofList ['n', 'u', 'l', 'l']
    rw [hcode]
    exact Reader.makes_scalar fun _ _ _ => ⟨_, rfl⟩
  | bool b =>
    cases b with
    | false =>
      have hcode : (Json.bool false).code = [0x66, 0x61, 0x6C, 0x73, 0x65] :=
        bytes_ofList ['f', 'a', 'l', 's', 'e']
      rw [hcode]
      exact Reader.makes_scalar fun _ _ _ => ⟨_, rfl⟩
    | true =>
      have hcode : (Json.bool true).code = [0x74, 0x72, 0x75, 0x65] :=
        bytes_ofList ['t', 'r', 'u', 'e']
      rw [hcode]
      exact Reader.makes_scalar fun _ _ _ => ⟨_, rfl⟩
  | natural n => exact Reader.makes_scalar (Reader.makes_scalar_number n)
  | string s => exact Reader.makes_scalar (Reader.makes_of_anything (Reader.makes_scalar_string s))
  | array h ih =>
    have hmakes := Reader.makes_array ih fun item hitem => opens_code (h item hitem)
    exact Reader.makes_of_anything hmakes
  | object _ _ ih => exact Reader.makes_of_anything (Reader.makes_object ih)

/-- The text that is written of a document spells it, its members sorted. -/
theorem spells_text {depth : Nat} {v : Json} (h : v.Plain depth)
    (hdepth : depth ≤ Reader.deepest) : Spells v.text v.sorted := by
  obtain ⟨place, htaken⟩ := makes_verbatim h [] ⟨1, 0⟩ nofun
  rw [List.append_nil] at htaken
  have hread := Reader.extends_verbatim hdepth _ _ _ htaken
  constructor
  · rw [ok_iff_toOption]
    unfold Decoder.fromBytes
    rw [Reader.toOption_whole]
    show ((Reader.tree Reader.deepest).taken _).bind _ = _
    rw [Reader.tree_eq, Reader.taken_map]
    show (((Reader.verbatim Reader.deepest).taken ⟨v.code, ⟨1, 0⟩⟩).map _).bind _ = _
    rw [hread]
    rfl
  · refine ⟨v, ?_, unrepeated_of_plain h⟩
    rw [ok_iff_toOption, Reader.toOption_whole]
    show ((Reader.verbatim Reader.deepest).taken ⟨v.code, ⟨1, 0⟩⟩).bind _ = _
    rw [hread]
    rfl

end MessageFlow.Json
