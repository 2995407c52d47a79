import MessageFlow.Json.Writer
import MessageFlow.Proofs.Json.Taken

/-!
# Strings and numbers that were written

What is written of a string is read back as the string, whatever characters it has
(`makes_string`), and what is written of a natural number of 64 bits as the number (`makes_number`).
A reader makes a value of bytes wherever they stand and whatever follows them (`Reader.Makes`); only
a number must not be followed by what would go on with it.

A string is read byte by byte, so what is written of one character is first shown to stand for the
bytes of the character (`Reader.passes_escaped`), escaped or not; the string is the induction over
its characters.
-/

namespace MessageFlow.Json

/-! ## The bytes of texts -/

theorem toList_loop (bytes : ByteArray) (i : Nat) (acc : List UInt8) :
    ByteArray.toList.loop bytes i acc = acc.reverse ++ bytes.data.toList.drop i := by
  fun_induction ByteArray.toList.loop bytes i acc with
  | case1 i acc h ih =>
    have hi : i < bytes.data.toList.length := by simpa using h
    rw [ih, List.drop_eq_getElem_cons hi]
    simp [ByteArray.get!, h]
  | case2 i acc h =>
    rw [List.drop_eq_nil_of_le (by simpa using Nat.le_of_not_lt h)]
    simp

/-- The bytes of an array of bytes, as a list. -/
theorem toList_eq (bytes : ByteArray) : bytes.toList = bytes.data.toList := by
  simp [ByteArray.toList, toList_loop]

/-- The bytes of two texts, one after the other. -/
theorem bytes_append (s t : String) :
    (s ++ t).toUTF8.toList = s.toUTF8.toList ++ t.toUTF8.toList := by
  simp [toList_eq]

/-- The bytes of a text are those of its characters. -/
theorem bytes_ofList (cs : List Char) :
    (String.ofList cs).toUTF8.toList = cs.flatMap String.utf8EncodeChar := by
  rw [String.toUTF8_eq_toByteArray, String.toByteArray_ofList, toList_eq]
  exact List.toList_data_toByteArray

theorem bytes_eq (s : String) : s.toUTF8.toList = s.toList.flatMap String.utf8EncodeChar := by
  rw [← bytes_ofList, String.ofList_toList]

/-- The bytes of a text are decoded to it. -/
theorem decoded?_bytes (s : String) : Reader.decoded? s.toUTF8.toList = some s := by
  unfold Reader.decoded? String.fromUTF8?
  rw [toList_eq]
  exact dif_pos s.isValidUTF8

/-- A character is a byte at least. -/
theorem length_le_bytes (cs : List Char) :
    cs.length ≤ (cs.flatMap String.utf8EncodeChar).length := by
  induction cs with
  | nil => exact Nat.le_refl _
  | cons c cs ih =>
    have hc := c.utf8Size_pos
    rw [List.flatMap_cons, List.length_append, String.length_utf8EncodeChar, List.length_cons]
    omega

namespace Reader

variable {α β : Type}

/-! ## What is made of bytes -/

/-- Wherever the bytes stand, and whatever follows them that may follow, a reader makes `a` of them
and stops behind them. -/
def Makes (r : Reader α) (bytes : List UInt8) (a : α) (after : List UInt8 → Prop) : Prop :=
  ∀ rest place, after rest →
    ∃ place', r.taken ⟨bytes ++ rest, place⟩ = some (a, ⟨rest, place'⟩)

/-- Anything may follow. -/
def Anything (_ : List UInt8) : Prop := True

/-- Nothing follows that would go on with a number. -/
def NoNumber (rest : List UInt8) : Prop :=
  ∀ b, rest.head? = some b → digit? b = none ∧ b ≠ 0x2E ∧ b ≠ 0x65 ∧ b ≠ 0x45

section Makes

variable {r : Reader α} {bytes : List UInt8} {a : α} {after : List UInt8 → Prop}

/-- What is read back whatever follows is read back before anything in particular. -/
theorem makes_of_anything (h : r.Makes bytes a Anything) : r.Makes bytes a after :=
  fun rest place _ => h rest place trivial

/-- Two readers read back what is written one after the other. -/
theorem makes_bind {f : α → Reader β} {bytes' : List UInt8} {b : β} {after' : List UInt8 → Prop}
    (h : r.Makes bytes a after) (hf : (f a).Makes bytes' b after')
    (hafter : ∀ rest, after' rest → after (bytes' ++ rest)) :
    (r >>= f).Makes (bytes ++ bytes') b after' := by
  intro rest place hrest
  obtain ⟨place', h⟩ := h (bytes' ++ rest) place (hafter rest hrest)
  rw [List.append_assoc, taken_bind, h]
  exact hf rest place' hrest

/-- A function of what is read back. -/
theorem makes_map {f : α → β} (h : r.Makes bytes a after) :
    (r >>= fun a => pure (f a)).Makes bytes (f a) after := by
  intro rest place hrest
  obtain ⟨place', h⟩ := h rest place hrest
  exact ⟨place', taken_bind_pure.2 ⟨a, h, rfl⟩⟩

end Makes

/-! ## Strings -/

/-- A byte that stands for itself in a string. -/
def IsOrdinary (b : UInt8) : Prop :=
  b ≠ 0x22 ∧ b ≠ 0x5C ∧ ¬ b < 0x20

/-- An ordinary byte of a string stands for itself. -/
theorem taken_stringTail_ordinary {b : UInt8} (h : IsOrdinary b) (bound : Nat)
    (acc bytes : List UInt8) (place : Position) :
    (stringTail (bound + 1) acc).taken ⟨b :: bytes, place⟩ =
      (stringTail bound (b :: acc)).taken ⟨bytes, place.after b⟩ := by
  rw [stringTail, taken_peekInString_bind rfl]
  split
  · exact absurd rfl h.1
  · exact absurd rfl h.2.1
  · rw [taken_skip_bind, if_neg h.2.2]
    rfl

/-- An escape in a string stands for the bytes that it escapes. -/
theorem taken_stringTail_escape {code bytes : List UInt8} (h : escape.Makes code bytes Anything)
    (bound : Nat) (acc rest : List UInt8) (place : Position) :
    ∃ place', (stringTail (bound + 1) acc).taken ⟨0x5C :: code ++ rest, place⟩ =
      (stringTail bound (bytes.reverse ++ acc)).taken ⟨rest, place'⟩ := by
  obtain ⟨place', h⟩ := h rest (place.after 0x5C) trivial
  refine ⟨place', ?_⟩
  rw [stringTail, taken_peekInString_bind rfl]
  show (skip >>= fun _ => escape >>= fun bytes =>
    stringTail bound (bytes.reverse ++ acc)).taken _ = _
  rw [taken_skip_bind, taken_bind]
  show (escape.taken ⟨code ++ rest, place.after 0x5C⟩).bind _ = _
  rw [h]
  rfl

/-- A quote ends the string. -/
theorem taken_stringTail_end {s : String} {bytes : List UInt8} (h : decoded? bytes = some s)
    (bound : Nat) (rest : List UInt8) (place : Position) :
    (stringTail (bound + 1) bytes.reverse).taken ⟨0x22 :: rest, place⟩ =
      some (s, ⟨rest, place.after 0x22⟩) := by
  rw [stringTail, taken_peekInString_bind rfl, List.reverse_reverse, h]
  rfl

/-- In the rest of a string, the code stands for the bytes. -/
def Passes (code bytes : List UInt8) : Prop :=
  ∀ bound acc rest place, code.length ≤ bound → ∃ bound' place', bound ≤ bound' + code.length ∧
    (stringTail bound acc).taken ⟨code ++ rest, place⟩ =
      (stringTail bound' (bytes.reverse ++ acc)).taken ⟨rest, place'⟩

theorem passes_nil : Passes [] [] :=
  fun bound _ _ place _ => ⟨bound, place, Nat.le_refl _, rfl⟩

/-- Two parts of a string stand for their bytes, one after the other. -/
theorem passes_append {code code' bytes bytes' : List UInt8} (h : Passes code bytes)
    (h' : Passes code' bytes') : Passes (code ++ code') (bytes ++ bytes') := by
  intro bound acc rest place hbound
  rw [List.length_append] at hbound
  obtain ⟨bound₁, place₁, hbound₁, h₁⟩ := h bound acc (code' ++ rest) place (by omega)
  obtain ⟨bound₂, place₂, hbound₂, h₂⟩ :=
    h' bound₁ (bytes.reverse ++ acc) rest place₁ (by omega)
  refine ⟨bound₂, place₂, by rw [List.length_append]; omega, ?_⟩
  rw [List.append_assoc, h₁, h₂, List.reverse_append, List.append_assoc]

/-- The parts of a string stand for their bytes if each of them does. -/
theorem passes_flatMap {γ : Type} {code bytes : γ → List UInt8} (xs : List γ)
    (h : ∀ x ∈ xs, Passes (code x) (bytes x)) : Passes (xs.flatMap code) (xs.flatMap bytes) := by
  induction xs with
  | nil => exact passes_nil
  | cons x xs ih =>
    rw [List.flatMap_cons, List.flatMap_cons]
    exact passes_append (h x List.mem_cons_self) (ih fun y hy => h y (List.mem_cons_of_mem x hy))

/-- Ordinary bytes stand for themselves. -/
theorem passes_ordinary {bytes : List UInt8} (h : ∀ b ∈ bytes, IsOrdinary b) :
    Passes bytes bytes := by
  induction bytes with
  | nil => exact passes_nil
  | cons b bytes ih =>
    have hbyte : Passes [b] [b] := by
      intro bound acc rest place hbound
      obtain ⟨bound, rfl⟩ : ∃ n, bound = n + 1 := ⟨bound - 1, by simp at hbound; omega⟩
      have hb := taken_stringTail_ordinary (h b List.mem_cons_self) bound acc rest place
      exact ⟨bound, _, Nat.le_refl _, hb⟩
    exact passes_append hbyte (ih fun b' hb' => h b' (List.mem_cons_of_mem b hb'))

/-- An escape stands for what it escapes. -/
theorem passes_escape {code bytes : List UInt8} (h : escape.Makes code bytes Anything) :
    Passes (0x5C :: code) bytes := by
  intro bound acc rest place hbound
  rw [List.length_cons] at hbound
  obtain ⟨bound, rfl⟩ : ∃ n, bound = n + 1 := ⟨bound - 1, by omega⟩
  obtain ⟨place', h⟩ := taken_stringTail_escape h bound acc rest place
  exact ⟨bound, place', by rw [List.length_cons]; omega, h⟩

/-! ### The escapes of control characters -/

/-- A hexadecimal digit is one byte. -/
theorem hexDigit?_digitChar {n : Nat} (h : n < 16) :
    ∃ b, String.utf8EncodeChar (Nat.digitChar n) = [b] ∧ hexDigit? b = some n := by
  have hbyte : ∀ n < 16, (String.utf8EncodeChar (Nat.digitChar n)).map hexDigit? = [some n] := by
    decide
  exact List.map_eq_singleton_iff.1 (hbyte n h)

/-- Four hexadecimal digits are read back as their number. -/
theorem makes_hexEscape {a b c d : UInt8} {i j k l : Nat} (ha : hexDigit? a = some i)
    (hb : hexDigit? b = some j) (hc : hexDigit? c = some k) (hd : hexDigit? d = some l) :
    hexEscape.Makes [a, b, c, d] (((i * 16 + j) * 16 + k) * 16 + l) Anything := by
  intro rest place _
  refine ⟨(((place.after a).after b).after c).after d, ?_⟩
  unfold hexEscape
  rw [taken_get_bind]
  show (skip >>= fun _ => skip >>= fun _ => skip >>= fun _ => skip >>= fun _ => _ :
    Reader Nat).taken _ = _
  rw [taken_skip_bind, taken_skip_bind, taken_skip_bind, taken_skip_bind, ha, hb, hc, hd]
  rfl

/-- A code unit below the surrogates is read back as its character. -/
theorem makes_unicodeEscape {code : List UInt8} {c : Char} (hc : c.toNat < 0xD800)
    (h : hexEscape.Makes code c.toNat Anything) :
    unicodeEscape.Makes code (String.utf8EncodeChar c) Anything := by
  have hbytes : encoded c.toNat = String.utf8EncodeChar c := by
    unfold encoded
    rw [Char.ofNat_toNat, String.singleton_eq_ofList, bytes_ofList, List.flatMap_singleton]
  intro rest place hrest
  obtain ⟨place', h⟩ := h rest place hrest
  refine ⟨place', ?_⟩
  unfold unicodeEscape
  rw [taken_bind, h, Option.bind_some, if_neg (by omega), if_pos (.inl hc), hbytes]
  rfl

/-- A control character is read back from its escape. -/
theorem makes_escape_control {c : Char} (h : c.toNat < 0x20) :
    escape.Makes (['u', '0', '0', Nat.digitChar (c.toNat / 16),
      Nat.digitChar (c.toNat % 16)].flatMap String.utf8EncodeChar) (String.utf8EncodeChar c)
      Anything := by
  obtain ⟨x, hx, hx'⟩ := hexDigit?_digitChar (n := c.toNat / 16) (by omega)
  obtain ⟨y, hy, hy'⟩ := hexDigit?_digitChar (n := c.toNat % 16) (by omega)
  have hcode := makes_hexEscape (a := 0x30) (b := 0x30) (i := 0) (j := 0) rfl rfl hx' hy'
  rw [show ((0 * 16 + 0) * 16 + c.toNat / 16) * 16 + c.toNat % 16 = c.toNat by omega] at hcode
  have hunicode := makes_unicodeEscape (by omega) hcode
  simp only [List.flatMap_cons, List.flatMap_nil, hx, hy]
  exact fun rest place hrest => hunicode rest _ hrest

/-! ### The characters of a string -/

/-- Every byte of a character that is written as it is stands for itself: it is the character, or
one of several bytes, none of which is ASCII. -/
theorem isOrdinary_of_mem {c : Char} (hquote : c ≠ '"') (hslash : c ≠ '\\')
    (hcontrol : ¬ c.toNat < 0x20) {b : UInt8} (h : b ∈ String.utf8EncodeChar c) : IsOrdinary b := by
  have hne : ∀ d : Char, c ≠ d → c.toNat ≠ d.toNat := fun d h heq => h (Char.toNat_inj.1 heq)
  have hquote := hne _ hquote
  have hslash := hne _ hslash
  have hvalue : c.val.toNat = c.toNat := rfl
  simp only [Char.reduceToNat] at hquote hslash
  have hbyte : (b.toNat = c.toNat ∧ c.toNat ≤ 0x7f) ∨ 0x80 ≤ b.toNat := by
    unfold String.utf8EncodeChar at h
    dsimp only at h
    repeat' split at h
    all_goals
      simp only [List.mem_cons, List.not_mem_nil, or_false] at h
      rcases h with rfl | rfl | rfl | rfl <;> simp <;> omega
  unfold IsOrdinary
  rw [UInt8.lt_iff_toNat_lt, Ne, Ne, ← UInt8.toNat_inj, ← UInt8.toNat_inj]
  simp
  omega

/-- What is written of a character stands for its bytes. -/
theorem passes_escaped (c : Char) :
    Passes ((escaped c).flatMap String.utf8EncodeChar) (String.utf8EncodeChar c) := by
  unfold escaped
  iterate 7
    split
    · next h =>
      subst h
      exact passes_escape fun _ _ _ => ⟨_, rfl⟩
  split
  · next h => exact passes_escape (makes_escape_control h)
  · next hquote hslash _ _ _ _ _ hcontrol =>
    rw [List.flatMap_singleton]
    exact passes_ordinary fun b hb => isOrdinary_of_mem hquote hslash hcontrol hb

/-- A string is read back, whatever characters it has. -/
theorem makes_string (s : String) :
    string.Makes ((s.toList.flatMap escaped).flatMap String.utf8EncodeChar ++ [0x22]) s
      Anything := by
  intro rest place _
  have hpasses : Passes ((s.toList.flatMap escaped).flatMap String.utf8EncodeChar)
      (s.toList.flatMap String.utf8EncodeChar) := by
    rw [List.flatMap_assoc]
    exact passes_flatMap s.toList fun c _ => passes_escaped c
  have hdecoded : decoded? (s.toList.flatMap String.utf8EncodeChar) = some s := by
    rw [← bytes_ofList, String.ofList_toList]
    exact decoded?_bytes s
  generalize (s.toList.flatMap escaped).flatMap String.utf8EncodeChar = code at hpasses ⊢
  unfold string
  rw [taken_get_bind, List.append_assoc]
  -- The loop has a turn for each byte that remains and one more, and a turn takes a byte.
  obtain ⟨bound, place', hbound, h⟩ :=
    hpasses ((code ++ ([0x22] ++ rest)).length + 1) [] ([0x22] ++ rest) place
      (by rw [List.length_append]; omega)
  obtain ⟨bound, rfl⟩ : ∃ n, bound = n + 1 :=
    ⟨bound - 1, by rw [List.length_append, List.length_append] at hbound; omega⟩
  rw [List.append_nil] at h
  exact ⟨place'.after 0x22, h.trans (taken_stringTail_end hdecoded bound rest place')⟩

/-- The bytes of a quoted text: its characters escaped, between quotes. -/
theorem bytes_quoted (s : String) : (quoted s).toUTF8.toList =
    0x22 :: ((s.toList.flatMap escaped).flatMap String.utf8EncodeChar ++ [0x22]) := by
  have hquote : ("\"" : String).toUTF8.toList = [0x22] := bytes_ofList ['"']
  unfold quoted
  rw [bytes_append, bytes_append, hquote, bytes_ofList]
  rfl

/-! ## Numbers -/

theorem isDigit_iff {c : Char} : c.isDigit ↔ 0x30 ≤ c.toNat ∧ c.toNat ≤ 0x39 := by
  simp only [Char.isDigit, Bool.and_eq_true, decide_eq_true_eq, UInt32.le_iff_toNat_le]
  exact Iff.rfl

/-- A decimal digit is one byte. -/
theorem digit?_of_isDigit {c : Char} (h : c.isDigit) :
    ∃ b, String.utf8EncodeChar c = [b] ∧ digit? b = some (c.toNat - '0'.toNat) := by
  have hbyte : ∀ n < 10,
      (String.utf8EncodeChar (Char.ofNat (0x30 + n))).map digit? = [some n] := by
    decide
  have hc := isDigit_iff.1 h
  have hdigit := hbyte (c.toNat - 0x30) (by omega)
  rw [show 0x30 + (c.toNat - 0x30) = c.toNat by omega, Char.ofNat_toNat] at hdigit
  exact List.map_eq_singleton_iff.1 hdigit

/-- More digits make no smaller number. -/
theorem le_ofDigitChars (cs : List Char) (value : Nat) : value ≤ Nat.ofDigitChars 10 cs value := by
  induction cs generalizing value with
  | nil => simp
  | cons c cs ih =>
    rw [Nat.ofDigitChars_cons]
    exact Nat.le_trans (by omega) (ih _)

/-- No zero stands before another digit. -/
theorem head_toDigits {n : Nat} (h : n ≠ 0) : (Nat.toDigits 10 n).head? ≠ some '0' := by
  induction n using Nat.strongRecOn with
  | ind n ih =>
    by_cases hn : n < 10
    · rw [Nat.toDigits_of_lt_base hn, List.head?_cons, Ne, Option.some_inj]
      have hdigit : ∀ d < 10, d ≠ 0 → Nat.digitChar d ≠ '0' := by decide
      exact hdigit n hn h
    · have hhead := ih (n / 10) (by omega) (by omega)
      rw [Nat.toDigits_of_base_le (by decide) (Nat.not_lt.1 hn), List.head?_append]
      cases hcs : Nat.toDigits 10 (n / 10) with
      | nil => exact absurd hcs Nat.toDigits_ne_nil
      | cons c cs =>
        rw [hcs] at hhead
        exact hhead

/-- Where no number goes on there is no digit. -/
theorem peekDigit_none {rest : List UInt8} (h : NoNumber rest) :
    rest.head?.bind digit? = none := by
  cases hrest : rest.head? with
  | none => rfl
  | some b => exact (h b hrest).1

/-- A digit is taken, unless the number grows too big by it. -/
theorem taken_takeDigits_digit {limit bound value k : Nat} {c : Cursor}
    (h : c.rest.head?.bind digit? = some k) (hfits : ¬ limit ≤ value * 10 + k) :
    (takeDigits limit (bound + 1) value).taken c =
      ((takeDigits limit bound (value * 10 + k)).taken c.advance).map fun ended =>
        ((ended.1.1, ended.1.2 + 1), ended.2) := by
  rw [takeDigits, taken_peekDigit_bind, h]
  dsimp only
  rw [if_neg hfits, taken_skip_bind, bind_pure_comp, taken_map]

/-- Digits are taken up to the end of the number they spell, if the number is below the limit. -/
theorem taken_takeDigits_all {limit : Nat} {cs : List Char} (hcs : ∀ c ∈ cs, c.isDigit)
    {rest : List UInt8} (hrest : NoNumber rest) (bound value : Nat) (hbound : cs.length ≤ bound)
    (hvalue : Nat.ofDigitChars 10 cs value < limit) (place : Position) :
    ∃ place', (takeDigits limit bound value).taken
        ⟨cs.flatMap String.utf8EncodeChar ++ rest, place⟩ =
      some ((Nat.ofDigitChars 10 cs value, cs.length), ⟨rest, place'⟩) := by
  induction cs generalizing bound value place with
  | nil =>
    refine ⟨place, ?_⟩
    cases bound with
    | zero => simp [takeDigits]
    | succ bound =>
      rw [takeDigits, taken_peekDigit_bind]
      simp [peekDigit_none hrest]
  | cons c cs ih =>
    obtain ⟨bound, rfl⟩ : ∃ n, bound = n + 1 := ⟨bound - 1, by simp at hbound; omega⟩
    obtain ⟨b, hb, hdigit⟩ := digit?_of_isDigit (hcs c List.mem_cons_self)
    rw [Nat.ofDigitChars_cons, Nat.mul_comm] at hvalue ⊢
    -- Further digits only make the number greater, so it stays below the limit all the way.
    have hfits : ¬ limit ≤ value * 10 + (c.toNat - '0'.toNat) :=
      Nat.not_le.2 (Nat.lt_of_le_of_lt (le_ofDigitChars cs _) hvalue)
    obtain ⟨place', ih⟩ := ih (fun d hd => hcs d (List.mem_cons_of_mem c hd)) bound
      (value * 10 + (c.toNat - '0'.toNat)) (Nat.le_of_succ_le_succ hbound) hvalue (place.after b)
    refine ⟨place', ?_⟩
    rw [List.flatMap_cons, hb]
    have hnext : (Cursor.mk (b :: (cs.flatMap String.utf8EncodeChar ++ rest)) place).rest.head?.bind
        digit? = some (c.toNat - '0'.toNat) := hdigit
    refine (taken_takeDigits_digit hnext hfits).trans ?_
    show ((takeDigits limit bound _).taken
      ⟨cs.flatMap String.utf8EncodeChar ++ rest, place.after b⟩).map _ = _
    rw [ih]
    rfl

/-- Where no number goes on an integer ends. -/
theorem taken_afterInteger_end {rest : List UInt8} (h : NoNumber rest) (digits : Nat)
    (place : Position) :
    (afterInteger true digits).taken ⟨rest, place⟩ =
      some (.natural (UInt64.ofNat digits), ⟨rest, place⟩) := by
  have hpoint : (rest.head? == some 0x2E) = false := by
    rw [beq_eq_false_iff_ne]
    exact fun heq => (h _ heq).2.1 rfl
  have hexponent : (rest.head? == some 0x65 || rest.head? == some 0x45) = false := by
    rw [Bool.or_eq_false_iff, beq_eq_false_iff_ne, beq_eq_false_iff_ne]
    exact ⟨fun heq => (h _ heq).2.2.1 rfl, fun heq => (h _ heq).2.2.2 rfl⟩
  unfold afterInteger
  rw [taken_peek_bind]
  dsimp only
  rw [hpoint, if_neg Bool.false_ne_true, taken_atExponent_bind]
  dsimp only
  rw [hexponent, if_neg Bool.false_ne_true, if_pos rfl, taken_pure]

/-- Zero is read back. -/
theorem makes_zero : (number true).Makes [0x30] (.natural 0) NoNumber := by
  intro rest place hrest
  refine ⟨place.after 0x30, ?_⟩
  unfold number
  rw [taken_next_bind]
  show (peekDigit >>= fun digit => _ : Reader Number).taken ⟨rest, place.after 0x30⟩ = _
  rw [taken_peekDigit_bind, peekDigit_none hrest]
  exact taken_afterInteger_end hrest 0 _

/-- Where digits end that fit 64 bits, the number does. -/
theorem taken_number_digits {c d : Cursor} {b : UInt8} {k value count : Nat}
    (h : c.rest.head? = some b) (hb : digit? b = some (k + 1))
    (htake : (takeDigits UInt64.size c.advance.rest.length (k + 1)).taken c.advance =
      some ((value, count), d)) (hd : NoNumber d.rest) :
    (number true).taken c = some (.natural (UInt64.ofNat value), d) := by
  unfold number
  rw [taken_next_bind, h]
  dsimp only
  split
  · next hdigit => rw [hb] at hdigit; cases hdigit
  · next hdigit => rw [hb] at hdigit; cases hdigit
  · next k' _ hdigit =>
    obtain rfl : k + 1 = k' := Option.some_inj.1 (hb.symm.trans hdigit)
    rw [taken_remaining_bind, taken_bind, htake, Option.bind_some]
    dsimp only
    rw [taken_peekDigit_bind, peekDigit_none hd]
    exact taken_afterInteger_end hd value d.place

/-- Digits that begin with another one than zero are read as the number they spell. -/
theorem makes_digits {b : UInt8} {k : Nat} {cs : List Char} (hb : digit? b = some (k + 1))
    (hcs : ∀ c ∈ cs, c.isDigit) (hvalue : Nat.ofDigitChars 10 cs (k + 1) < UInt64.size) :
    (number true).Makes (b :: cs.flatMap String.utf8EncodeChar)
      (.natural (UInt64.ofNat (Nat.ofDigitChars 10 cs (k + 1)))) NoNumber := by
  intro rest place hrest
  have hbound : cs.length ≤ (cs.flatMap String.utf8EncodeChar ++ rest).length := by
    rw [List.length_append]
    exact Nat.le_add_right_of_le (length_le_bytes cs)
  obtain ⟨place', htake⟩ := taken_takeDigits_all hcs hrest _ (k + 1) hbound hvalue (place.after b)
  exact ⟨place', taken_number_digits rfl hb htake hrest⟩

/-- The digits of a natural number of 64 bits, the first of them apart, and what is made of them. -/
theorem makes_number (n : UInt64) :
    ∃ b bytes, (toString n.toNat).toUTF8.toList = b :: bytes ∧ (digit? b).isSome ∧
      (number true).Makes (b :: bytes) (.natural n) NoNumber := by
  rw [Nat.toString_eq_ofList_toDigits, bytes_ofList]
  by_cases hn : n.toNat = 0
  · obtain rfl : n = 0 := UInt64.toNat_inj.1 hn
    exact ⟨0x30, [], rfl, rfl, makes_zero⟩
  · have hdigits : ∀ c ∈ Nat.toDigits 10 n.toNat, c.isDigit := fun c hc =>
      Nat.isDigit_of_mem_toDigits (by decide) (by decide) hc
    have hvalue : Nat.ofDigitChars 10 (Nat.toDigits 10 n.toNat) 0 = n.toNat :=
      Nat.ofDigitChars_ten_toDigits
    have hhead := head_toDigits hn
    cases hcs : Nat.toDigits 10 n.toNat with
    | nil => exact absurd hcs Nat.toDigits_ne_nil
    | cons c cs =>
      rw [hcs] at hdigits hvalue hhead
      obtain ⟨b, hb, hdigit⟩ := digit?_of_isDigit (hdigits c List.mem_cons_self)
      obtain ⟨d, hd⟩ : ∃ d, c.toNat - '0'.toNat = d + 1 := by
        have hle := (isDigit_iff.1 (hdigits c List.mem_cons_self)).1
        have hne : c.toNat ≠ '0'.toNat := fun heq => hhead (congrArg some (Char.toNat_inj.1 heq))
        exact ⟨c.toNat - '0'.toNat - 1, by simp only [Char.reduceToNat] at hne ⊢; omega⟩
      rw [Nat.ofDigitChars_cons, Nat.mul_zero, Nat.zero_add, hd] at hvalue
      rw [hd] at hdigit
      have hmakes := makes_digits hdigit
        (fun c' hc' => hdigits c' (List.mem_cons_of_mem c hc')) (by rw [hvalue]; exact n.toNat_lt)
      rw [hvalue, UInt64.ofNat_toNat] at hmakes
      exact ⟨b, cs.flatMap String.utf8EncodeChar, by rw [List.flatMap_cons, hb]; rfl,
        by rw [hdigit]; rfl, hmakes⟩

end Reader

end MessageFlow.Json
