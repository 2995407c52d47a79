import MessageFlow.Proofs.Json.Taken

/-!
# Skipping numbers and strings

A number or a string that nobody wants is skipped by readers of their own, which check less and keep
nothing. Whatever is read as a number or a string they skip, to the same cursor (`taken_number`,
`taken_string`). The loops of the two sides do not count alike: the two halves of a surrogate pair
are one escape to the side that reads and two to the side that skips. So the bounds of the skipping
loops are told from the bytes that remain.
-/

namespace MessageFlow.Json.Reader

/-! ## Numbers -/

/-- Consumes the digits that stand here, and counts them. -/
def digitRun : Reader Nat := do
  skipDigits (← remaining)

/-- Where there is no digit none is skipped. -/
theorem taken_skipDigits_end {c : Cursor} (h : c.rest.head?.bind digit? = none) (bound : Nat) :
    (skipDigits bound).taken c = some (0, c) := by
  cases bound with
  | zero => rfl
  | succ bound => rw [skipDigits, taken_peekDigit_bind, h, taken_pure]

/-- A digit is skipped, and then those behind it. -/
theorem taken_skipDigits_digit {c : Cursor} {k : Nat} (h : c.rest.head?.bind digit? = some k)
    (bound : Nat) :
    (skipDigits (bound + 1)).taken c =
      ((skipDigits bound).taken c.advance).map fun e => (e.1 + 1, e.2) := by
  rw [skipDigits, taken_peekDigit_bind, h]
  show (skip >>= fun _ => skipDigits bound >>= fun n => pure (n + 1)).taken c = _
  rw [taken_skip_bind, bind_pure_comp, taken_map]

/-- A digit is a byte. -/
theorem length_of_digit {c : Cursor} {k : Nat} (h : c.rest.head?.bind digit? = some k) :
    c.rest.length = c.advance.rest.length + 1 := by
  obtain ⟨b, hb, _⟩ := Option.bind_eq_some_iff.1 h
  exact Cursor.length_advance hb

theorem taken_digitRun_end {c : Cursor} (h : c.rest.head?.bind digit? = none) :
    digitRun.taken c = some (0, c) :=
  taken_skipDigits_end h _

/-- A digit belongs to a run together with the run behind it. -/
theorem taken_digitRun_digit {c : Cursor} {k : Nat} (h : c.rest.head?.bind digit? = some k) :
    digitRun.taken c = (digitRun.taken c.advance).map fun e => (e.1 + 1, e.2) := by
  show (skipDigits c.rest.length).taken c = _
  rw [length_of_digit h, taken_skipDigits_digit h]
  rfl

/-- The digits that are taken are the first ones of those that stand here. -/
theorem taken_takeDigits {limit bound value v k : Nat} {c d : Cursor}
    (h : (takeDigits limit bound value).taken c = some ((v, k), d)) :
    digitRun.taken c = (digitRun.taken d).map fun e => (k + e.1, e.2) := by
  induction bound generalizing value v k c with
  | zero =>
    cases h
    simp
  | succ bound ih =>
    rw [takeDigits, taken_peekDigit_bind] at h
    dsimp only at h
    split at h
    · cases h
      simp
    · next digit hdigit =>
      rw [taken_ite] at h
      split at h
      · cases h
        simp
      · rw [taken_skip_bind] at h
        obtain ⟨⟨v', k'⟩, htail, hv⟩ := taken_bind_pure.1 h
        cases hv
        rw [taken_digitRun_digit hdigit, ih htail, Option.map_map]
        congr 1
        funext e
        simp only [Function.comp_apply, Prod.mk.injEq, and_true]
        omega

/-- The digits of an exponent are a run, whatever their value is. -/
theorem taken_exponentDigits {positive upward isZero : Bool} {bound value : Nat} {c d : Cursor}
    {v : Nat ⊕ Number} (hbound : c.rest.length ≤ bound)
    (h : (exponentDigits positive upward isZero bound value).taken c = some (v, d)) :
    ∃ n, digitRun.taken c = some (n, d) := by
  induction bound generalizing value c with
  | zero =>
    cases h
    refine ⟨0, taken_digitRun_end ?_⟩
    rw [List.length_eq_zero_iff.1 (Nat.le_zero.1 hbound)]
    rfl
  | succ bound ih =>
    rw [exponentDigits, taken_peekDigit_bind] at h
    split at h
    · next hdigit =>
      cases h
      exact ⟨0, taken_digitRun_end hdigit⟩
    · next digit hdigit =>
      have hlength := length_of_digit hdigit
      rw [taken_digitRun_digit hdigit]
      rw [taken_skip_bind, taken_ite] at h
      split at h
      · rw [taken_ite] at h
        split at h
        · cases h
        · -- The digits that no exponent can hold are skipped at once.
          rw [taken_remaining_bind] at h
          obtain ⟨n, hn, rfl⟩ := taken_bind_pure.1 h
          exact ⟨n + 1, congrArg (Option.map fun e => (e.1 + 1, e.2)) hn⟩
      · obtain ⟨n, hn⟩ := ih (by omega) h
        rw [hn]
        exact ⟨n + 1, rfl⟩

/-- Building a double takes nothing. -/
theorem taken_double {positive : Bool} {digits : Nat} {shift : Int} {c d : Cursor} {n : Number}
    (h : (double positive digits shift).taken c = some (n, d)) : d = c := by
  unfold double at h
  dsimp only at h
  split at h <;> cases h
  rfl

/-- Consumes the digits of an exponent, one at least. -/
def skipPower : Reader Unit := do
  match (← next).bind digit? with
  | none => failHere .badNumber
  | some _ =>
    let _ ← skipDigits (← remaining)
    return ()

/-- What is made of the digits of an exponent; `shift` says where they move the point. -/
def power (positive upward : Bool) (digits : Nat) (shift : Nat → Int) : Reader Number := do
  match ← next with
  | none => failHere .endInValue
  | some b =>
    match digit? b with
    | none => failHere .badNumber
    | some d =>
      match ← exponentDigits positive upward (digits == 0) (← remaining) d with
      | .inr zero => return zero
      | .inl value => double positive digits (shift value)

/-- Where the digits of an exponent are taken they can be skipped. -/
theorem taken_power {positive upward : Bool} {digits : Nat} {shift : Nat → Int} {c d : Cursor}
    {n : Number} (h : (power positive upward digits shift).taken c = some (n, d)) :
    skipPower.taken c = some ((), d) := by
  unfold power at h
  rw [taken_next_bind] at h
  split at h
  · cases h
  · next b hb =>
    split at h
    · cases h
    · next digit hdigit =>
      rw [taken_remaining_bind] at h
      obtain ⟨v, e, hv, h⟩ := taken_of_bind h
      have he : d = e := by
        cases v with
        | inl value => exact taken_double h
        | inr zero =>
          cases h
          rfl
      subst he
      obtain ⟨k, hk⟩ := taken_exponentDigits (Nat.le_refl _) hv
      unfold skipPower
      rw [taken_next_bind, hb, Option.bind_some, hdigit]
      dsimp only
      rw [taken_remaining_bind]
      exact taken_bind_pure.2 ⟨k, hk, rfl⟩

/-- Where an exponent is taken it can be skipped. -/
theorem taken_withExponent {positive : Bool} {digits : Nat} {shift : Int} {c d : Cursor}
    {n : Number} (hc : (c.rest.head? == some 0x65 || c.rest.head? == some 0x45) = true)
    (h : (withExponent positive digits shift).taken c = some (n, d)) :
    skipExponent.taken c = some ((), d) := by
  unfold withExponent at h
  rw [taken_skip_bind, taken_peek_bind] at h
  dsimp only at h
  have hskip : skipExponent.taken c =
      (do
        let sign ← peek
        if sign == some 0x2B || sign == some 0x2D then skip
        skipPower : Reader Unit).taken c.advance := by
    unfold skipExponent
    rw [taken_atExponent_bind, if_pos hc, taken_skip_bind]
    rfl
  rw [hskip, taken_peek_bind]
  dsimp only
  split at h
  · next hsign =>
    rw [hsign, if_pos (by decide)]
    exact taken_power h
  · next hsign =>
    rw [hsign, if_pos (by decide)]
    exact taken_power h
  · next hplus hminus =>
    rw [if_neg (by simpa using ⟨hplus, hminus⟩)]
    exact taken_power h

/-- Consumes what may follow the digits before the point. -/
def skipFraction : Reader Unit := do
  if (← peek) == some 0x2E then
    skip
    if (← skipDigits (← remaining)) = 0 then failAhead .badNumber
  skipExponent

/-- A number is skipped by its integer, and then by its fraction. -/
theorem taken_skipNumber (c : Cursor) :
    skipNumber.taken c = (skipInteger.taken c).bind fun e => skipFraction.taken e.2 := by
  unfold skipNumber
  rw [taken_bind]
  rfl

/-- Where there is no exponent nothing is skipped for one. -/
theorem taken_skipExponent_end {c : Cursor}
    (hc : ¬(c.rest.head? == some 0x65 || c.rest.head? == some 0x45) = true) :
    skipExponent.taken c = some ((), c) := by
  unfold skipExponent
  rw [taken_atExponent_bind, if_neg hc]
  rfl

/-- Where an exponent may stand, it is skipped, and nothing is skipped if there is none. -/
theorem taken_exponentOr {positive : Bool} {digits : Nat} {shift : Int} {plain : Reader Number}
    (hplain : ∀ c d n, plain.taken c = some (n, d) → d = c) {c d : Cursor} {n : Number}
    (h : (do
      if ← atExponent then withExponent positive digits shift else plain : Reader Number).taken c =
        some (n, d)) : skipExponent.taken c = some ((), d) := by
  rw [taken_atExponent_bind, taken_ite] at h
  split at h
  · next he => exact taken_withExponent he h
  · next he =>
    rw [hplain c d n h]
    exact taken_skipExponent_end he

/-- Where a fraction is taken it can be skipped. -/
theorem taken_withFraction {positive : Bool} {digits : Nat} {shift : Int} {c d : Cursor}
    {n : Number} (hc : (c.rest.head? == some 0x2E) = true)
    (h : (withFraction positive digits shift).taken c = some (n, d)) :
    skipFraction.taken c = some ((), d) := by
  unfold withFraction at h
  rw [taken_skip_bind, taken_remaining_bind] at h
  obtain ⟨⟨kept, count⟩, e, htake, h⟩ := taken_of_bind h
  dsimp only at h
  rw [taken_remaining_bind] at h
  obtain ⟨dropped, e', hdrop, h⟩ := taken_of_bind h
  have hrun : digitRun.taken c.advance = some (count + dropped, e') := by
    rw [taken_takeDigits htake]
    exact congrArg (Option.map fun e => (count + e.1, e.2)) hdrop
  rw [taken_ite] at h
  split at h
  · rw [taken_peek_bind] at h
    split at h <;> cases h
  · next hsome =>
    unfold skipFraction
    rw [taken_peek_bind, if_pos hc]
    dsimp only
    rw [taken_skip_bind, taken_remaining_bind, taken_bind]
    have hdigits : (skipDigits c.advance.rest.length).taken c.advance =
        some (count + dropped, e') := hrun
    rw [hdigits, Option.bind_some, if_neg hsome]
    exact taken_exponentOr (fun _ _ _ => taken_double) h

/-- Where there is no fraction an exponent is skipped. -/
theorem taken_skipFraction_end {c : Cursor} (hc : ¬(c.rest.head? == some 0x2E) = true) :
    skipFraction.taken c = skipExponent.taken c := by
  unfold skipFraction
  rw [taken_peek_bind, if_neg hc]

/-- What is taken behind an integer can be skipped. -/
theorem taken_afterInteger {positive : Bool} {digits : Nat} {c d : Cursor} {n : Number}
    (h : (afterInteger positive digits).taken c = some (n, d)) :
    skipFraction.taken c = some ((), d) := by
  unfold afterInteger at h
  rw [taken_peek_bind, taken_ite] at h
  split at h
  · next hc => exact taken_withFraction hc h
  · next hc =>
    rw [taken_skipFraction_end hc]
    refine taken_exponentOr (fun c d n hplain => ?_) h
    -- An integer: nothing more is read.
    split at hplain
    · cases hplain
      rfl
    · split at hplain <;> cases hplain <;> rfl

/-- Where an integer is too long, its digits and what is behind them can be skipped. -/
theorem taken_longInteger {positive : Bool} {digits : Nat} {c d : Cursor} {n : Number}
    (h : (longInteger positive digits).taken c = some (n, d)) :
    ∃ extra e, digitRun.taken c = some (extra, e) ∧ skipFraction.taken e = some ((), d) := by
  unfold longInteger at h
  rw [taken_remaining_bind] at h
  obtain ⟨extra, e, hrun, h⟩ := taken_of_bind h
  refine ⟨extra, e, hrun, ?_⟩
  rw [taken_peek_bind, taken_ite] at h
  split at h
  · next hc => exact taken_withFraction hc h
  · next hc =>
    rw [taken_skipFraction_end hc]
    exact taken_exponentOr (fun _ _ _ => taken_double) h

/-- A zero is skipped as an integer if no digit follows. -/
theorem taken_skipInteger_zero {c : Cursor} {b : UInt8} (hb : c.rest.head? = some b)
    (hdigit : digit? b = some 0) (hnone : c.advance.rest.head?.bind digit? = none) :
    skipInteger.taken c = some ((), c.advance) := by
  unfold skipInteger
  rw [taken_next_bind, hb, Option.bind_some, hdigit]
  show (peekDigit >>= fun k => _).taken c.advance = _
  rw [taken_peekDigit_bind, hnone]
  rfl

/-- Another digit is skipped together with its run. -/
theorem taken_skipInteger_digit {c e : Cursor} {b : UInt8} {digit k : Nat}
    (hb : c.rest.head? = some b) (hdigit : digit? b = some digit) (hne : digit ≠ 0)
    (hrun : digitRun.taken c.advance = some (k, e)) : skipInteger.taken c = some ((), e) := by
  obtain ⟨m, rfl⟩ := Nat.exists_eq_succ_of_ne_zero hne
  unfold skipInteger
  rw [taken_next_bind, hb, Option.bind_some, hdigit]
  show (remaining >>= fun bound => skipDigits bound >>= fun _ => pure ()).taken c.advance = _
  rw [taken_remaining_bind]
  exact taken_bind_pure.2 ⟨k, hrun, rfl⟩

/-- Numbers are skipped to where they end. -/
theorem taken_number {positive : Bool} {c d : Cursor} {n : Number}
    (h : (number positive).taken c = some (n, d)) : skipNumber.taken c = some ((), d) := by
  rw [taken_skipNumber]
  unfold number at h
  rw [taken_next_bind] at h
  dsimp only at h
  split at h
  · cases h
  · next b hb =>
    split at h
    · cases h
    · next hdigit =>
      rw [taken_peekDigit_bind] at h
      split at h
      · cases h
      · next hnone =>
        rw [taken_skipInteger_zero hb hdigit hnone]
        exact taken_afterInteger h
    · next digit hzero hdigit =>
      rw [taken_remaining_bind] at h
      obtain ⟨⟨digits, count⟩, e, htake, h⟩ := taken_of_bind h
      dsimp only at h
      rw [taken_peekDigit_bind] at h
      have hskip : ∃ k e', digitRun.taken c.advance = some (k, e') ∧
          skipFraction.taken e' = some ((), d) := by
        rw [taken_takeDigits htake]
        split at h
        · obtain ⟨extra, e', hrun, hrest⟩ := taken_longInteger h
          rw [hrun]
          exact ⟨count + extra, e', rfl, hrest⟩
        · next hnone =>
          rw [taken_digitRun_end hnone]
          exact ⟨count, e, rfl, taken_afterInteger h⟩
      obtain ⟨k, e', hrun, hrest⟩ := hskip
      rw [taken_skipInteger_digit hb hdigit (fun h0 => hzero h0) hrun]
      exact hrest

theorem forward_skipDigits (bound : Nat) : (skipDigits bound).Forward := by
  induction bound with
  | zero => exact forward_pure _
  | succ bound ih =>
    refine forward_bind forward_peekDigit fun digit => ?_
    split
    · exact forward_pure _
    · exact forward_bind forward_skip fun _ => forward_bind ih fun _ => forward_pure _

theorem forward_skipInteger : skipInteger.Forward := by
  refine forward_bind forward_next fun b => ?_
  split
  · exact forward_failHere _
  · refine forward_bind forward_peekDigit fun digit => ?_
    split
    · exact forward_failAhead _
    · exact forward_pure _
  · exact forward_bind forward_remaining fun _ =>
      forward_bind (forward_skipDigits _) fun _ => forward_pure _

theorem forward_skipPower : skipPower.Forward := by
  refine forward_bind forward_next fun b => ?_
  split
  · exact forward_failHere _
  · exact forward_bind forward_remaining fun _ =>
      forward_bind (forward_skipDigits _) fun _ => forward_pure _

theorem forward_skipExponent : skipExponent.Forward := by
  refine forward_bind forward_atExponent fun here => ?_
  split
  · refine forward_bind forward_skip fun _ => forward_bind forward_peek fun sign => ?_
    split
    · exact forward_bind forward_skip fun _ => forward_skipPower
    · exact forward_skipPower
  · exact forward_pure _

/-- Skipping a number is going forward. -/
theorem forward_skipNumber : skipNumber.Forward := by
  refine forward_bind forward_skipInteger fun _ => forward_bind forward_peek fun point => ?_
  split
  · refine forward_bind forward_skip fun _ => forward_bind forward_remaining fun _ =>
      forward_bind (forward_skipDigits _) fun count => ?_
    split
    · exact forward_bind (forward_failAhead _) fun _ => forward_skipExponent
    · exact forward_skipExponent
  · exact forward_skipExponent

/-! ## Strings -/

/-- Four bytes make an escape of a code point. -/
theorem hexEscape_end {c d : Cursor} {n : Nat} (h : hexEscape.taken c = some (n, d)) :
    d = c.advance.advance.advance.advance := by
  unfold hexEscape at h
  rw [taken_get_bind] at h
  split at h
  · rw [taken_skip_bind, taken_skip_bind, taken_skip_bind, taken_skip_bind] at h
    split at h <;> cases h
    rfl
  · cases h

theorem forward_hexEscape : hexEscape.Forward := by
  intro c n d h
  rw [hexEscape_end h]
  simp only [Cursor.rest_advance]
  exact (List.tail_suffix _).trans ((List.tail_suffix _).trans
    ((List.tail_suffix _).trans (List.tail_suffix _)))

/-- An escape that is not of a code point is one byte to both sides. -/
theorem taken_escape_short {c d : Cursor} {b : UInt8} {bytes : List UInt8}
    (hb : c.rest.head? = some b) (hne : b ≠ 0x75) (h : escape.taken c = some (bytes, d)) :
    skipEscape.taken c = some ((), d) := by
  unfold escape at h
  unfold skipEscape
  rw [taken_nextInString_bind hb] at h ⊢
  split at h
  case h_9 => exact absurd rfl hne
  all_goals cases h <;> rfl

/-- A code unit that is taken can be skipped. -/
theorem taken_skipEscape_unicode {c d : Cursor} {n : Nat} (hb : c.rest.head? = some 0x75)
    (h : hexEscape.taken c.advance = some (n, d)) : skipEscape.taken c = some ((), d) := by
  unfold skipEscape
  rw [taken_nextInString_bind hb]
  exact taken_bind_pure.2 ⟨n, h, rfl⟩

/-- A byte that is asked for by name is the one that stands here. -/
theorem taken_expected {b : UInt8} {c d : Cursor}
    (h : (do
      let found ← peekInString
      skip
      if found ≠ b then failHere .endOfHexEscape : Reader Unit).taken c = some ((), d)) :
    c.rest.head? = some b ∧ d = c.advance := by
  obtain ⟨found, hhead⟩ := head_of_peekInString h
  rw [taken_peekInString_bind hhead, taken_skip_bind, taken_ite] at h
  split at h
  · cases h
  · next hb =>
    cases h
    exact ⟨Decidable.not_not.1 hb ▸ hhead, rfl⟩

/-- An escape is skipped as one, or as two if it is a surrogate pair. -/
theorem escape_cases {c d : Cursor} {bytes : List UInt8} (h : escape.taken c = some (bytes, d)) :
    skipEscape.taken c = some ((), d) ∨
      ∃ e, skipEscape.taken c = some ((), e) ∧ e.rest.head? = some 0x5C ∧
        skipEscape.taken e.advance = some ((), d) := by
  obtain ⟨b, hb⟩ := head_of_nextInString h
  by_cases hne : b = 0x75
  · subst hne
    unfold escape at h
    rw [taken_nextInString_bind hb] at h
    have hunicode : unicodeEscape.taken c.advance = some (bytes, d) := h
    unfold unicodeEscape at hunicode
    obtain ⟨first, e, hfirst, hrest⟩ := taken_of_bind hunicode
    simp only [taken_ite] at hrest
    split at hrest
    · cases hrest
    · split at hrest
      · cases hrest
        exact .inl (taken_skipEscape_unicode hb hfirst)
      · -- The other half follows: a backslash, and an escape of its own.
        obtain ⟨_, e₁, hslash, hrest⟩ := taken_of_bind hrest
        obtain ⟨_, e₂, hletter, hrest⟩ := taken_of_bind hrest
        obtain ⟨hhead, rfl⟩ := taken_expected hslash
        obtain ⟨hhead', rfl⟩ := taken_expected hletter
        obtain ⟨second, e₃, hsecond, hrest⟩ := taken_of_bind hrest
        rw [taken_ite] at hrest
        split at hrest
        · cases hrest
        · cases hrest
          exact .inr ⟨e, taken_skipEscape_unicode hb hfirst, hhead,
            taken_skipEscape_unicode hhead' hsecond⟩
  · exact .inl (taken_escape_short hb hne h)

theorem forward_nextInString : nextInString.Forward := by
  refine forward_bind forward_next fun b => ?_
  split
  · exact forward_pure _
  · exact forward_failHere _

theorem forward_peekInString : peekInString.Forward := by
  refine forward_bind forward_peek fun b => ?_
  split
  · exact forward_pure _
  · exact forward_failHere _

theorem forward_skipEscape : skipEscape.Forward := by
  refine forward_bind forward_nextInString fun b => ?_
  split
  case h_9 => exact forward_bind forward_hexEscape fun _ => forward_pure _
  case h_10 => exact forward_failHere _
  all_goals exact forward_pure _

theorem forward_skipStringTail (bound : Nat) : (skipStringTail bound).Forward := by
  induction bound with
  | zero => exact forward_failHere _
  | succ bound ih =>
    refine forward_bind forward_peekInString fun b => ?_
    split
    · exact forward_skip
    · exact forward_bind forward_skip fun _ => forward_bind forward_skipEscape fun _ => ih
    · split
      · exact forward_failHere _
      · exact forward_bind forward_skip fun _ => ih

/-- Skipping a string is going forward. -/
theorem forward_skipString : skipString.Forward := by
  refine forward_bind (r := get) (fun c a d h => ?_) fun c => forward_skipStringTail _
  cases h
  exact List.suffix_rfl

/-- Bytes and escapes of a string are skipped one after the other. -/
theorem taken_skipStringTail_escape {bound : Nat} {c d : Cursor}
    (hhead : c.rest.head? = some 0x5C) (h : skipEscape.taken c.advance = some ((), d)) :
    (skipStringTail (bound + 1)).taken c = (skipStringTail bound).taken d := by
  rw [skipStringTail, taken_peekInString_bind hhead]
  show (skip >>= fun _ => skipEscape >>= fun _ => skipStringTail bound).taken c = _
  rw [taken_skip_bind, taken_bind, h, Option.bind_some]

/-- An ordinary byte of a string is skipped. -/
theorem taken_skipStringTail_byte {bound : Nat} {c : Cursor} {b : UInt8}
    (hhead : c.rest.head? = some b) (hquote : b ≠ 0x22) (hslash : b ≠ 0x5C) (hb : ¬b < 0x20) :
    (skipStringTail (bound + 1)).taken c = (skipStringTail bound).taken c.advance := by
  rw [skipStringTail, taken_peekInString_bind hhead]
  split
  · exact absurd rfl hquote
  · exact absurd rfl hslash
  · rw [if_neg hb, taken_skip_bind]

/-- Where the rest of a string is taken it can be skipped. -/
theorem taken_stringTail {bound room : Nat} {taken : List UInt8} {c d : Cursor} {s : String}
    (hroom : c.rest.length < room) (h : (stringTail bound taken).taken c = some (s, d)) :
    (skipStringTail room).taken c = some ((), d) := by
  induction bound generalizing room taken c with
  | zero => cases h
  | succ bound ih =>
    obtain ⟨room, rfl⟩ : ∃ r, room = r + 1 := ⟨room - 1, by omega⟩
    rw [stringTail] at h
    obtain ⟨b, hhead⟩ := head_of_peekInString h
    rw [taken_peekInString_bind hhead] at h
    have hlength := Cursor.length_advance hhead
    split at h
    · -- The closing quote.
      split at h
      · cases h
      · cases h
        rw [skipStringTail, taken_peekInString_bind hhead]
        rfl
    · rw [taken_skip_bind] at h
      obtain ⟨bytes, e', hescape, h⟩ := taken_of_bind h
      obtain hskip | ⟨e, hskip, hslash, hskip'⟩ := escape_cases hescape
      · have hle := (forward_skipEscape _ _ _ hskip).length_le
        rw [taken_skipStringTail_escape hhead hskip]
        exact ih (by omega) h
      · -- A surrogate pair takes two rounds of the loop, but it also takes more bytes.
        have hle := (forward_skipEscape _ _ _ hskip).length_le
        have hlength' := Cursor.length_advance hslash
        have hle' := (forward_skipEscape _ _ _ hskip').length_le
        obtain ⟨room, rfl⟩ : ∃ r, room = r + 1 := ⟨room - 1, by omega⟩
        rw [taken_skipStringTail_escape hhead hskip, taken_skipStringTail_escape hslash hskip']
        exact ih (by omega) h
    · next hquote hslash =>
      rw [taken_skip_bind, taken_ite] at h
      split at h
      · cases h
      · next hb =>
        rw [taken_skipStringTail_byte hhead hquote hslash hb]
        exact ih (by omega) h

/-- Where a string is taken it can be skipped. -/
theorem taken_string {c d : Cursor} {s : String} (h : string.taken c = some (s, d)) :
    skipString.taken c = some ((), d) := by
  rw [string, taken_get_bind] at h
  rw [skipString, taken_get_bind]
  exact taken_stringTail (Nat.lt_succ_self _) h

end MessageFlow.Json.Reader
