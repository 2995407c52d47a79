import Mathlib.Algebra.Group.Nat.Defs
import MessageFlow.Message.Id

/-!
# Texts of message ids

The text of a UUID is put together from five fields, each cut out of the bits by a shift and a
truncation and written with zeros before it. `ofDigits_fields` says that the fields have all bits of
the UUID, each bit once, so that the UUID can be read back; it rests on `padded_eq_fixed`, by which
no field overflows the digits it is given. The texts of the three kinds of ids are kept apart by the
colon, which a UUID's text never has, and by their first character.
-/

namespace MessageFlow

namespace Text.Hex

theorem fixed_zero (width : Nat) : fixed width 0 = List.replicate width '0' := by
  induction width with
  | zero => rfl
  | succ width ih =>
    rw [fixed, Nat.zero_div, ih, List.replicate_succ']
    rfl

/-- A number that fits a width is filled up to just that width. -/
theorem padded_eq_fixed {width n : Nat} (h : n < 16 ^ (width + 1)) :
    padded (width + 1) n = fixed (width + 1) n := by
  induction width generalizing n with
  | zero =>
    have hlt : n < 16 := h
    simp [padded, fixed, Nat.toDigits_of_lt_base hlt, Nat.mod_eq_of_lt hlt]
  | succ width ih =>
    rw [fixed]
    rcases Nat.lt_or_ge n 16 with hlt | hge
    · rw [padded, Nat.toDigits_of_lt_base hlt, Nat.div_eq_of_lt hlt, fixed_zero,
        Nat.mod_eq_of_lt hlt]
      rfl
    · have hdiv : n / 16 < 16 ^ (width + 1) := (Nat.div_lt_iff_lt_mul (by decide)).2 h
      rw [← ih hdiv, padded, padded, Nat.toDigits_of_base_le (by decide) hge]
      simp only [List.length_append, List.length_singleton, Nat.add_sub_add_right,
        List.append_assoc]

/-- Digits read so far, and a fixed-width text behind them. -/
theorem ofDigits_append_fixed {cs : List Char} {m : Nat} (h : ofDigits? cs = some m)
    (width n : Nat) :
    ofDigits? (cs ++ fixed width n) = some (m * 16 ^ width + n % 16 ^ width) := by
  induction width generalizing n with
  | zero => simp [fixed, h, Nat.mod_one]
  | succ width ih =>
    have hlt : n % 16 < 16 := Nat.mod_lt _ (by decide)
    have hstep := ih (n / 16)
    unfold ofDigits? at hstep ⊢
    rw [fixed, ← List.append_assoc, List.foldl_append, hstep]
    simp only [List.foldl_cons, List.foldl_nil, Option.bind_eq_bind, Option.bind_some,
      isLower_digitChar _ hlt, digit?_digitChar _ hlt, if_true]
    congr 1
    rw [Nat.pow_succ', Nat.mod_mul, Nat.mul_left_comm]
    omega

theorem isLower_of_mem_fixed {width n : Nat} {c : Char} (h : c ∈ fixed width n) :
    isLower c = true := by
  induction width generalizing n with
  | zero => cases h
  | succ width ih =>
    rcases List.mem_append.1 h with h | h
    · exact ih h
    · rw [List.mem_singleton.1 h]
      exact isLower_digitChar _ (Nat.mod_lt _ (by decide))

end Text.Hex

namespace MessageId

open Text.Hex

/-- No field has more bits than its digits can hold, so each is written with just those digits. -/
theorem fields_eq_fixed (raw : BitVec 128) :
    fields raw =
      [ fixed 8 (raw.toNat / 2 ^ 96), fixed 4 (raw.toNat / 2 ^ 80 % 2 ^ 16),
        fixed 4 (raw.toNat / 2 ^ 64 % 2 ^ 16), fixed 4 (raw.toNat / 2 ^ 48 % 2 ^ 16),
        fixed 12 (raw.toNat % 2 ^ 48) ] := by
  have hraw : raw.toNat < 2 ^ 128 := raw.isLt
  have hhigh : raw.toNat / 2 ^ 96 < 2 ^ 32 := by omega
  have hmiddle (n : Nat) : n % 2 ^ 16 < 2 ^ 16 := Nat.mod_lt _ (by decide)
  have hlow : raw.toNat % 2 ^ 48 < 2 ^ 48 := Nat.mod_lt _ (by decide)
  have hmask : (0xFFFFFFFFFFFF#128).toNat = 2 ^ 48 - 1 := rfl
  simp only [fields, BitVec.toNat_setWidth, BitVec.toNat_ushiftRight, Nat.shiftRight_eq_div_pow,
    BitVec.toNat_and, hmask, Nat.and_two_pow_sub_one_eq_mod]
  rw [Nat.mod_eq_of_lt hhigh, Nat.mod_eq_of_lt (Nat.lt_trans hlow (by decide)),
    padded_eq_fixed hhigh, padded_eq_fixed (hmiddle _), padded_eq_fixed (hmiddle _),
    padded_eq_fixed (hmiddle _), padded_eq_fixed hlow]

theorem length_fields (raw : BitVec 128) :
    (fields raw).map List.length = [8, 4, 4, 4, 12] := by
  rw [fields_eq_fixed]
  simp only [List.map_cons, List.map_nil, length_fixed]

theorem isLower_of_mem_fields {raw : BitVec 128} {field : List Char} (h : field ∈ fields raw)
    {c : Char} (hc : c ∈ field) : isLower c = true := by
  simp only [fields_eq_fixed, List.mem_cons, List.not_mem_nil, or_false] at h
  obtain rfl | rfl | rfl | rfl | rfl := h <;> exact isLower_of_mem_fixed hc

/-- The fields, read as one number, are the UUID: each of its bits is in one of them, and in no
other. -/
theorem ofDigits_fields (raw : BitVec 128) : ofDigits? (fields raw).flatten = some raw.toNat := by
  have hraw : raw.toNat < 2 ^ 128 := raw.isLt
  have hnone : ofDigits? [] = some 0 := rfl
  have hread := ofDigits_append_fixed (ofDigits_append_fixed (ofDigits_append_fixed
    (ofDigits_append_fixed (ofDigits_append_fixed hnone 8 (raw.toNat / 2 ^ 96)) 4
      (raw.toNat / 2 ^ 80 % 2 ^ 16)) 4 (raw.toNat / 2 ^ 64 % 2 ^ 16)) 4
      (raw.toNat / 2 ^ 48 % 2 ^ 16)) 12 (raw.toNat % 2 ^ 48)
  rw [fields_eq_fixed]
  simp only [List.append_assoc, List.nil_append] at hread
  simp only [List.flatten_cons, List.flatten_nil, List.append_nil]
  rw [hread]
  congr 1
  omega

/-- A UUID is known from its fields. -/
theorem eq_of_fields_eq {raw raw' : BitVec 128} (h : fields raw = fields raw') : raw = raw' := by
  have hread := ofDigits_fields raw
  rw [h, ofDigits_fields] at hread
  exact (BitVec.eq_of_toNat_eq (Option.some_inj.1 hread)).symm

/-- The hyphens of a UUID's text are those between its fields. -/
theorem hyphen_notMem_fields {raw : BitVec 128} {field : List Char} (h : field ∈ fields raw) :
    '-' ∉ field := by
  intro hc
  exact absurd (isLower_of_mem_fields h hc) (by decide)

theorem uuid_of_text_eq {raw raw' : BitVec 128} (h : (uuid raw).text = (uuid raw').text) :
    raw = raw' := by
  have hsplit (raw : BitVec 128) : (['-'].intercalate (fields raw)).splitOn '-' = fields raw :=
    List.splitOn_intercalate '-' (fun _ => hyphen_notMem_fields) (List.cons_ne_nil _ _)
  rw [text, text, String.ofList_inj] at h
  apply eq_of_fields_eq
  rw [← hsplit raw, h, hsplit raw']

theorem mem_of_mem_intercalate {c : Char} {sep : List Char} {groups : List (List Char)}
    (h : c ∈ sep.intercalate groups) : c ∈ sep ∨ ∃ group ∈ groups, c ∈ group := by
  induction groups with
  | nil => cases h
  | cons group rest ih =>
    cases rest with
    | nil =>
      rw [List.intercalate_singleton] at h
      exact .inr ⟨group, List.mem_cons_self, h⟩
    | cons next rest =>
      rw [List.intercalate_cons_cons, List.mem_append, List.mem_append] at h
      rcases h with (h | h) | h
      · exact .inr ⟨group, List.mem_cons_self, h⟩
      · exact .inl h
      · refine (ih h).imp_right ?_
        rintro ⟨group', hmem, hc⟩
        exact ⟨group', List.mem_cons_of_mem _ hmem, hc⟩

/-- The text of a UUID has no colon; every other text has one. -/
theorem colon_mem_text_iff (x : MessageId) : ':' ∈ x.text.toList ↔ x.isUuid = false := by
  cases x with
  | uuid raw =>
    refine iff_of_false (fun h => ?_) (by simp [isUuid])
    rw [text, String.toList_ofList] at h
    rcases mem_of_mem_intercalate h with h | ⟨field, hfield, h⟩
    · exact absurd h (by decide)
    · exact absurd (isLower_of_mem_fields hfield h) (by decide)
  | sequence n => simp [text, isUuid]
  | custom s => simp [text, isUuid]

/-- A sequence number and a text of the caller's choice differ in their first characters. -/
theorem text_sequence_ne_custom (n : UInt64) (s : String) :
    (sequence n).text ≠ (custom s).text := by
  intro h
  have hhead := congrArg (fun text => text.toList.head?) h
  simp [text] at hhead

/-- Ids of one text are one id. -/
theorem eq_of_text_eq {x y : MessageId} (h : x.text = y.text) : x = y := by
  have hkind : x.isUuid = false ↔ y.isUuid = false := by
    rw [← colon_mem_text_iff, h, colon_mem_text_iff]
  cases x with
  | uuid raw =>
    cases y with
    | uuid raw' => rw [uuid_of_text_eq h]
    | sequence | custom => simp [isUuid] at hkind
  | sequence n =>
    cases y with
    | uuid => simp [isUuid] at hkind
    | sequence n' =>
      rw [text, text, String.append_right_inj, Nat.toString_eq_ofList_toDigits,
        Nat.toString_eq_ofList_toDigits, String.ofList_inj] at h
      have hnumber : n.toNat = n'.toNat := by
        rw [← Nat.ofDigitChars_ten_toDigits (n := n.toNat), h, Nat.ofDigitChars_ten_toDigits]
      rw [UInt64.toNat_inj.1 hnumber]
    | custom s => exact absurd h (text_sequence_ne_custom n s)
  | custom s =>
    cases y with
    | uuid => simp [isUuid] at hkind
    | sequence n => exact absurd h.symm (text_sequence_ne_custom n s)
    | custom s' =>
      rw [text, text, String.append_right_inj] at h
      rw [h]

end MessageId

/-- No two ids have one text, whatever texts callers choose. A UUID's text is 8, 4, 4, 4 and 12
lower-case hexadecimal digits between hyphens, and the digits read as one number are the UUID. -/
theorem texts_tell_apart :
    (∀ x y : MessageId, x.text = y.text ↔ x = y) ∧
    ∀ raw, ∃ groups : List (List Char),
      (MessageId.uuid raw).text = String.ofList (['-'].intercalate groups) ∧
      groups.map List.length = [8, 4, 4, 4, 12] ∧
      (∀ group ∈ groups, ∀ c ∈ group, Text.Hex.isLower c = true) ∧
      Text.Hex.ofDigits? groups.flatten = some raw.toNat := by
  refine ⟨fun x y => ⟨MessageId.eq_of_text_eq, fun h => h ▸ rfl⟩, fun raw => ?_⟩
  exact ⟨MessageId.fields raw, rfl, MessageId.length_fields raw,
    fun _ hgroup _ => MessageId.isLower_of_mem_fields hgroup, MessageId.ofDigits_fields raw⟩

/-- Zeros before the first digit are part of the text. -/
example : (MessageId.uuid 0x1F#128).text = "00000000-0000-0000-0000-00000000001f" := by
  decide +kernel

end MessageFlow
