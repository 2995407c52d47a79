import MessageFlow.Text.Hex

/-!
# Message ids

A message is identified by a UUID, by a sequence number, or by a text of the caller's choice. Each
kind has its own text form, and `ofText?` reads all of them back.
-/

namespace MessageFlow

/-- The identity of a message. -/
inductive MessageId where
  | uuid (raw : BitVec 128)
  | sequence (number : UInt64)
  | custom (text : String)
  deriving DecidableEq, Repr

namespace MessageId

/-- The bits of a UUID in five fields, cut out by shifting and truncating, in hexadecimal. -/
def fields (raw : BitVec 128) : List (List Char) :=
  [ Text.Hex.padded 8 ((raw >>> 96).setWidth 32).toNat,
    Text.Hex.padded 4 ((raw >>> 80).setWidth 16).toNat,
    Text.Hex.padded 4 ((raw >>> 64).setWidth 16).toNat,
    Text.Hex.padded 4 ((raw >>> 48).setWidth 16).toNat,
    Text.Hex.padded 12 ((raw &&& 0xFFFFFFFFFFFF#128).setWidth 64).toNat ]

/-- The text of an id: hyphenated hexadecimal, `seq:` and a number, or `custom:` and the text. -/
def text : MessageId → String
  | uuid raw => String.ofList (['-'].intercalate (fields raw))
  | sequence number => "seq:" ++ toString number.toNat
  | custom text => "custom:" ++ text

/-- Whether the id is a UUID. -/
def isUuid : MessageId → Bool
  | uuid _ => true
  | _ => false

/-- Marks 128 bits as a UUID of version 4: four bits hold the version, two the variant. -/
def versioned (raw : BitVec 128) : BitVec 128 :=
  -- The version stands at bits 76 to 79, the variant at bits 62 and 63.
  (raw &&& ~~~(0xF#128 <<< 76) &&& ~~~(0x3#128 <<< 62)) ||| (0x4#128 <<< 76) ||| (0x2#128 <<< 62)

/-- Whether the bits hold version 4 and its variant. -/
def isVersioned (raw : BitVec 128) : Bool :=
  raw &&& (0xF#128 <<< 76) == 0x4#128 <<< 76 && raw &&& (0x3#128 <<< 62) == 0x2#128 <<< 62

/-- How many values the bits below the variant can hold, `2^62`. -/
def freeValues : Nat := 0x4000000000000000

/-- The `n`-th id of a supply. The counter is spread over the 62 free low bits by an odd factor, so
ids repeat only after `2^62` of them. -/
def fresh (n : Nat) : MessageId :=
  uuid (versioned
    ((0x9C5B7F31D4E86A02#128 <<< 64) |||
      BitVec.ofNat 128 ((n + 1) * 0x1D8E4E27C47D124F % freeValues)))

/-- The digits of a UUID in groups of 8, 4, 4, 4 and 12, joined by hyphens. -/
def grouped (digits : List Char) : List Char :=
  digits.take 8 ++ '-' :: (digits.drop 8).take 4 ++ '-' :: (digits.drop 12).take 4
    ++ '-' :: (digits.drop 16).take 4 ++ '-' :: digits.drop 20

/-- The groups of a hyphenated UUID, joined; none where the hyphens stand elsewhere. -/
def ungrouped? (cs : List Char) : Option (List Char) :=
  let digits := cs.take 8 ++ (cs.drop 9).take 4 ++ (cs.drop 14).take 4 ++ (cs.drop 19).take 4
    ++ cs.drop 24
  if digits.length = 32 ∧ grouped digits = cs then some digits else none

/-- The number that decimal digits stand for, if it fits 64 bits. -/
def sequenceNumber? (digits : List Char) : Option UInt64 :=
  let n := digits.foldl (fun n c => n * 10 + (c.toNat - '0'.toNat)) 0
  if digits ≠ [] ∧ digits.all Char.isDigit ∧ n < UInt64.size then some (UInt64.ofNat n) else none

/-- The id with a given text. -/
def ofText? (s : String) : Option MessageId :=
  match s.toList with
  | 's' :: 'e' :: 'q' :: ':' :: rest => (sequenceNumber? rest).map sequence
  | 'c' :: 'u' :: 's' :: 't' :: 'o' :: 'm' :: ':' :: rest => some (custom (String.ofList rest))
  | cs => do
    let digits ← ungrouped? cs
    let n ← Text.Hex.ofDigits? digits
    return uuid (BitVec.ofNat 128 n)

end MessageId

end MessageFlow
