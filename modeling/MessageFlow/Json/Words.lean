import MessageFlow.Json.Cursor
import MessageFlow.Text.Hex

/-!
# Reading strings

The bytes of a string between its quotes, escapes undone. A string that is kept has to be valid
UTF-8 with paired surrogates; a string that is skipped only has to end.
-/

namespace MessageFlow.Json.Reader

/-- The next byte of a string, consumed. -/
def nextInString : Reader UInt8 := do
  match ← next with
  | some b => return b
  | none => failHere .endInString

/-- The next byte of a string, not consumed. -/
def peekInString : Reader UInt8 := do
  match ← peek with
  | some b => return b
  | none => failHere .endInString

/-- The value of a byte that is a hexadecimal digit. -/
def hexDigit? (b : UInt8) : Option Nat :=
  Text.Hex.digit? (Char.ofNat b.toNat)

def skipAll : Reader Unit :=
  modify fun c => c.rest.foldl (fun c _ => c.advance) c

/-- The four digits of a `\u` escape. -/
def hexEscape : Reader Nat := do
  match (← get).rest with
  | a :: b :: c :: d :: _ =>
    skip; skip; skip; skip
    match hexDigit? a, hexDigit? b, hexDigit? c, hexDigit? d with
    | some a, some b, some c, some d => return ((a * 16 + b) * 16 + c) * 16 + d
    | _, _, _, _ => failHere .badEscape
  | _ =>
    skipAll
    failHere .endInString

/-- The bytes of a code point. -/
def encoded (n : Nat) : List UInt8 :=
  (String.singleton (Char.ofNat n)).toUTF8.toList

/-- A `\u` escape, with the escape of the second half if it is the first half of a pair. -/
def unicodeEscape : Reader (List UInt8) := do
  let first ← hexEscape
  if 0xDC00 ≤ first ∧ first ≤ 0xDFFF then failHere .loneSurrogate
  else if first < 0xD800 ∨ 0xDFFF < first then return encoded first
  else
    -- The first half of a pair: an escape with the second half has to follow at once.
    let expect (b : UInt8) : Reader Unit := do
      let found ← peekInString
      skip
      if found ≠ b then failHere .endOfHexEscape
    expect 0x5C
    expect 0x75
    let second ← hexEscape
    if second < 0xDC00 ∨ 0xDFFF < second then failHere .loneSurrogate
    else return encoded ((first - 0xD800) * 0x400 + (second - 0xDC00) + 0x10000)

/-- The bytes that the escape after a backslash stands for. -/
def escape : Reader (List UInt8) := do
  match ← nextInString with
  | 0x22 => return [0x22]
  | 0x5C => return [0x5C]
  | 0x2F => return [0x2F]
  | 0x62 => return [0x08]
  | 0x66 => return [0x0C]
  | 0x6E => return [0x0A]
  | 0x72 => return [0x0D]
  | 0x74 => return [0x09]
  | 0x75 => unicodeEscape
  | _ => failHere .badEscape

/-- The text of bytes that are valid UTF-8. -/
def decoded? (bytes : List UInt8) : Option String :=
  String.fromUTF8? ⟨bytes.toArray⟩

/-- How many bytes the first character takes, if it is valid: four at most. -/
def headLength? (bytes : List UInt8) : Option Nat :=
  [1, 2, 3, 4].find? fun n => (decoded? (bytes.take n)).isSome

/-- How many bytes there are before the first that begins no valid character, or `bound` characters
if that comes first. -/
def validLength : (bound : Nat) → List UInt8 → Nat
  | _, [] => 0
  | 0, _ :: _ => 0
  | bound + 1, bytes =>
    match headLength? bytes with
    | none => 0
    | some n => n + validLength bound (bytes.drop n)

/-- Refuses the bytes of a string that are not valid, at the first that begins no character. The
place is counted back from the closing quote, each byte as one, whether or not it was escaped. -/
def failInvalid {α : Type} (bytes : List UInt8) : Reader α :=
  failBehind (bytes.length - validLength bytes.length bytes - 1) .badCodePoint

/-- The rest of a string after `taken`, which is in reverse. -/
def stringTail : (bound : Nat) → (taken : List UInt8) → Reader String
  | 0, _ => failHere .endInString
  | bound + 1, taken => do
    match ← peekInString with
    | 0x22 =>
      -- The bytes are judged before the quote is consumed: places are counted back from there.
      match decoded? taken.reverse with
      | none => failInvalid taken.reverse
      | some s =>
        skip
        return s
    | 0x5C =>
      skip
      let bytes ← escape
      stringTail bound (bytes.reverse ++ taken)
    | b =>
      skip
      if b < 0x20 then failHere .controlCharacter else stringTail bound (b :: taken)

/-- A string after its opening quote. -/
def string : Reader String := do
  stringTail ((← get).rest.length + 1) []

/-- Consumes the escape after a backslash without asking what it stands for. -/
def skipEscape : Reader Unit := do
  match ← nextInString with
  | 0x22 | 0x5C | 0x2F | 0x62 | 0x66 | 0x6E | 0x72 | 0x74 => return ()
  | 0x75 =>
    let _ ← hexEscape
    return ()
  | _ => failHere .badEscape

/-- Consumes the rest of a string. -/
def skipStringTail : (bound : Nat) → Reader Unit
  | 0 => failHere .endInString
  | bound + 1 => do
    match ← peekInString with
    | 0x22 => skip
    | 0x5C =>
      skip
      skipEscape
      skipStringTail bound
    | b =>
      if b < 0x20 then failHere .controlCharacter
      else
        skip
        skipStringTail bound

/-- Consumes a string after its opening quote. -/
def skipString : Reader Unit := do
  skipStringTail ((← get).rest.length + 1)

end MessageFlow.Json.Reader
