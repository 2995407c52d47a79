import MessageFlow.Json.Cursor
import MessageFlow.Json.Value

/-!
# Reading numbers

A number without fraction and exponent that fits 64 bits is an integer; every other number is a
double. Of a double's digits as many are kept as fit a 64-bit integer, the rest only move the
decimal point; the value is that integer times or divided by a power of ten, in double arithmetic.
-/

namespace MessageFlow.Json.Reader

/-- The value of a byte that is a decimal digit. -/
def digit? (b : UInt8) : Option Nat :=
  if 0x30 ≤ b ∧ b ≤ 0x39 then some (b.toNat - 0x30) else none

/-- The next byte's value if it is a digit. -/
def peekDigit : Reader (Option Nat) := do
  return (← peek).bind digit?

/-- Whether the next byte starts an exponent. -/
def atExponent : Reader Bool := do
  let b ← peek
  return b == some 0x65 || b == some 0x45

/-- How many bytes are left, the bound of every loop over them. -/
def remaining : Reader Nat := do
  return (← get).rest.length

/-- Consumes digits, and counts them. -/
def skipDigits : (bound : Nat) → Reader Nat
  | 0 => return 0
  | bound + 1 => do
    match ← peekDigit with
    | none => return 0
    | some _ =>
      skip
      return (← skipDigits bound) + 1

/-- Extends `value` by digits while it stays below `limit`; stops before a digit that would not
fit. Returns the value and how many digits were taken. -/
def takeDigits (limit : Nat) : (bound value : Nat) → Reader (Nat × Nat)
  | 0, value => return (value, 0)
  | bound + 1, value => do
    match ← peekDigit with
    | none => return (value, 0)
    | some d =>
      if limit ≤ value * 10 + d then return (value, 0)
      else
        skip
        let (value, count) ← takeDigits limit bound (value * 10 + d)
        return (value, count + 1)

/-- The greatest power of ten that is a double. -/
def greatestPower : Nat := 308

/-- `10^n` as a double. -/
def powerOfTen (n : Nat) : Float :=
  Float.ofScientific 1 false n

/-- `f · 10^exponent`, dividing in several steps where one power is not enough; none if the result
is too great for a double. -/
def scaled? (f : Float) (exponent : Int) : (tries : Nat) → Option Float
  | 0 => some f
  | tries + 1 =>
    if exponent.natAbs ≤ greatestPower then
      if 0 ≤ exponent then
        let product := f * powerOfTen exponent.natAbs
        if product.isInf then none else some product
      else some (f / powerOfTen exponent.natAbs)
    -- Zero stays zero however far it is scaled; anything else is too great.
    else if f == 0.0 then some f
    else if 0 ≤ exponent then none
    else scaled? (f / powerOfTen greatestPower) (exponent + greatestPower) tries

/-- A double from its sign, its kept digits and the power of ten they are scaled by. -/
def double (positive : Bool) (digits : Nat) (exponent : Int) : Reader Number := do
  let f := (UInt64.ofNat digits).toFloat
  match scaled? f exponent (exponent.natAbs / greatestPower + 2) with
  | none => failHere .numberOutOfRange
  | some f => return .double (if positive then f else -f).toBits

def signedZero (positive : Bool) : Number :=
  .double (if positive then (0.0 : Float) else -0.0).toBits

/-- The digits of an exponent beyond the first one. The value stops growing at 31 bits: then the
number is zero, or too great. -/
def exponentDigits (positive upward isZero : Bool) : (bound value : Nat) → Reader (Nat ⊕ Number)
  | 0, value => return .inl value
  | bound + 1, value => do
    match ← peekDigit with
    | none => return .inl value
    | some d =>
      skip
      if Int32.size / 2 ≤ value * 10 + d then
        if !isZero && upward then failHere .numberOutOfRange
        else
          let _ ← skipDigits (← remaining)
          return .inr (signedZero positive)
      else exponentDigits positive upward isZero bound (value * 10 + d)

/-- An exponent and the double it completes; `shift` is where the point stands already. -/
def withExponent (positive : Bool) (digits : Nat) (shift : Int) : Reader Number := do
  skip
  let upward ← do
    match ← peek with
    | some 0x2B => skip; pure true
    | some 0x2D => skip; pure false
    | _ => pure true
  match ← next with
  | none => failHere .endInValue
  | some b =>
    match digit? b with
    | none => failHere .badNumber
    | some d =>
      match ← exponentDigits positive upward (digits == 0) (← remaining) d with
      | .inr zero => return zero
      | .inl value =>
        double positive digits (if upward then shift + value else shift - value)

/-- A fraction and the double it completes. At least one digit follows the point. -/
def withFraction (positive : Bool) (digits : Nat) (shift : Int) : Reader Number := do
  skip
  let (kept, count) ← takeDigits UInt64.size (← remaining) digits
  let dropped ← skipDigits (← remaining)
  if count + dropped = 0 then
    match ← peek with
    | some _ => failAhead .badNumber
    | none => failAhead .endInValue
  else
    let shift := shift - count
    if ← atExponent then withExponent positive kept shift else double positive kept shift

/-- What follows the digits before the point: a fraction, an exponent, or nothing. -/
def afterInteger (positive : Bool) (digits : Nat) : Reader Number := do
  if (← peek) == some 0x2E then withFraction positive digits 0
  else if ← atExponent then withExponent positive digits 0
  else if positive then return .natural (UInt64.ofNat digits)
  -- Negative zero and what lies below every signed integer of 64 bits are doubles.
  else if digits = 0 ∨ Int64.size / 2 < digits then
    return .double (-(UInt64.ofNat digits).toFloat).toBits
  else return .negative (Int64.ofInt (-digits))

/-- An integer too long for 64 bits: the digits beyond only move the point. -/
def longInteger (positive : Bool) (digits : Nat) : Reader Number := do
  let extra ← skipDigits (← remaining)
  if (← peek) == some 0x2E then withFraction positive digits extra
  else if ← atExponent then withExponent positive digits extra
  else double positive digits extra

/-- A number after its sign. No zero stands before another digit. -/
def number (positive : Bool) : Reader Number := do
  match ← next with
  | none => failHere .endInValue
  | some b =>
    match digit? b with
    | none => failHere .badNumber
    | some 0 =>
      match ← peekDigit with
      | some _ => failAhead .badNumber
      | none => afterInteger positive 0
    | some d =>
      let (digits, _) ← takeDigits UInt64.size (← remaining) d
      match ← peekDigit with
      | some _ => longInteger positive digits
      | none => afterInteger positive digits

end MessageFlow.Json.Reader
