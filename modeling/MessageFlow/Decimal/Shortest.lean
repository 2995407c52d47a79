/-!
# Shortest decimals

The fewest decimal digits that still identify a binary floating-point number, and among those the
nearest. Everything is exact arithmetic on natural numbers: a double is `mantissa · 2^exponent`,
the numbers that round to it form an interval, and the search asks for the coarsest decimal grid
with a point in that interval.
-/

namespace MessageFlow.Decimal

/-- A finite double taken apart: `(-1)^negative · mantissa · 2^exponent`. -/
structure Binary where
  negative : Bool
  mantissa : Nat
  exponent : Int
  /-- Whether the next double below is only half as far away as the next one above. -/
  lowerIsNearer : Bool
  deriving DecidableEq

/-- The weight of the sign in the bits of a double, `2^63`. -/
def signBit : Nat := 0x8000000000000000

/-- The weight of the leading bit of a mantissa, `2^52`, which the bits of a double leave out. -/
def hiddenBit : Nat := 0x10000000000000

/-- Takes the bits of a double apart; none for infinities and for what is not a number. -/
def Binary.ofBits? (bits : UInt64) : Option Binary :=
  let n := bits.toNat
  let negative : Bool := n / signBit == 1
  let biased : Nat := n / hiddenBit % 2048
  let fraction : Nat := n % hiddenBit
  if biased = 2047 then none
  else if biased = 0 then some ⟨negative, fraction, -1074, false⟩
  else some ⟨negative, fraction + hiddenBit, (biased : Int) - 1075, fraction == 0 && biased != 1⟩

/-- A decimal `digits · 10^exponent`. -/
structure Digits where
  digits : Nat
  exponent : Int
  deriving DecidableEq

/-- An unsigned fraction. -/
structure Ratio where
  num : Nat
  den : Nat

/-- `n · 2^e` as a fraction. -/
def Ratio.scale2 (n : Nat) (e : Int) : Ratio :=
  if 0 ≤ e then ⟨n * Nat.pow 2 e.toNat, 1⟩ else ⟨n, Nat.pow 2 (-e).toNat⟩

/-- `n · 10^e` as a fraction. -/
def Ratio.scale10 (n : Nat) (e : Int) : Ratio :=
  if 0 ≤ e then ⟨n * Nat.pow 10 e.toNat, 1⟩ else ⟨n, Nat.pow 10 (-e).toNat⟩

/-- `a < b` for fractions with positive denominators. -/
def Ratio.lt (a b : Ratio) : Bool :=
  a.num * b.den < b.num * a.den

/-- The number of decimal digits of `n`; one for zero. -/
def digitCount (n : Nat) : Nat :=
  (Nat.toDigits 10 n).length

/-- The exponent of the leading decimal digit of a positive fraction. -/
def Ratio.leading (r : Ratio) : Int :=
  let whole := r.num / r.den
  if 0 < whole then (digitCount whole : Int) - 1
  else
    let count := digitCount (r.den / r.num)
    if r.den ≤ r.num * Nat.pow 10 (count - 1) then 1 - (count : Int) else -(count : Int)

/-- The greatest multiple of `10^e` that is not above `r`, counted in units of `10^e`. -/
def Ratio.floorAt (r : Ratio) (e : Int) : Nat :=
  if 0 ≤ e then r.num / (r.den * Nat.pow 10 e.toNat) else r.num * Nat.pow 10 (-e).toNat / r.den

/-- The decimals between `low` and `high`; the ends count when the mantissa is even. -/
def inside (even : Bool) (low high r : Ratio) : Bool :=
  if even then !r.lt low && !high.lt r else low.lt r && r.lt high

/-- The neighbour of `value` on the grid `10^e` that rounds to it, the nearer one if both do, and
the even one if both are equally near. -/
def onGrid (even : Bool) (low value high : Ratio) (e : Int) : Option Digits :=
  let below := value.floorAt e
  let above := below + 1
  let belowIn := inside even low high (.scale10 below e)
  let aboveIn := inside even low high (.scale10 above e)
  -- Half-way between the neighbours lies a point of the next finer grid.
  let middle := Ratio.scale10 (below * 10 + 5) (e - 1)
  let preferBelow := value.lt middle || (!middle.lt value && below % 2 == 0)
  if belowIn && (preferBelow || !aboveIn) then some ⟨below, e⟩
  else if aboveIn then some ⟨above, e⟩
  else none

/-- The first hit over grids of more and more digits. Seventeen always suffice. -/
def search (even : Bool) (low value high : Ratio) (leading : Int) : (count tries : Nat) → Digits
  | count, 0 => ⟨value.floorAt (leading - count), leading - count⟩
  | count, tries + 1 =>
    match onGrid even low value high (leading - count) with
    | some found => found
    | none => search even low value high leading (count + 1) tries

/-- Drops trailing zero digits, at most `tries` of them. -/
def Digits.trimmed (d : Digits) : (tries : Nat) → Digits
  | 0 => d
  | tries + 1 =>
    if d.digits % 10 = 0 ∧ d.digits ≠ 0 then
      Digits.trimmed ⟨d.digits / 10, d.exponent + 1⟩ tries
    else d

/-- The fewest digits that read back as `b`. -/
def shortest (b : Binary) : Digits :=
  if b.mantissa = 0 then ⟨0, 0⟩
  else
    -- In quarters of the last bit the ends of the interval are whole numbers.
    let value := Ratio.scale2 (4 * b.mantissa) (b.exponent - 2)
    let high := Ratio.scale2 (4 * b.mantissa + 2) (b.exponent - 2)
    let low := Ratio.scale2 (4 * b.mantissa - if b.lowerIsNearer then 1 else 2) (b.exponent - 2)
    (search (b.mantissa % 2 == 0) low value high value.leading 0 17).trimmed 20

/-- How a decimal is laid out. -/
structure Layout where
  /-- The point may stand at most this many digits after the first one. -/
  widest : Int
  /-- The point may stand at most this many places before the first digit. -/
  deepest : Int
  /-- What follows a whole number. -/
  wholeEnd : String
  /-- What stands before an exponent that is not negative. -/
  upward : String

/-- Text of a decimal: positional where the layout allows it, with an exponent elsewhere. -/
def Layout.text (layout : Layout) (d : Digits) : String :=
  let digits := Nat.toDigits 10 d.digits
  let point := (digits.length : Int) + d.exponent
  let zeros (n : Int) := List.replicate n.toNat '0'
  if 0 ≤ d.exponent ∧ point ≤ layout.widest then
    String.ofList (digits ++ zeros d.exponent) ++ layout.wholeEnd
  else if 0 < point ∧ point ≤ layout.widest then
    String.ofList (digits.take point.toNat ++ ['.'] ++ digits.drop point.toNat)
  else if -layout.deepest < point ∧ point ≤ 0 then
    String.ofList (['0', '.'] ++ zeros (-point) ++ digits)
  else
    let fraction := if digits.length = 1 then [] else '.' :: digits.drop 1
    let sign := if 0 < point then layout.upward else ""
    String.ofList (digits.take 1 ++ fraction) ++ "e" ++ sign ++ toString (point - 1)

/-- Text of a double in a layout, with its sign. -/
def Layout.double (layout : Layout) (bits : UInt64) : String :=
  match Binary.ofBits? bits with
  | none =>
    if bits.toNat % hiddenBit ≠ 0 then "NaN"
    else if bits.toNat / signBit = 1 then "-inf" else "inf"
  | some b =>
    (if b.negative then "-" else "") ++
      (if b.mantissa = 0 then "0" ++ layout.wholeEnd else layout.text (shortest b))

end MessageFlow.Decimal
