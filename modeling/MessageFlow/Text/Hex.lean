/-!
# Hexadecimal text

Lower-case hexadecimal, most significant digit first, of a fixed width or of a least one, and the
value of a digit read back. `ofDigits_fixed` ties the two together: reading a fixed-width text gives
back the number, up to the digits that did not fit.
-/

namespace MessageFlow.Text.Hex

/-- The `width` lowest hexadecimal digits of `n`, most significant first. -/
def fixed : (width n : Nat) → List Char
  | 0, _ => []
  | width + 1, n => fixed width (n / 16) ++ [Nat.digitChar (n % 16)]

/-- All hexadecimal digits of `n`, with zeros before them up to a width. -/
def padded (width n : Nat) : List Char :=
  let digits := Nat.toDigits 16 n
  List.replicate (width - digits.length) '0' ++ digits

/-- The value of a hexadecimal digit of either case. -/
def digit? (c : Char) : Option Nat :=
  if '0' ≤ c ∧ c ≤ '9' then some (c.toNat - '0'.toNat)
  else if 'a' ≤ c ∧ c ≤ 'f' then some (c.toNat - 'a'.toNat + 10)
  else if 'A' ≤ c ∧ c ≤ 'F' then some (c.toNat - 'A'.toNat + 10)
  else none

/-- Whether `c` is a digit that `fixed` writes. -/
def isLower (c : Char) : Bool :=
  ('0' ≤ c && c ≤ '9') || ('a' ≤ c && c ≤ 'f')

/-- The number that a text of lower-case hexadecimal digits stands for. -/
def ofDigits? (cs : List Char) : Option Nat :=
  cs.foldl (fun acc c => do
    let n ← acc
    if isLower c then some (n * 16 + (← digit? c)) else none) (some 0)

@[simp] theorem length_fixed (width n : Nat) : (fixed width n).length = width := by
  induction width generalizing n with
  | zero => rfl
  | succ width ih => simp [fixed, ih]

/-- A digit is read back. -/
theorem digit?_digitChar : ∀ n < 16, digit? (Nat.digitChar n) = some n := by decide

theorem isLower_digitChar : ∀ n < 16, isLower (Nat.digitChar n) = true := by decide

/-- A fixed-width text reads back as the number's remainder at that width. -/
theorem ofDigits_fixed (width n : Nat) :
    ofDigits? (fixed width n) = some (n % Nat.pow 16 width) := by
  induction width generalizing n with
  | zero => simp [fixed, ofDigits?, Nat.mod_one]
  | succ width ih =>
    have hlt : n % 16 < 16 := Nat.mod_lt _ (by decide)
    have hstep := ih (n / 16)
    unfold ofDigits? at hstep ⊢
    rw [fixed, List.foldl_append, hstep]
    simp only [List.foldl_cons, List.foldl_nil, Option.bind_eq_bind, Option.bind_some,
      isLower_digitChar _ hlt, digit?_digitChar _ hlt, if_true]
    congr 1
    have hsplit : Nat.pow 16 (width + 1) = 16 * Nat.pow 16 width := Nat.mul_comm _ _
    rw [hsplit, Nat.mod_mul]
    omega

end MessageFlow.Text.Hex
