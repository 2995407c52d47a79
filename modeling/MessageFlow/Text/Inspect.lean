import MessageFlow.Text.Printable

/-!
# Structural text

The text that shows how a value is built: quoted strings, lists, optional values, named variants
and records with their fields. Diagnostics of channels, stages and flows are written with it.
-/

namespace MessageFlow.Text.Inspect

/-- One character inside a quoted text: quotes, backslashes and the common control characters have
short escapes, what cannot be seen on its own is written by number. -/
def quotedChar (c : Char) : List Char :=
  if c = '\x00' then ['\\', '0']
  else if c = '\t' then ['\\', 't']
  else if c = '\r' then ['\\', 'r']
  else if c = '\n' then ['\\', 'n']
  else if c = '"' then ['\\', '"']
  else if c = '\\' then ['\\', '\\']
  else if Printable.standsAlone c then [c]
  else ['\\', 'u', '\x7b'] ++ Nat.toDigits 16 c.toNat ++ ['\x7d']

/-- A text between double quotes, escaped. -/
def quoted (s : String) : String :=
  "\"" ++ String.ofList (s.toList.flatMap quotedChar) ++ "\""

/-- A named variant around one value: `Name(value)`. -/
def variant (name value : String) : String :=
  name ++ "(" ++ value ++ ")"

/-- An optional value, `Some(…)` or `None`. -/
def optional : Option String → String
  | some value => variant "Some" value
  | none => "None"

def list (items : List String) : String :=
  "[" ++ ", ".intercalate items ++ "]"

/-- A record with named fields: `Name \x7b field: value, … \x7d`. -/
def record (name : String) (fields : List (String × String)) : String :=
  name ++ " \x7b " ++ ", ".intercalate (fields.map fun field => field.1 ++ ": " ++ field.2)
    ++ " \x7d"

/-- A truth value, `true` or `false`. -/
def bool (b : Bool) : String :=
  if b then "true" else "false"

/-- The digits of `n` out of `10 ^ places`, without trailing zeros. -/
def decimals : (places n : Nat) → List Char
  | 0, _ => []
  | places + 1, n =>
    if n = 0 then []
    else Nat.digitChar (n / Nat.pow 10 places) :: decimals places (n % Nat.pow 10 places)

/-- A number of units, of which there are `10 ^ places` to a greater one, written in greater ones.
-/
def fractional (places n : Nat) : String :=
  let unit := Nat.pow 10 places
  match decimals places (n % unit) with
  | [] => toString (n / unit)
  | digits => toString (n / unit) ++ "." ++ String.ofList digits

end MessageFlow.Text.Inspect
