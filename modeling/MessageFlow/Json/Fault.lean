import MessageFlow.Decimal.Shortest
import MessageFlow.Text.Inspect

/-!
# What can be wrong with a document

The causes for which reading or decoding a JSON document fails, the place where it failed, and the
one function that words them.
-/

namespace MessageFlow.Json

/-- What stood where something else was expected. -/
inductive Found where
  | null
  | bool (b : Bool)
  | integer (n : Int)
  | double (bits : UInt64)
  | string (s : String)
  | sequence
  | map
  deriving DecidableEq, Repr

/-- A line, counted from one, and the number of bytes before the place on that line. -/
structure Position where
  line : Nat
  column : Nat
  deriving DecidableEq, Repr

/-- Why a document was refused. -/
inductive Fault where
  | endInValue
  | endInList
  | endInObject
  | endInString
  | noValue
  | noIdent
  | trailingCharacters
  | trailingComma
  | badNumber
  | numberOutOfRange
  | noListCommaOrEnd
  | noObjectCommaOrEnd
  | noColon
  | keyNotString
  | controlCharacter
  | badEscape
  | badCodePoint
  | loneSurrogate
  | endOfHexEscape
  | tooDeep
  | missingField (name : String)
  | duplicateField (name : String)
  | wrongType (found : Found) (expected : String)
  | wrongValue (found : Found) (expected : String)
  | wrongLength (length : Nat) (expected : String)
  deriving DecidableEq, Repr

/-- A fault, and where it was noticed; a document that is already a tree has no places. -/
structure Refusal where
  fault : Fault
  place : Option Position
  deriving DecidableEq, Repr

/-- Doubles in diagnostics: positional while the point stands at most 16 digits after the first
digit or 4 zeros before it, and always recognisable as a double. An exponent always has its sign and
no leading zero. -/
def diagnosticLayout : Decimal.Layout :=
  ⟨16, 5, ".0", "+"⟩

def Found.text : Found → String
  | .null => "null"
  | .bool true => "boolean `true`"
  | .bool false => "boolean `false`"
  | .integer n => "integer `" ++ toString n ++ "`"
  | .double bits => "floating point `" ++ diagnosticLayout.double bits ++ "`"
  | .string s => "string " ++ Text.Inspect.quoted s
  | .sequence => "sequence"
  | .map => "map"

/-- Wording of a fault, without its place. -/
def Fault.text : Fault → String
  | .endInValue => "EOF while parsing a value"
  | .endInList => "EOF while parsing a list"
  | .endInObject => "EOF while parsing an object"
  | .endInString => "EOF while parsing a string"
  | .noValue => "expected value"
  | .noIdent => "expected ident"
  | .trailingCharacters => "trailing characters"
  | .trailingComma => "trailing comma"
  | .badNumber => "invalid number"
  | .numberOutOfRange => "number out of range"
  | .noListCommaOrEnd => "expected `,` or `]`"
  | .noObjectCommaOrEnd => "expected `,` or `\x7d`"
  | .noColon => "expected `:`"
  | .keyNotString => "key must be a string"
  | .controlCharacter => "control character (\\u0000-\\u001F) found while parsing a string"
  | .badEscape => "invalid escape"
  | .badCodePoint => "invalid unicode code point"
  | .loneSurrogate => "lone leading surrogate in hex escape"
  | .endOfHexEscape => "unexpected end of hex escape"
  | .tooDeep => "recursion limit exceeded"
  | .missingField name => "missing field `" ++ name ++ "`"
  | .duplicateField name => "duplicate field `" ++ name ++ "`"
  | .wrongType found expected => "invalid type: " ++ found.text ++ ", expected " ++ expected
  | .wrongValue found expected => "invalid value: " ++ found.text ++ ", expected " ++ expected
  | .wrongLength length expected =>
    "invalid length " ++ toString length ++ ", expected " ++ expected

/-- Wording of a refusal: the fault, then its place if it has one. -/
def Refusal.message (r : Refusal) : String :=
  match r.place with
  | none => r.fault.text
  | some p => r.fault.text ++ " at line " ++ toString p.line ++ " column " ++ toString p.column

end MessageFlow.Json
