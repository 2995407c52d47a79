import MessageFlow.Routing

/-!
# A sample program

The payload types of a small program: enough of them to run the flows of the examples that stand
beside the theorems. One of them is decoded as derived decoders are not: integers of 128 bits, of
which a text spells all digits, while a document that was read keeps those beyond 64 bits as
doubles.
-/

namespace MessageFlow.Sample

/-- How many of an item were sold. -/
structure Sale where
  item : String
  count : Int32
  deriving DecidableEq

namespace Sale

/-- A sale whose fields are filled in one by one. -/
structure Draft where
  item : Option String
  count : Option Int32

/-- The sale, once every field is there; otherwise the first missing one is reported. -/
def Draft.finish (d : Draft) : Except Json.Fault Sale :=
  match d.item, d.count with
  | some item, some count => .ok ⟨item, count⟩
  | none, _ => .error (.missingField "item")
  | _, none => .error (.missingField "count")

def shape : Json.RecordShape Draft Sale where
  expected := "struct Sale"
  fields :=
    [ .slot "item" Json.Decoder.string (·.item) fun v d => { d with item := some v },
      .slot "count" (Json.Decoder.signed "i32" Int32.size Int32.ofInt) (·.count)
        fun v d => { d with count := some v } ]
  empty := ⟨none, none⟩
  ofObject := Draft.finish
  ofArray d count :=
    match d.finish with
    | .ok sale => .ok sale
    | .error _ => .error (.wrongLength count "struct Sale with 2 elements")

def decoder : Json.Decoder Sale :=
  shape.decoder

end Sale

/-- How many integers of 128 bits there are. -/
def wideSize : Nat := UInt64.size * UInt64.size

open Json.Reader in
/-- The digits of an integer of 128 bits, after its sign. No zero stands before another digit. -/
def readWide (negative : Bool) : Json.Reader Int := do
  match (← next).bind digit? with
  | none => failHere .badNumber
  | some 0 =>
    match ← peekDigit with
    | some _ => failAhead .badNumber
    | none => return 0
  | some d =>
    let (magnitude, _) ← takeDigits wideSize (← remaining) d
    let dropped ← skipDigits (← remaining)
    let n : Int := if negative then -magnitude else magnitude
    if dropped = 0 ∧ -(wideSize / 2 : Nat) ≤ n ∧ n < (wideSize / 2 : Nat) then return n
    else failHere .numberOutOfRange

open Json.Reader in
/-- Integers of 128 bits. -/
def wideDecoder : Json.Decoder Int where
  read := do
    match ← blanks with
    | none => failAhead .endInValue
    | some 0x2D =>
      skip
      readWide true
    | some _ => readWide false
  ofTree := (Json.Decoder.signed "i128" wideSize id).ofTree

/-- The types of the sample program. -/
inductive Code where
  | flag
  | number
  /-- Integers of 128 bits. -/
  | wide
  | numbers
  | texts
  | sale
  /-- A service known by name only. -/
  | checker
  deriving DecidableEq

namespace Code

@[reducible] def denote : Code → Type
  | flag => Bool
  | number => Int32
  | wide => Int
  | numbers => List Int32
  | texts => List String
  | sale => Sale
  | checker => Empty

def name : Code → String
  | flag => "bool"
  | number => "i32"
  | wide => "i128"
  | numbers => "alloc::vec::Vec<i32>"
  | texts => "alloc::vec::Vec<alloc::string::String>"
  | sale => "Sale"
  | checker => "Checker"

open Json.Decoder in
def decoder? : (code : Code) → Option (Json.Decoder code.denote)
  | flag => some bool
  | number => some (signed "i32" Int32.size Int32.ofInt)
  | wide => some wideDecoder
  | numbers => some (list (signed "i32" Int32.size Int32.ofInt))
  | texts => some (list string)
  | sale => some Sale.decoder
  | checker => none

end Code

scoped instance types : PayloadTypes where
  Code := Code
  denote := Code.denote
  name := Code.name
  decoder? := Code.decoder?

end MessageFlow.Sample

namespace MessageFlow.DataType

open Sample

@[match_pattern] abbrev flag : DataType := .custom Code.flag
@[match_pattern] abbrev number : DataType := .custom Code.number
@[match_pattern] abbrev wide : DataType := .custom Code.wide
@[match_pattern] abbrev numbers : DataType := .custom Code.numbers
@[match_pattern] abbrev texts : DataType := .custom Code.texts
@[match_pattern] abbrev sale : DataType := .custom Code.sale
@[match_pattern] abbrev checker : DataType := .custom Code.checker

theorem decoder?_number :
    decoder? .number = some (.signed "i32" Int32.size Int32.ofInt) := rfl

end MessageFlow.DataType

namespace MessageFlow.KeyType

open Sample

abbrev flag : KeyType :=
  ⟨.flag, inferInstanceAs (DecidableEq Bool), fun b => if b then "true" else "false"⟩

abbrev number : KeyType :=
  ⟨.number, inferInstanceAs (DecidableEq Int32), fun n => toString n.toInt⟩

end MessageFlow.KeyType
