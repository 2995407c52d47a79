import MessageFlow.Routing

/-!
# The types of scenarios

The payload types that scenarios use besides those of the library: the scalars, lists and options of
them, services known by name only, and a record, the order. Most scalars can be routing keys. Orders
are decoded from objects, or from arrays that hold the three fields in their order.
-/

namespace MessageFlow.Scenario

structure Order where
  id : UInt32
  region : String
  amount : Int64
  deriving DecidableEq, Repr

namespace Order

/-- An order whose fields are filled in one by one. -/
structure Draft where
  id : Option UInt32
  region : Option String
  amount : Option Int64

/-- The order, once every field is there; otherwise the first missing one is reported. -/
def Draft.finish (d : Draft) : Except Json.Fault Order :=
  match d.id, d.region, d.amount with
  | some id, some region, some amount => .ok ⟨id, region, amount⟩
  | none, _, _ => .error (.missingField "id")
  | _, none, _ => .error (.missingField "region")
  | _, _, none => .error (.missingField "amount")

def shape : Json.RecordShape Draft Order where
  expected := "struct Order"
  fields :=
    [ .slot "id" (Json.Decoder.unsigned "u32" UInt32.size UInt32.ofInt) (·.id)
        fun v d => { d with id := some v },
      .slot "region" Json.Decoder.string (·.region) fun v d => { d with region := some v },
      .slot "amount" (Json.Decoder.signed "i64" Int64.size Int64.ofInt) (·.amount)
        fun v d => { d with amount := some v } ]
  empty := ⟨none, none, none⟩
  ofObject := Draft.finish
  ofArray d count :=
    match d.finish with
    | .ok order => .ok order
    | .error _ => .error (.wrongLength count "struct Order with 3 elements")

def decoder : Json.Decoder Order :=
  shape.decoder

end Order

/-- The types of scenarios. -/
inductive Code where
  | unit
  | bool
  | u8
  | i32
  | u32
  | i64
  | u64
  /-- Sizes and indices, of 64 bits. -/
  | size
  /-- Doubles, by their bits. -/
  | double
  | char
  | ints
  | strings
  | optInt
  | order
  /-- A service known by name only. -/
  | service (name : String)
  deriving DecidableEq

namespace Code

/-- The values of a type. Services are names without values. -/
@[reducible] def denote : Code → Type
  | unit => Unit
  | bool => Bool
  | u8 => UInt8
  | i32 => Int32
  | u32 => UInt32
  | i64 => Int64
  | u64 => UInt64
  | size => UInt64
  | double => UInt64
  | char => Char
  | ints => List Int32
  | strings => List String
  | optInt => Option Int32
  | order => Order
  | service _ => Empty

/-- The full name of a type. -/
def name : Code → String
  | unit => "()"
  | bool => "bool"
  | u8 => "u8"
  | i32 => "i32"
  | u32 => "u32"
  | i64 => "i64"
  | u64 => "u64"
  | size => "usize"
  | double => "f64"
  | char => "char"
  | ints => "alloc::vec::Vec<i32>"
  | strings => "alloc::vec::Vec<alloc::string::String>"
  | optInt => "core::option::Option<i32>"
  | order => "oracle_driver::Order"
  | service name => name

open Json.Decoder in
/-- How values of a type are decoded from JSON; none for services. -/
def decoder? : (code : Code) → Option (Json.Decoder code.denote)
  | unit => some Json.Decoder.unit
  | bool => some Json.Decoder.bool
  | u8 => some (unsigned "u8" UInt8.size UInt8.ofInt)
  | i32 => some (signed "i32" Int32.size Int32.ofInt)
  | u32 => some (unsigned "u32" UInt32.size UInt32.ofInt)
  | i64 => some (signed "i64" Int64.size Int64.ofInt)
  | u64 => some (unsigned "u64" UInt64.size UInt64.ofInt)
  | size => some (unsigned "usize" UInt64.size UInt64.ofInt)
  | double => some Json.Decoder.double
  | char => some Json.Decoder.char
  | ints => some (list (signed "i32" Int32.size Int32.ofInt))
  | strings => some (list Json.Decoder.string)
  | optInt => some (option (signed "i32" Int32.size Int32.ofInt))
  | order => some Order.decoder
  | service _ => none

end Code

scoped instance types : PayloadTypes where
  Code := Code
  denote := Code.denote
  name := Code.name
  decoder? := Code.decoder?

end MessageFlow.Scenario

namespace MessageFlow.DataType

open Scenario

@[match_pattern] abbrev unit : DataType := .custom Code.unit
@[match_pattern] abbrev bool : DataType := .custom Code.bool
@[match_pattern] abbrev u8 : DataType := .custom Code.u8
@[match_pattern] abbrev i32 : DataType := .custom Code.i32
@[match_pattern] abbrev u32 : DataType := .custom Code.u32
@[match_pattern] abbrev i64 : DataType := .custom Code.i64
@[match_pattern] abbrev u64 : DataType := .custom Code.u64
@[match_pattern] abbrev size : DataType := .custom Code.size
@[match_pattern] abbrev double : DataType := .custom Code.double
@[match_pattern] abbrev char : DataType := .custom Code.char
@[match_pattern] abbrev ints : DataType := .custom Code.ints
@[match_pattern] abbrev strings : DataType := .custom Code.strings
@[match_pattern] abbrev optInt : DataType := .custom Code.optInt
@[match_pattern] abbrev order : DataType := .custom Code.order
@[match_pattern] abbrev service (name : String) : DataType := .custom (Code.service name)

end MessageFlow.DataType

namespace MessageFlow.KeyType

open Scenario

abbrev bool : KeyType :=
  ⟨.bool, inferInstanceAs (DecidableEq Bool), fun b => if b then "true" else "false"⟩
abbrev u8 : KeyType := ⟨.u8, inferInstanceAs (DecidableEq UInt8), fun n => toString n.toNat⟩
abbrev i32 : KeyType := ⟨.i32, inferInstanceAs (DecidableEq Int32), fun n => toString n.toInt⟩
abbrev u32 : KeyType := ⟨.u32, inferInstanceAs (DecidableEq UInt32), fun n => toString n.toNat⟩
abbrev i64 : KeyType := ⟨.i64, inferInstanceAs (DecidableEq Int64), fun n => toString n.toInt⟩
abbrev u64 : KeyType := ⟨.u64, inferInstanceAs (DecidableEq UInt64), fun n => toString n.toNat⟩
abbrev size : KeyType := ⟨.size, inferInstanceAs (DecidableEq UInt64), fun n => toString n.toNat⟩
abbrev char : KeyType := ⟨.char, inferInstanceAs (DecidableEq Char), String.singleton⟩
abbrev literal : KeyType := ⟨.literal, inferInstanceAs (DecidableEq String), id⟩

/-- The key type whose keys are the values of a payload type. -/
def ofDataType? : DataType → Option KeyType
  | .bool => some bool
  | .u8 => some u8
  | .i32 => some i32
  | .u32 => some u32
  | .i64 => some i64
  | .u64 => some u64
  | .size => some size
  | .char => some char
  | .string => some string
  | .literal => some literal
  | _ => none

end MessageFlow.KeyType
