import MessageFlow.Failure
import MessageFlow.Json.Decoder

/-!
# Data types

The types a payload can have. The library itself knows a few of them: the texts, bytes and documents
that it decodes, the failures that it sends, and payloads as they are. All others belong to the
program that uses it, which says what they are (`PayloadTypes`). A type is a code with decidable
equality; `denote` gives the values it stands for. Stage functions are typed by these codes, and the
same codes serve at run time to check that a payload holds what a stage declares.

Types are told apart by their codes, and by nothing else: two of them may bear one name, as two
versions of a type may in a program.
-/

namespace MessageFlow

/-- The types that a program adds to those of the library. -/
class PayloadTypes where
  Code : Type
  [equal : DecidableEq Code]
  /-- The values of a type. -/
  denote : Code → Type
  /-- The full name of a type, as diagnostics show it. -/
  name : Code → String
  /-- How values of a type are decoded from JSON; none for types that have no JSON form. -/
  decoder? : (code : Code) → Option (Json.Decoder (denote code))

attribute [reducible] PayloadTypes.denote

variable [PayloadTypes]

instance : DecidableEq PayloadTypes.Code :=
  PayloadTypes.equal

/-- The code of a payload's type. -/
inductive DataType where
  | string
  /-- Texts fixed when the program was built. -/
  | literal
  | bytes
  | json
  /-- A failure that was sent as a message. -/
  | failure
  /-- The payload itself, whatever it holds: what pass-through stages declare. -/
  | payload
  /-- A type of the program. -/
  | custom (code : PayloadTypes.Code)
  deriving DecidableEq

namespace DataType

/-- The values of a type. The payload itself is a name without values. -/
@[reducible] def denote : DataType → Type
  | string => String
  | literal => String
  | bytes => List UInt8
  | json => Json
  | failure => Failure
  | payload => Empty
  | custom code => PayloadTypes.denote code

/-- The full name of a type, as diagnostics show it. -/
def name : DataType → String
  | string => "alloc::string::String"
  | literal => "&str"
  | bytes => "alloc::vec::Vec<u8>"
  | json => "serde_json::value::Value"
  | failure => "weaveflow::error::FlowError"
  | payload => "weaveflow::message::Payload"
  | custom code => PayloadTypes.name code

/-- The type as a value: `TypeDescriptor(name)`. -/
def inspect (type : DataType) : String :=
  Text.Inspect.variant "TypeDescriptor" type.name

open Json.Decoder in
/-- How values of a type are decoded from JSON; none for types that have no JSON form. -/
def decoder? : (type : DataType) → Option (Json.Decoder type.denote)
  | string => some Json.Decoder.string
  | bytes => some (list (unsigned "u8" UInt8.size UInt8.ofInt))
  | json => some tree
  | custom code => PayloadTypes.decoder? code
  | literal | failure | payload => none

end DataType

end MessageFlow
