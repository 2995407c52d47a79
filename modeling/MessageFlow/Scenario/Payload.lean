import MessageFlow.Json.Access
import MessageFlow.Json.Reader
import MessageFlow.Json.Writer
import MessageFlow.Message.Payload
import MessageFlow.Scenario.Types

/-!
# Payloads in scenarios

A scenario is a JSON document that describes messages, a flow, and what is done with it. In it a
payload is an object of a type tag `t` and a value `v`. Integers of 64 bits are strings of digits,
doubles are their bits in hexadecimal, and parsed documents are their text.
-/

namespace MessageFlow.Scenario

def type? : (tag : String) → Option DataType
  | "unit" => some .unit
  | "bool" => some .bool
  | "u8" => some .u8
  | "i32" => some .i32
  | "u32" => some .u32
  | "i64" => some .i64
  | "u64" => some .u64
  | "usize" => some .size
  | "f64" => some .double
  | "char" => some .char
  | "String" => some .string
  | "str" => some .literal
  | "bytes" => some .bytes
  | "Vec<i32>" => some .ints
  | "Vec<String>" => some .strings
  | "Option<i32>" => some .optInt
  | "Value" => some .json
  | "Order" => some .order
  | "FlowError" => some .failure
  | "Payload" => some .payload
  | _ => none

def tag : DataType → String
  | .unit => "unit"
  | .bool => "bool"
  | .u8 => "u8"
  | .i32 => "i32"
  | .u32 => "u32"
  | .i64 => "i64"
  | .u64 => "u64"
  | .size => "usize"
  | .double => "f64"
  | .char => "char"
  | .string => "String"
  | .literal => "str"
  | .bytes => "bytes"
  | .ints => "Vec<i32>"
  | .strings => "Vec<String>"
  | .optInt => "Option<i32>"
  | .json => "Value"
  | .order => "Order"
  | .failure => "FlowError"
  | .payload => "Payload"
  | .service name => name

/-- The type of the tag that a member holds. -/
def typeAt? (j : Json) (name : String) : Option DataType :=
  (j.textAt? name).bind type?

/-- The integer that a string of digits stands for, or a plain integer. -/
def digits (j : Json) : Int :=
  match j with
  | .string s => s.toInt?.getD 0
  | other => other.int?.getD 0

/-- The document of a text. -/
def parse (s : String) : Except Json.Refusal Json :=
  Json.Reader.whole Json.Reader.value s.toUTF8.toList

def readValue (v : Json) : (type : DataType) → Option type.denote
  | .unit => some ()
  | .bool => v.bool?
  | .u8 => v.int?.map UInt8.ofInt
  | .i32 => v.int?.map Int32.ofInt
  | .u32 => v.int?.map UInt32.ofInt
  | .i64 => some (Int64.ofInt (digits v))
  | .u64 => some (UInt64.ofInt (digits v))
  | .size => some (UInt64.ofInt (digits v))
  | .double => (v.text?.bind fun s => Text.Hex.ofDigits? s.toList).map UInt64.ofNat
  | .char => v.text?.bind fun s => s.toList.head?
  | .string => v.text?
  | .literal => v.text?
  | .bytes => some (v.items.filterMap fun b => b.int?.map UInt8.ofInt)
  | .ints => some (v.items.filterMap fun n => n.int?.map Int32.ofInt)
  | .strings => some (v.items.filterMap Json.text?)
  | .optInt => some (v.int?.map Int32.ofInt)
  | .json => v.text?.bind fun s => (parse s).toOption
  | .order =>
    match v with
    | .array [id, region, amount] =>
      some ⟨UInt32.ofInt (id.int?.getD 0), region.text?.getD "", Int64.ofInt (digits amount)⟩
    | _ => none
  | .failure | .payload | .service _ => none

def readPayload (j : Json) : Payload :=
  let read := do
    let type ← typeAt? j "t"
    let value ← readValue (j.field "v") type
    return Payload.of type value
  read.getD (.of .unit ())

/-- A double by its bits. -/
def bitsText (bits : UInt64) : String :=
  String.ofList (Text.Hex.fixed 16 bits.toNat)

mutual

/-- The document with every double replaced by the text of its bits. -/
def exact : Json → Json
  | .number (.double bits) => .string ("f64:" ++ bitsText bits)
  | .array items => .array (exactItems items)
  | .object members => .object (exactMembers members)
  | .null => .null
  | .bool b => .bool b
  | .number (.natural n) => .number (.natural n)
  | .number (.negative n) => .number (.negative n)
  | .string s => .string s

/-- The items of an array with every double replaced. -/
def exactItems : List Json → List Json
  | [] => []
  | item :: rest => exact item :: exactItems rest

/-- The members of an object with every double replaced. -/
def exactMembers : List (String × Json) → List (String × Json)
  | [] => []
  | (name, value) :: rest => (name, exact value) :: exactMembers rest

end

/-- A failure: its kind, its wording, and the wording of its cause. -/
def failureJson (f : Failure) : Json :=
  .ofMembers <| [("error", .string f.kind.name), ("message", .string f.message)]
    ++ Json.memberOf "source" (fun c => .string c.message) f.cause?

def valueJson : (type : DataType) → type.denote → Json
  | .unit, _ => .null
  | .bool, b => .bool b
  | .u8, n => .ofNat n.toNat
  | .i32, n => .ofInt n.toInt
  | .u32, n => .ofNat n.toNat
  | .i64, n => .string (toString n.toInt)
  | .u64, n => .string (toString n.toNat)
  | .size, n => .string (toString n.toNat)
  | .double, bits => .string (bitsText bits)
  | .char, c => .string (String.singleton c)
  | .string, s => .string s
  | .literal, s => .string s
  | .bytes, bytes => .list (fun b => .ofNat b.toNat) bytes
  | .ints, ns => .list (fun n => .ofInt n.toInt) ns
  | .strings, ss => .list .string ss
  | .optInt, n => .optional (fun n => .ofInt n.toInt) n
  | .json, document => .string (exact document).text
  | .order, o => .array [.ofNat o.id.toNat, .string o.region, .string (toString o.amount.toInt)]
  | .failure, f => failureJson f
  | .payload, e => nomatch e
  | .service _, e => nomatch e

def payloadJson (p : Payload) : Json :=
  .ofMembers [("t", .string (tag p.type)), ("v", valueJson p.type p.value)]

end MessageFlow.Scenario
