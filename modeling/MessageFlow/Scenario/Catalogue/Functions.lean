import MessageFlow.Composer
import MessageFlow.Scenario.Types

/-!
# Stage functions by name

Functions that a description of a flow can name: transformations, predicates, ways to split, and
routing keys, each for the payload types it is made for, and some for every type. All of them note
their name and their input in the journal before they do anything else. Arithmetic wraps at the
width of its type; comparisons are between integers of any size.
-/

namespace MessageFlow.Scenario.Catalogue

/-- The parameters of a named function. -/
structure Arguments where
  number : Int
  text : String
  /-- Counts the calls of the function. -/
  counter : Nat

/-- Notes that a function was called. -/
def noting {α β : Type} (name : String) (toPayload : α → Payload) (f : α → Run β) : α → Run β :=
  fun a => do
    Run.note (.called name (toPayload a))
    f a

/-! ## Transformations -/

/-- A transformation of payloads of a type. -/
structure Transformation (input : DataType) where
  output : DataType
  apply : input.denote → Run (Except Cause output.denote)

/-- A transformation that cannot fail. -/
def Transformation.ofFunction {input : DataType} (output : DataType)
    (f : input.denote → output.denote) : Transformation input :=
  ⟨output, fun a => return .ok (f a)⟩

/-- The number that a text stands for: decimal digits after at most one sign, within 32 bits. -/
def parsed? (s : String) : Option Int32 := do
  let (negative, digits) :=
    match s.toList with
    | '-' :: rest => (true, rest)
    | '+' :: rest => (false, rest)
    | rest => (false, rest)
  if digits.isEmpty || !digits.all Char.isDigit then none
  else
    let magnitude : Int := digits.foldl (fun n c => n * 10 + (c.toNat - '0'.toNat : Nat)) 0
    let n := if negative then -magnitude else magnitude
    if Int32.minValue.toInt ≤ n ∧ n ≤ Int32.maxValue.toInt then some (Int32.ofInt n) else none

def sum (numbers : List Int32) : Int32 :=
  numbers.foldl (· + ·) 0

/-- Fails the first `limit` calls, and passes the value on from then on. -/
def flaky {α : Type} (counter : Nat) (limit : Int) (a : α) : Run (Except Cause α) := do
  let call ← Run.count counter
  return if call < limit then .error (.text ("failure " ++ toString call)) else .ok a

/-- The transformation of a name, for payloads of a type. -/
def transformation? (args : Arguments) :
    (input : DataType) → (name : String) → Option (Transformation input)
  | .i32, "add" => some (.ofFunction .i32 fun x => x + Int32.ofInt args.number)
  | .i32, "mul" => some (.ofFunction .i32 fun x => x * Int32.ofInt args.number)
  | .i32, "to_string" => some (.ofFunction .string fun x => toString x.toInt)
  | .i32, "to_i64" => some (.ofFunction .i64 fun x => x.toInt64)
  | .i32, "fail_neg" => some ⟨.i32, fun x =>
      return if x < 0 then .error (.text ("negative: " ++ toString x.toInt)) else .ok x⟩
  | .i64, "add" => some (.ofFunction .i64 fun x => x + Int64.ofInt args.number)
  | .size, "add" => some (.ofFunction .size fun x => x + UInt64.ofInt args.number)
  | .u32, "to_u64" => some (.ofFunction .u64 fun x => x.toUInt64)
  | .string, "upper" => some (.ofFunction .string fun s => s.map Char.toUpper)
  | .string, "append" => some (.ofFunction .string fun s => s ++ args.text)
  | .string, "rev" => some (.ofFunction .string fun s => String.ofList s.toList.reverse)
  | .string, "len" => some (.ofFunction .size fun s => UInt64.ofNat s.utf8ByteSize)
  | .string, "to_bytes" => some (.ofFunction .bytes fun s => s.toUTF8.toList)
  | .string, "to_value" => some (.ofFunction .json Json.string)
  | .string, "parse" => some ⟨.i32, fun s =>
      return match parsed? s with
        | some n => .ok n
        | none => .error (.text ("not a number: " ++ s))⟩
  | .literal, "to_string" => some (.ofFunction .string fun s => s)
  | .bytes, "len" => some (.ofFunction .size fun bytes => UInt64.ofNat bytes.length)
  | .ints, "sum" => some (.ofFunction .i32 sum)
  | .json, "get" => some (.ofFunction .json fun document =>
      (document.member? args.text).getD .null)
  | .order, "id_of" => some (.ofFunction .u32 Order.id)
  | .order, "region_of" => some (.ofFunction .string Order.region)
  | input, "id" => some (.ofFunction input id)
  | input, "fail" => some ⟨input, fun _ => return .error (.text args.text)⟩
  | input, "flaky" => some ⟨input, flaky args.counter args.number⟩
  | _, _ => none

/-- The transformation of a name, which notes its calls. -/
def notedTransformation? (args : Arguments) (input : DataType) (name : String) :
    Option (Transformation input) :=
  (transformation? args input name).map fun t =>
    { t with apply := noting name (.of input) t.apply }

/-! ## Predicates -/

/-- Whether a list occurs in another. -/
def occursIn (part : List Char) : List Char → Bool
  | [] => part.isEmpty
  | c :: rest => part.isPrefixOf (c :: rest) || occursIn part rest

/-- The predicate of a name, for payloads of a type. -/
def predicate? (args : Arguments) :
    (input : DataType) → (name : String) → Option (input.denote → Bool)
  | .i32, "gt" => some fun x => decide (args.number < x.toInt)
  | .i32, "even" => some fun x => x % 2 == 0
  | .size, "gt" => some fun x => decide (args.number < x.toNat)
  | .string, "nonempty" => some fun s => s != ""
  | .string, "contains" => some fun s => occursIn args.text.toList s.toList
  | .ints, "nonempty" => some fun numbers => !numbers.isEmpty
  | .order, "amount_gt" => some fun order => decide (args.number < order.amount.toInt)
  | _, "true" => some fun _ => true
  | _, "false" => some fun _ => false
  | _, _ => none

/-- The predicate of a name, which notes its calls. -/
def notedPredicate? (args : Arguments) (input : DataType) (name : String) :
    Option (input.denote → Run Bool) :=
  (predicate? args input name).map fun accepts =>
    noting name (.of input) fun a => return accepts a

/-! ## Splitting -/

/-- A way to split payloads of a type. -/
structure Splitting (input : DataType) where
  item : DataType
  apply : input.denote → List item.denote

/-- The way to split of a name, for payloads of a type. -/
def splitting? : (input : DataType) → (name : String) → Option (Splitting input)
  | .string, "csv" => some ⟨.string, fun s => s.splitOn ","⟩
  | .string, "chars" => some ⟨.char, String.toList⟩
  | .i32, "range" => some ⟨.i32, fun x => (List.range x.toInt.toNat).map Int32.ofNat⟩
  | .ints, "each" => some ⟨.i32, id⟩
  | .strings, "each" => some ⟨.string, id⟩
  | .json, "elems" => some ⟨.json, fun document =>
      match document with
      | .array items => items
      | other => [other]⟩
  | input, "none" => some ⟨input, fun _ => []⟩
  | input, "dup" => some ⟨input, fun a => [a, a]⟩
  | _, _ => none

/-- The way to split of a name, noting its calls. -/
def notedSplitting? (input : DataType) (name : String) :
    Option ((item : DataType) × (input.denote → Run (List item.denote))) :=
  (splitting? input name).map fun s =>
    ⟨s.item, noting name (.of input) fun a => return s.apply a⟩

/-! ## Routing keys -/

/-- A routing key of payloads of a type. -/
structure RouteKey (input : DataType) where
  key : KeyType
  apply : input.denote → key.denote

/-- The routing key of a name, for payloads of a type. -/
def routeKey? (args : Arguments) : (input : DataType) → (name : String) → Option (RouteKey input)
  | .i32, "parity" => some ⟨.string, fun x => if x % 2 == 0 then "even" else "odd"⟩
  | .i32, "value" => some ⟨.i32, id⟩
  | .i32, "positive" => some ⟨.bool, fun x => decide (0 < x)⟩
  | .i32, "sign" => some ⟨.literal, fun x =>
      if x < 0 then "negative" else if x == 0 then "zero" else "positive"⟩
  | .size, "value" => some ⟨.size, id⟩
  | .string, "self" => some ⟨.string, id⟩
  | .string, "first" => some ⟨.char, fun s => s.toList.headD '?'⟩
  | .order, "region" => some ⟨.string, Order.region⟩
  | _, "const" => some ⟨.string, fun _ => args.text⟩
  | _, _ => none

/-- A routing key, noting its calls. -/
def notedRouteKey {input : DataType} (name : String) (route : RouteKey input) :
    input.denote → Run route.key.denote :=
  noting name (.of input) fun a => return route.apply a

/-! ## Consumers and whole payloads -/

/-- A consumer, which only notes its calls. -/
def consumer (input : DataType) : input.denote → Run Unit :=
  noting "handle" (.of input) fun _ => return ()

/-- The transformation of whole payloads of a name. -/
def payloadFunction? (args : Arguments) : (name : String) → Option (Payload → Run Payload)
  | "id" => some fun p => return p
  | "type_name" => some fun p => return .of .string p.type.name
  | "sum" => some fun p => return .of .i32 (((p.as? .ints).map sum).getD (-1))
  | "closed" => some fun _ => throw (.channelClosed args.text)
  | _ => none

/-- The transformation of whole payloads of a name, which notes its calls. -/
def notedPayloadFunction? (args : Arguments) (name : String) : Option (Payload → Run Payload) :=
  (payloadFunction? args name).map (noting name id)

/-- The predicate on whole payloads of a name. -/
def payloadPredicate? : (name : String) → Option (Payload → Bool)
  | "true" => some fun _ => true
  | "false" => some fun _ => false
  | "nonempty" => some fun p => (p.as? .ints).any fun numbers => !numbers.isEmpty
  | _ => none

/-- The predicate on whole payloads of a name, which notes its calls. -/
def notedPayloadPredicate? (name : String) : Option (Payload → Run Bool) :=
  (payloadPredicate? name).map fun accepts => noting name id fun p => return accepts p

end MessageFlow.Scenario.Catalogue
