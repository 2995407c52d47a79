import MessageFlow.Json.Reader

/-!
# Typed decoding

A decoder reads one type of value from JSON in two ways: from text, where every fault has a place,
and from a tree that was read before, where none has. Decoders are built from three shapes:
scalars, lists and records. A scalar judges the document it is given by one function, so that both
ways accept the same scalars and refuse the others with the same fault. A program may have decoders
of other shapes, and the two ways need not agree for them.
-/

namespace MessageFlow.Json

/-- How one type is read, from text and from a tree. -/
structure Decoder (α : Type) where
  read : Reader α
  ofTree : Json → Except Fault α

/-- What a document is, for diagnostics. -/
def found : Json → Found
  | .null => .null
  | .bool b => .bool b
  | .number (.natural n) => .integer n.toNat
  | .number (.negative n) => .integer n.toInt
  | .number (.double bits) => .double bits
  | .string s => .string s
  | .array _ => .sequence
  | .object _ => .map

namespace Reader

/-- Refuses at the cursor if the judgement on a value was a fault. -/
def judged {α : Type} : Except Fault α → Reader α
  | .ok a => return a
  | .error fault => failHere fault

/-- Refuses the value that starts here, which is not of the expected kind: a scalar after it has
been read, a compound value before its bracket. -/
def mismatch {α : Type} (expected : String) : Reader α := do
  match ← scalar? with
  | some v => failHere (.wrongType v.found expected)
  | none =>
    let kind : Found := if (← peek) == some 0x5B then .sequence else .map
    failHere (.wrongType kind expected)

end Reader

namespace Decoder

def fromBytes {α : Type} (d : Decoder α) (bytes : List UInt8) : Except Refusal α :=
  Reader.whole d.read bytes

def fromTree {α : Type} (d : Decoder α) (v : Json) : Except Refusal α :=
  (d.ofTree v).mapError fun fault => ⟨fault, none⟩

/-- Decodes a value that is not compound by one judgement. `expected` words what is asked for. -/
def scalar {α : Type} (expected : String) (judge : Json → Option (Except Fault α)) : Decoder α where
  read := do
    match ← Reader.scalar? with
    | some v => Reader.judged ((judge v).getD (.error (.wrongType v.found expected)))
    | none => Reader.mismatch expected
  ofTree v :=
    match v with
    | .array _ | .object _ => .error (.wrongType v.found expected)
    | v => (judge v).getD (.error (.wrongType v.found expected))

/-- Nothing but `null`. -/
def unit : Decoder Unit :=
  scalar "unit" fun
    | .null => some (.ok ())
    | _ => none

def bool : Decoder Bool :=
  scalar "a boolean" fun
    | .bool b => some (.ok b)
    | _ => none

/-- An integer between two bounds. -/
def integer {α : Type} (expected : String) (low high : Int) (ofInt : Int → α) : Decoder α :=
  let bounded (n : Int) : Except Fault α :=
    if low ≤ n ∧ n ≤ high then .ok (ofInt n) else .error (.wrongValue (.integer n) expected)
  scalar expected fun
    | .number (.natural n) => some (bounded n.toNat)
    | .number (.negative n) => some (bounded n.toInt)
    | _ => none

/-- An integer of an unsigned type that has `size` values. -/
def unsigned {α : Type} (expected : String) (size : Nat) (ofInt : Int → α) : Decoder α :=
  integer expected 0 (size - 1) ofInt

/-- An integer of a signed type that has `size` values, half of them negative. -/
def signed {α : Type} (expected : String) (size : Nat) (ofInt : Int → α) : Decoder α :=
  integer expected (-(size / 2)) (size / 2 - 1) ofInt

/-- A double, of which only the bits are kept. Integers are rounded to the nearest double. -/
def double : Decoder UInt64 :=
  scalar "f64" fun
    | .number (.natural n) => some (.ok n.toFloat.toBits)
    | .number (.negative n) => some (.ok n.toFloat.toBits)
    | .number (.double bits) => some (.ok bits)
    | _ => none

def string : Decoder String :=
  scalar "a string" fun
    | .string s => some (.ok s)
    | _ => none

/-- A string of one character. -/
def char : Decoder Char :=
  scalar "a character" fun
    | .string s =>
      match s.toList with
      | [c] => some (.ok c)
      | _ => some (.error (.wrongValue (.string s) "a character"))
    | _ => none

/-- `null`, or what `d` decodes. -/
def option {α : Type} (d : Decoder α) : Decoder (Option α) where
  read := do
    match ← Reader.blanks with
    | some 0x6E =>
      Reader.skip
      Reader.word [0x75, 0x6C, 0x6C]
      return none
    | _ => return some (← d.read)
  ofTree
    | .null => .ok none
    | v => (d.ofTree v).map some

/-- An array of what `d` decodes. -/
def list {α : Type} (d : Decoder α) : Decoder (List α) where
  read := do
    match ← Reader.blanks with
    | some 0x5B =>
      Reader.skip
      Reader.items d.read (← Reader.remaining) true
    | _ => Reader.mismatch "a sequence"
  ofTree
    | .array items => items.mapM d.ofTree
    | v => .error (.wrongType v.found "a sequence")

def tree : Decoder Json where
  read := Reader.value
  ofTree v := .ok v

end Decoder

/-- One field of a record that is filled in step by step: its name, whether a partial record holds
it already, and how its value is decoded into the partial record. -/
structure Field (σ : Type) where
  name : String
  held : σ → Bool
  decoder : Decoder (σ → σ)

/-- The field that is decoded by `d` into a slot of the partial record. -/
def Field.slot {σ α : Type} (name : String) (d : Decoder α) (get : σ → Option α)
    (set : α → σ → σ) : Field σ where
  name := name
  held s := (get s).isSome
  decoder := { read := return set (← d.read), ofTree := fun v => (d.ofTree v).map set }

/-- How a record is decoded: from an object, whose unknown members are skipped, or from an array
that holds the fields in order. -/
structure RecordShape (σ α : Type) where
  /-- Wording of the record for diagnostics. -/
  expected : String
  fields : List (Field σ)
  /-- Nothing is filled in yet. -/
  empty : σ
  /-- The record, once an object has ended. -/
  ofObject : σ → Except Fault α
  /-- The record, once an array has ended that filled in this many fields. -/
  ofArray : σ → Nat → Except Fault α

namespace RecordShape

variable {σ α : Type} (shape : RecordShape σ α)

/-- Where a fault of the record as a whole is noticed: after the bracket that closes it, if that is
what follows. -/
def closing (close : UInt8) : Reader Unit := do
  if (← Reader.blanks) == some close then Reader.skip

/-- Ends the record: the closing bracket is consumed before a fault is raised. -/
def judgedAfter (close : UInt8) (judgement : Except Fault α) : Reader α := do
  closing close
  Reader.judged judgement

/-- Reads the members of an object. -/
def readMembers : (bound : Nat) → (first : Bool) → σ → Reader α
  | 0, _, _ => Reader.failHere .endInObject
  | bound + 1, first, s => do
    if ← Reader.nextMember first then
      let name ← Reader.string
      match shape.fields.find? (·.name == name) with
      | none =>
        Reader.colon
        Reader.skipOne
        readMembers bound false s
      | some field =>
        -- A second value is refused unread.
        if field.held s then judgedAfter 0x7D (.error (.duplicateField name))
        else
          Reader.colon
          let fill ← field.decoder.read
          readMembers bound false (fill s)
    else judgedAfter 0x7D (shape.ofObject s)

/-- Reads the fields of an array. Nothing may follow the last one. -/
def readItems : List (Field σ) → (first : Bool) → (count : Nat) → σ → Reader α
  | [], _, count, s => do
    match shape.ofArray s count with
    | .error fault => judgedAfter 0x5D (.error fault)
    | .ok a =>
      match ← Reader.blanks with
      | none => Reader.failAhead .endInList
      | some 0x5D =>
        Reader.skip
        return a
      | some 0x2C =>
        Reader.skip
        if (← Reader.blanks) == some 0x5D then Reader.failAhead .trailingComma
        else Reader.failAhead .trailingCharacters
      | some _ => Reader.failAhead .trailingCharacters
  | field :: rest, first, count, s => do
    if ← Reader.nextItem first then
      let fill ← field.decoder.read
      readItems rest false (count + 1) (fill s)
    else judgedAfter 0x5D (shape.ofArray s count)

/-- The members of an object tree, in order. -/
def ofMembers (s : σ) : List (String × Json) → Except Fault σ
  | [] => .ok s
  | (name, v) :: rest =>
    match shape.fields.find? (·.name == name) with
    | none => ofMembers s rest
    | some field =>
      if field.held s then .error (.duplicateField name)
      else
        match field.decoder.ofTree v with
        | .error fault => .error fault
        | .ok fill => ofMembers (fill s) rest

/-- The items of an array tree, at most one a field. -/
def ofItems (total : Nat) : List (Field σ) → List Json → Nat → σ → Except Fault α
  | _, [], count, s => shape.ofArray s count
  | [], _ :: _, count, s =>
    match shape.ofArray s count with
    | .error fault => .error fault
    | .ok _ => .error (.wrongLength total "fewer elements in array")
  | field :: fields, v :: rest, count, s =>
    match field.decoder.ofTree v with
    | .error fault => .error fault
    | .ok fill => ofItems total fields rest (count + 1) (fill s)

def decoder : Decoder α where
  read := do
    match ← Reader.blanks with
    | some 0x7B =>
      Reader.skip
      shape.readMembers (← Reader.remaining) true shape.empty
    | some 0x5B =>
      Reader.skip
      shape.readItems shape.fields true 0 shape.empty
    | _ => Reader.mismatch shape.expected
  ofTree
    | .object members => do shape.ofObject (← shape.ofMembers shape.empty members)
    | .array items => shape.ofItems items.length shape.fields items 0 shape.empty
    | v => .error (.wrongType v.found shape.expected)

end RecordShape

end MessageFlow.Json
