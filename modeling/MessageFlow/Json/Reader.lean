import MessageFlow.Json.Numeral
import MessageFlow.Json.Value
import MessageFlow.Json.Words

/-!
# Reading documents

A value read into a tree, a value skipped, and the loops over the items of an array and the
members of an object that every other reader of compound values shares. A tree nests at most
127 brackets deep; a skipped value may nest to any depth.
-/

namespace MessageFlow.Json.Reader

/-- A value that is not compound, if one starts here; otherwise none, with nothing consumed but
blanks. -/
def scalar? : Reader (Option Json) := do
  match ← blanks with
  | none => failAhead .endInValue
  | some 0x6E =>
    skip
    word [0x75, 0x6C, 0x6C]
    return some .null
  | some 0x74 =>
    skip
    word [0x72, 0x75, 0x65]
    return some (.bool true)
  | some 0x66 =>
    skip
    word [0x61, 0x6C, 0x73, 0x65]
    return some (.bool false)
  | some 0x2D =>
    skip
    return some (.number (← number false))
  | some 0x22 =>
    skip
    return some (.string (← string))
  | some b =>
    if (digit? b).isSome then return some (.number (← number true))
    else if b = 0x5B ∨ b = 0x7B then return none
    else failAhead .noValue

/-- Moves to the next item of an array. False at the closing bracket, which stays. -/
def nextItem (first : Bool) : Reader Bool := do
  match ← blanks with
  | none => failAhead .endInList
  | some 0x5D => return false
  | some 0x2C =>
    if first then return true
    else
      skip
      match ← blanks with
      | none => failAhead .endInValue
      | some 0x5D => failAhead .trailingComma
      | some _ => return true
  | some _ => if first then return true else failAhead .noListCommaOrEnd

/-- Moves to the key of the next member of an object, after its quote. False at the closing
bracket, which stays. -/
def nextMember (first : Bool) : Reader Bool := do
  match ← blanks with
  | none => failAhead .endInObject
  | some 0x7D => return false
  | some b =>
    if first then
      if b = 0x22 then
        skip
        return true
      else failAhead .keyNotString
    else if b = 0x2C then
      skip
      match ← blanks with
      | none => failAhead .endInValue
      | some 0x22 =>
        skip
        return true
      | some 0x7D => failAhead .trailingComma
      | some _ => failAhead .keyNotString
    else failAhead .noObjectCommaOrEnd

/-- Consumes the colon between a key and its value. -/
def colon : Reader Unit := do
  match ← blanks with
  | none => failAhead .endInObject
  | some 0x3A => skip
  | some _ => failAhead .noColon

/-- The items of an array up to its closing bracket, which is consumed. -/
def items {α : Type} (item : Reader α) : (bound : Nat) → (first : Bool) → Reader (List α)
  | 0, _ => failHere .endInList
  | bound + 1, first => do
    if ← nextItem first then
      let a ← item
      return a :: (← items item bound false)
    else
      skip
      return []

/-- The members of an object up to its closing bracket, which is consumed. -/
def members {α : Type} (value : Reader α) :
    (bound : Nat) → (first : Bool) → Reader (List (String × α))
  | 0, _ => failHere .endInObject
  | bound + 1, first => do
    if ← nextMember first then
      let name ← string
      colon
      let a ← value
      return (name, a) :: (← members value bound false)
    else
      skip
      return []

/-- A document tree that nests at most `depth` brackets. -/
def tree : (depth : Nat) → Reader Json
  | 0 => do
    match ← scalar? with
    | some v => return v
    | none => failAhead .tooDeep
  | depth + 1 => do
    match ← scalar? with
    | some v => return v
    | none =>
      -- Not a scalar, so a bracket stands here.
      let open? ← next
      if open? == some 0x5B then
        return .array (← items (tree depth) (← remaining) true)
      else
        return ofMembers (← members (tree depth) (← remaining) true)

/-- How deep a tree may nest. -/
def deepest : Nat := 127

/-- A document tree. -/
def value : Reader Json :=
  tree deepest

/-- Consumes an integer's digits; no zero stands before another digit. -/
def skipInteger : Reader Unit := do
  match (← next).bind digit? with
  | none => failHere .badNumber
  | some 0 =>
    match ← peekDigit with
    | some _ => failAhead .badNumber
    | none => return ()
  | some _ =>
    let _ ← skipDigits (← remaining)
    return ()

/-- Consumes an exponent, if there is one. -/
def skipExponent : Reader Unit := do
  if ← atExponent then
    skip
    let sign ← peek
    if sign == some 0x2B || sign == some 0x2D then skip
    match (← next).bind digit? with
    | none => failHere .badNumber
    | some _ =>
      let _ ← skipDigits (← remaining)
      return ()

/-- Consumes a number after its sign. -/
def skipNumber : Reader Unit := do
  skipInteger
  if (← peek) == some 0x2E then
    skip
    if (← skipDigits (← remaining)) = 0 then failAhead .badNumber
  skipExponent

/-- Consumes a value that nobody wants. After a comma in an array any value may follow, and
nothing else. -/
def skipValue : (bound : Nat) → Reader Unit
  | 0 => failHere .endInValue
  | bound + 1 => do
    match ← blanks with
    | none => failAhead .endInValue
    | some 0x6E =>
      skip
      word [0x75, 0x6C, 0x6C]
    | some 0x74 =>
      skip
      word [0x72, 0x75, 0x65]
    | some 0x66 =>
      skip
      word [0x61, 0x6C, 0x73, 0x65]
    | some 0x2D =>
      skip
      skipNumber
    | some 0x22 =>
      skip
      skipString
    | some 0x5B =>
      skip
      match ← blanks with
      | none => failAhead .endInList
      | some 0x5D => skip
      | some _ => skipItems (skipValue bound) (← remaining)
    | some 0x7B =>
      skip
      match ← blanks with
      | none => failAhead .endInObject
      | some 0x7D => skip
      | some _ => skipMembers (skipValue bound) (← remaining)
    | some b =>
      if (digit? b).isSome then skipNumber else failAhead .noValue
where
  /-- Consumes the items of an array, at least one, and the closing bracket. -/
  skipItems (item : Reader Unit) : (bound : Nat) → Reader Unit
    | 0 => failHere .endInList
    | bound + 1 => do
      item
      match ← blanks with
      | none => failAhead .endInList
      | some 0x5D => skip
      | some 0x2C =>
        skip
        skipItems item bound
      | some _ => failAhead .noListCommaOrEnd
  /-- Consumes the members of an object, at least one, and the closing bracket. -/
  skipMembers (value : Reader Unit) : (bound : Nat) → Reader Unit
    | 0 => failHere .endInObject
    | bound + 1 => do
      match ← blanks with
      | none => failAhead .endInObject
      | some 0x22 => skip
      | some _ => failAhead .keyNotString
      skipString
      colon
      value
      match ← blanks with
      | none => failAhead .endInObject
      | some 0x7D => skip
      | some 0x2C =>
        skip
        skipMembers value bound
      | some _ => failAhead .noObjectCommaOrEnd

/-- Consumes one value of any depth. -/
def skipOne : Reader Unit := do
  skipValue ((← remaining) + 1)

/-- A reader for whole documents: nothing but blanks follows the value. -/
def whole {α : Type} (r : Reader α) (bytes : List UInt8) : Except Refusal α := do
  let (a, c) ← r.run (.ofBytes bytes)
  let (rest, c) ← blanks.run c
  match rest with
  | none => return a
  | some _ => throw ⟨.trailingCharacters, some c.advance.place⟩

end MessageFlow.Json.Reader
