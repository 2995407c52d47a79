import MessageFlow.Json.Fault

/-!
# Reading positions

A cursor is what is left of a document together with the place it has reached. Readers are state
transformers on cursors that fail with a fault and a place: either the place of the cursor itself,
one byte ahead, for faults seen by looking at the next byte without consuming it, or some bytes
behind, for faults seen only after more was read.
-/

namespace MessageFlow.Json

/-- The bytes that are still to be read, and the place of the first of them. -/
structure Cursor where
  rest : List UInt8
  place : Position
  deriving DecidableEq, Repr

/-- The cursor before the first byte of a document. -/
def Cursor.ofBytes (bytes : List UInt8) : Cursor :=
  ⟨bytes, ⟨1, 0⟩⟩

/-- The place after byte `b`: a line feed begins a line. -/
def Position.after (p : Position) (b : UInt8) : Position :=
  if b = 0x0A then ⟨p.line + 1, 0⟩ else ⟨p.line, p.column + 1⟩

/-- The cursor after its next byte; at the end it stays. -/
def Cursor.advance (c : Cursor) : Cursor :=
  match c.rest with
  | [] => c
  | b :: rest => ⟨rest, c.place.after b⟩

/-- Reads a value from the cursor, or refuses the document. -/
abbrev Reader (α : Type) := StateT Cursor (Except Refusal) α

namespace Reader

/-- The next byte, not consumed. -/
def peek : Reader (Option UInt8) := do
  return (← get).rest.head?

def skip : Reader Unit :=
  modify Cursor.advance

/-- Consumes the next byte and returns it; none at the end. -/
def next : Reader (Option UInt8) := do
  let b ← peek
  skip
  return b

/-- Refuses at the cursor. -/
def failHere {α : Type} (fault : Fault) : Reader α := do
  throw ⟨fault, some (← get).place⟩

/-- Refuses one byte ahead of the cursor, or at the end. -/
def failAhead {α : Type} (fault : Fault) : Reader α := do
  throw ⟨fault, some (← get).advance.place⟩

/-- Refuses at a byte that was read, the last one but `back`, on the line of the cursor. -/
def failBehind {α : Type} (back : Nat) (fault : Fault) : Reader α := do
  let place := (← get).place
  throw ⟨fault, some ⟨place.line, place.column - back⟩⟩

/-- Blank, tab, line feed and carriage return are the blanks of a document. -/
def isBlank (b : UInt8) : Bool :=
  b == 0x20 || b == 0x09 || b == 0x0A || b == 0x0D

/-- The cursor after the blanks before it. -/
def afterBlanks : List UInt8 → Position → Cursor
  | [], p => ⟨[], p⟩
  | b :: rest, p => if isBlank b then afterBlanks rest (p.after b) else ⟨b :: rest, p⟩

/-- Consumes blanks and shows the byte after them. -/
def blanks : Reader (Option UInt8) := do
  modify fun c => afterBlanks c.rest c.place
  peek

/-- Consumes the rest of a literal word. -/
def word : List UInt8 → Reader Unit
  | [] => return ()
  | b :: rest => do
    match ← next with
    | none => failHere .endInValue
    | some found => if found = b then word rest else failHere .noIdent

end Reader

end MessageFlow.Json
