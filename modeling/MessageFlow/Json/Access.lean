import MessageFlow.Json.Value

/-!
# Looking into documents

Short ways to the parts of a document. A member that is missing counts as null, and whatever is not
of the expected kind counts as absent.
-/

namespace MessageFlow.Json

/-- The member of a name, or null. -/
def field (j : Json) (name : String) : Json :=
  (j.member? name).getD .null

/-- The document, unless it is null. -/
def present? : Json → Option Json
  | .null => none
  | j => some j

def text? : Json → Option String
  | .string s => some s
  | _ => none

def int? : Json → Option Int
  | .number (.natural n) => some n.toNat
  | .number (.negative n) => some n.toInt
  | _ => none

/-- The value of an integer, with zero in place of negative ones. -/
def nat? (j : Json) : Option Nat :=
  j.int?.map Int.toNat

def bool? : Json → Option Bool
  | .bool b => some b
  | _ => none

def items : Json → List Json
  | .array items => items
  | _ => []

def textAt? (j : Json) (name : String) : Option String :=
  (j.field name).text?

/-- The text of a member, or the empty text. -/
def textAt (j : Json) (name : String) : String :=
  (j.textAt? name).getD ""

/-- The natural number of a member. -/
def natAt? (j : Json) (name : String) : Option Nat :=
  (j.field name).nat?

/-- The truth value of a member, or the given one. -/
def flagAt (j : Json) (name : String) (standard : Bool) : Bool :=
  (j.field name).bool?.getD standard

def itemsAt (j : Json) (name : String) : List Json :=
  (j.field name).items

/-- A document for a value that may be absent. -/
def optional {α : Type} (encode : α → Json) : Option α → Json
  | some a => encode a
  | none => .null

/-- An array of documents. -/
def list {α : Type} (encode : α → Json) (xs : List α) : Json :=
  .array (xs.map encode)

/-- A member, if its value is there. -/
def memberOf {α : Type} (name : String) (encode : α → Json) (a : Option α) :
    List (String × Json) :=
  (a.map fun a => (name, encode a)).toList

end MessageFlow.Json
