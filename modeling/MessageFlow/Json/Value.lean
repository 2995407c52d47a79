/-!
# JSON values

Documents as trees. Numbers keep the three kinds the reader tells apart: non-negative integers of
64 bits, negative integers of 64 bits, and doubles (kept as their bits, so that equality is
decidable and no bit is lost). `ofMembers` makes the objects that reading yields: members sorted
by name, one per name.
-/

namespace MessageFlow

namespace Json

inductive Number where
  | natural (n : UInt64)
  | negative (n : Int64)
  | double (bits : UInt64)
  deriving DecidableEq, Repr

end Json

inductive Json where
  | null
  | bool (b : Bool)
  | number (n : Json.Number)
  | string (s : String)
  | array (items : List Json)
  | object (members : List (String × Json))
  deriving Repr

namespace Json

/-- Sets a member of a sorted member list, replacing the member of that name. -/
def setMember (name : String) (value : Json) : List (String × Json) → List (String × Json)
  | [] => [(name, value)]
  | (key, old) :: rest =>
    if name = key then (name, value) :: rest
    else if name < key then (name, value) :: (key, old) :: rest
    else (key, old) :: setMember name value rest

/-- The object with the given members; of several members of one name the last counts. -/
def ofMembers (members : List (String × Json)) : Json :=
  .object (members.foldl (fun acc member => setMember member.1 member.2 acc) [])

/-- The member of an object by name; none for other documents. -/
def member? (name : String) : Json → Option Json
  | .object members => members.lookup name
  | _ => none

/-- An integer as a document: the natural or negative kind if it fits one of them. -/
def ofInt (n : Int) : Json :=
  if 0 ≤ n then .number (.natural (UInt64.ofNat n.toNat))
  else .number (.negative (Int64.ofInt n))

/-- A natural number as a document. -/
def ofNat (n : Nat) : Json :=
  .number (.natural (UInt64.ofNat n))

@[simp] theorem setMember_nil (name : String) (value : Json) :
    setMember name value [] = [(name, value)] := rfl

end Json

end MessageFlow
