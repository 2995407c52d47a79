import MessageFlow.DataType

/-!
# Payloads

A payload is a value together with the code of its type. `as?` is the only way in: it gives the
value exactly when the asked type is the held one (`as?_self`, `as?_ne`).
-/

namespace MessageFlow

variable [PayloadTypes]

/-- A value that knows its type. -/
structure Payload where
  type : DataType
  value : type.denote

namespace Payload

def of (type : DataType) (value : type.denote) : Payload :=
  ⟨type, value⟩

/-- Whether the payload holds a value of the type. -/
def is (p : Payload) (type : DataType) : Bool :=
  p.type == type

/-- The value, if it is of the type. -/
def as? (p : Payload) (type : DataType) : Option type.denote :=
  if h : p.type = type then some (h ▸ p.value) else none

@[simp] theorem as?_self (type : DataType) (value : type.denote) :
    (Payload.of type value).as? type = some value := by
  simp [as?, of]

/-- A payload has no value of a type that is not its own. -/
theorem as?_ne {p : Payload} {type : DataType} (h : p.type ≠ type) : p.as? type = none := by
  simp [as?, h]

/-- A payload of a type is one of its values. -/
theorem exists_of_type {p : Payload} {type : DataType} (h : p.type = type) :
    ∃ value, p = .of type value := by
  subst h
  exact ⟨p.value, rfl⟩

/-- The payload as a value, by its type alone. -/
def inspect (p : Payload) : String :=
  "Payload<" ++ p.type.name ++ ">"

end Payload

end MessageFlow
