import MessageFlow.Channel.Ref
import MessageFlow.Message.Id

/-!
# Headers

What travels with a payload. Custom headers are name–value pairs in the order in which their names
were first set; setting a name again replaces its value in place (`get_set_self`,
`get_set_of_ne`, `names_set`). The timestamp is a time of the world's clock, in milliseconds.
-/

namespace MessageFlow

/-- Name–value pairs in order of first appearance. -/
abbrev CustomHeaders := List (String × String)

namespace CustomHeaders

/-- The value of the first pair of that name. -/
def get (headers : CustomHeaders) (name : String) : Option String :=
  headers.lookup name

/-- Replaces the value of the first pair of that name, or adds a pair at the end. -/
def set : CustomHeaders → (name value : String) → CustomHeaders
  | [], name, value => [(name, value)]
  | (key, old) :: rest, name, value =>
    if key = name then (key, value) :: rest else (key, old) :: set rest name value

/-- What was set is there. -/
theorem get_set_self (headers : CustomHeaders) (name value : String) :
    (headers.set name value).get name = some value := by
  induction headers with
  | nil => simp [set, get]
  | cons head rest ih =>
    obtain ⟨key, old⟩ := head
    unfold get at ih ⊢
    unfold set
    split
    · next h => subst h; simp
    · next h =>
      have hbeq : (name == key) = false := beq_eq_false_iff_ne.mpr fun e => h e.symm
      simp [List.lookup_cons, hbeq, ih]

/-- Setting a header leaves those of other names alone. -/
theorem get_set_of_ne (headers : CustomHeaders) {name other : String} (h : other ≠ name)
    (value : String) : (headers.set name value).get other = headers.get other := by
  induction headers with
  | nil =>
    have hbeq : (other == name) = false := beq_eq_false_iff_ne.mpr h
    simp [set, get, List.lookup_cons, hbeq]
  | cons head rest ih =>
    obtain ⟨key, old⟩ := head
    unfold get at ih ⊢
    unfold set
    split
    · next hk =>
      subst hk
      have hbeq : (other == key) = false := beq_eq_false_iff_ne.mpr h
      simp [List.lookup_cons, hbeq]
    · next hk =>
      simp only [List.lookup_cons]
      split
      · rfl
      · exact ih

/-- Setting a name that is there keeps the names; setting a new one adds it at the end. -/
theorem names_set (headers : CustomHeaders) (name value : String) :
    (headers.set name value).map Prod.fst =
      if name ∈ headers.map Prod.fst then headers.map Prod.fst
      else headers.map Prod.fst ++ [name] := by
  induction headers with
  | nil => simp [set]
  | cons head rest ih =>
    obtain ⟨key, old⟩ := head
    unfold set
    split
    · next h => subst h; simp
    · next h =>
      have hne : ¬name = key := fun e => h e.symm
      simp only [List.map_cons, ih, List.mem_cons, hne, false_or]
      split <;> simp

end CustomHeaders

/-- What travels with a payload. -/
structure Headers where
  /-- The clock's reading when the message was made. -/
  timestamp : Nat
  /-- Media type of the payload. -/
  contentType : Option String
  /-- Where a reply goes that ends up on a flow's anonymous output. -/
  replyChannel : Option ChannelRef
  /-- The message that this one is a part of. -/
  correlationId : Option MessageId
  /-- Which part it is, from one. -/
  sequenceNumber : Option Nat
  /-- Of how many parts. -/
  sequenceSize : Option Nat
  custom : CustomHeaders
  deriving Repr

/-- The headers of a new message. -/
def Headers.at (timestamp : Nat) : Headers :=
  ⟨timestamp, none, none, none, none, none, []⟩

end MessageFlow
