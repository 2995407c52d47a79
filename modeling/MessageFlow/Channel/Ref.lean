import MessageFlow.Text.Inspect

/-!
# Channel references

Flows refer to channels; a runtime turns references into live channels. References are equal when
they bear the same name, however they came about.
-/

namespace MessageFlow

/-- A handle to a live channel: its place among all live channels, and its name. -/
structure LiveRef where
  key : Nat
  name : String
  deriving DecidableEq, Repr

inductive ChannelRef where
  /-- Known by name. -/
  | named (name : String)
  /-- A live channel itself. -/
  | live (channel : LiveRef)
  /-- Generated between two stages. -/
  | anonymous (name : String)
  deriving Repr

namespace ChannelRef

/-- The name a channel is known by. -/
def name : ChannelRef → String
  | named name | anonymous name => name
  | live channel => channel.name

instance : BEq ChannelRef := ⟨fun a b => a.name == b.name⟩

/-- References are equal exactly when their names are. -/
theorem beq_iff_name_eq {a b : ChannelRef} : (a == b) = true ↔ a.name = b.name := by
  show (a.name == b.name) = true ↔ _
  exact beq_iff_eq

instance : EquivBEq ChannelRef where
  rfl := by intro a; exact beq_iff_name_eq.2 rfl
  symm := by intro a b h; exact beq_iff_name_eq.2 (beq_iff_name_eq.1 h).symm
  trans := by
    intro a b c h k
    exact beq_iff_name_eq.2 ((beq_iff_name_eq.1 h).trans (beq_iff_name_eq.1 k))

/-- Whether the channel was generated. -/
def isAnonymous : ChannelRef → Bool
  | anonymous _ => true
  | _ => false

/-- The reference as a value: how it came about, and its name. -/
def inspect : ChannelRef → String
  | named name => Text.Inspect.variant "Named" name
  | live channel => Text.Inspect.variant "Instance" channel.name
  | anonymous name => Text.Inspect.variant "Anonymous" name

end ChannelRef

end MessageFlow
