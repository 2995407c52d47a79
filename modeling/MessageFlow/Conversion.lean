import MessageFlow.Handler

/-!
# Conversion

Decoding JSON payloads into declared types. Texts, bytes and parsed documents can be decoded; a
payload that already is of the target type passes untouched. A registry remembers which targets
have a decoder, one for each type.
-/

namespace MessageFlow

variable [PayloadTypes]

/-- A type with its decoder. -/
structure ConvertTarget where
  type : DataType
  decoder : Json.Decoder type.denote
  decoder_eq : type.decoder? = some decoder

namespace ConvertTarget

/-- The target of a type that has a decoder. -/
def ofType? (type : DataType) : Option ConvertTarget :=
  match h : type.decoder? with
  | some decoder => some ⟨type, decoder, h⟩
  | none => none

/-- The target that was found for a type is the one of that type. -/
theorem type_of_ofType? {type : DataType} {t : ConvertTarget} (h : ofType? type = some t) :
    t.type = type := by
  unfold ofType? at h
  split at h
  · cases h
    rfl
  · cases h

/-- There is one target of a type at most. -/
theorem eq_of_type_eq {t u : ConvertTarget} (h : t.type = u.type) : t = u := by
  obtain ⟨type, decoder, hd⟩ := t
  obtain ⟨type', decoder', hd'⟩ := u
  cases h
  rw [hd] at hd'
  cases hd'
  rfl

/-- Decodes the JSON that a payload holds; failures are given by their cause. -/
def decode (t : ConvertTarget) (p : Payload) : Except Cause t.type.denote :=
  match p with
  | ⟨.string, s⟩ | ⟨.literal, s⟩ => (t.decoder.fromBytes s.toUTF8.toList).mapError Cause.json
  | ⟨.bytes, bytes⟩ => (t.decoder.fromBytes bytes).mapError Cause.json
  | ⟨.json, document⟩ => (t.decoder.fromTree document).mapError Cause.json
  | _ => .error (.text "unsupported payload type")

/-- Decodes a payload into the target type. -/
def convert (t : ConvertTarget) (p : Payload) : Except Failure t.type.denote :=
  (t.decode p).mapError fun cause => .conversion t.type.name p.type.name cause

/-- Converts the payload of each message. What was decoded has no media type any more. -/
def handler (t : ConvertTarget) : Handler := fun stage m =>
  if m.payload.is t.type then return .reply m
  else
    match t.convert m.payload with
    | .error failure => throw failure
    | .ok value => do
      Run.log (.converted stage t.type)
      let converted ← Run.reply m (.of t.type value)
      return .reply converted.withoutContentType

end ConvertTarget

/-- The types into which payloads can be converted, with their decoders. -/
structure ConverterRegistry where
  targets : List ConvertTarget

namespace ConverterRegistry

/-- Nothing can be converted. -/
def empty : ConverterRegistry := ⟨[]⟩

/-- Makes a target known, in place of the one of its type if there is one. -/
def register (r : ConverterRegistry) (t : ConvertTarget) : ConverterRegistry :=
  -- At most one target of each type is kept, so finding the first one finds the only one.
  ⟨t :: r.targets.filter (·.type != t.type)⟩

/-- The target of a type. -/
def get (r : ConverterRegistry) (type : DataType) : Option ConvertTarget :=
  r.targets.find? (·.type == type)

/-- Whether a type has a target. -/
def contains (r : ConverterRegistry) (type : DataType) : Bool :=
  (r.get type).isSome

/-- A target that was registered is found. -/
theorem get_register_self (r : ConverterRegistry) (t : ConvertTarget) :
    (r.register t).get t.type = some t := by
  simp [get, register]

/-- Registering a target leaves those of other types alone. -/
theorem get_register_of_ne (r : ConverterRegistry) (t : ConvertTarget) {type : DataType}
    (h : type ≠ t.type) : (r.register t).get type = r.get type := by
  have hne : ¬t.type = type := fun e => h e.symm
  simp only [get, register, List.find?_cons, beq_eq_false_iff_ne.2 hne, List.find?_filter]
  congr 1
  funext a
  by_cases ha : a.type = type
  · simp [ha, h]
  · simp [ha]

/-- The registry as a value: the names of its types, sorted. -/
def inspect (r : ConverterRegistry) : String :=
  let names := (r.targets.map (·.type.name)).mergeSort fun a b => a ≤ b
  Text.Inspect.record "ConverterRegistry"
    [("targets", Text.Inspect.list (names.map Text.Inspect.quoted))]

end ConverterRegistry

end MessageFlow
