import MessageFlow.Conversion
import MessageFlow.Proofs.Json.Agreement
import MessageFlow.Proofs.Json.WrittenScalars
import MessageFlow.Proofs.Sample

/-!
# The forms of a JSON payload

JSON comes as a text, as a fixed text, as bytes or as a document that was read before. The first
three are decoded by one reader and so convert alike, failures included. A document that was read is
decoded from its tree; it converts to the same value, or fails to convert, as the text it was read
from, if no object in the text repeats a key (`forms_convert_alike`). Of the decoders this asks only
that they are derived: made of scalars by options, lists and records (`Decoder.Derived`).
-/

namespace MessageFlow

namespace Json

/-- A decoder as it is derived for a type from its declaration. -/
inductive Decoder.Derived : {α : Type} → Decoder α → Prop where
  | scalar {α : Type} (expected : String) (judge : Json → Option (Except Fault α)) :
      Derived (Decoder.scalar expected judge)
  | document : Derived Decoder.tree
  | option {α : Type} {d : Decoder α} (h : Derived d) : Derived (Decoder.option d)
  | list {α : Type} {d : Decoder α} (h : Derived d) : Derived (Decoder.list d)
  | slot {α σ : Type} {d : Decoder α} (h : Derived d) (name : String) (get : σ → Option α)
      (set : α → σ → σ) : Derived (Field.slot name d get set).decoder
  | record {α σ : Type} {shape : RecordShape σ α} (h : shape.Independent)
      (hfields : ∀ field ∈ shape.fields, Derived field.decoder) : Derived shape.decoder

/-- Derived decoders agree with themselves. -/
theorem agrees_of_derived {α : Type} {d : Decoder α} (h : d.Derived) : d.Agrees := by
  induction h with
  | scalar expected judge => exact agrees_scalar expected judge
  | document => exact agrees_tree
  | option _ ih => exact agrees_option ih
  | list _ ih => exact agrees_list ih
  | slot _ name get set ih => exact agrees_map ih set
  | record h _ ih => exact RecordShape.agrees_decoder h ih

/-- A text is that of a document in which no object repeats a key. -/
structure Spells (s : String) (v : Json) : Prop where
  read : Decoder.tree.fromBytes s.toUTF8.toList = .ok v
  unrepeated : ∃ w, Reader.whole (Reader.verbatim Reader.deepest) s.toUTF8.toList = .ok w ∧
    w.Unrepeated

/-- A document and its text are decoded to the same value, or both refused. -/
theorem fromTree_of_spells {α : Type} {d : Decoder α} (hd : d.Agrees) {s : String} {v : Json}
    (h : Spells s v) : (d.fromTree v).toOption = (d.fromBytes s.toUTF8.toList).toOption := by
  obtain ⟨hv, w, hw, hkeys⟩ := h
  -- Both readers end at one cursor, behind the document.
  have hv' := ok_iff_toOption.1 hv
  have hw' := ok_iff_toOption.1 hw
  unfold Decoder.fromBytes at hv' ⊢
  rw [Reader.toOption_whole] at hv' hw' ⊢
  rw [Option.bind_eq_some_iff] at hv' hw'
  obtain ⟨⟨w', e⟩, htaken, hend⟩ := hw'
  obtain ⟨⟨v', e'⟩, htree, hend'⟩ := hv'
  have hread : Decoder.tree.read = sorted <$> Reader.verbatim Reader.deepest :=
    Reader.tree_eq Reader.deepest
  rw [hread, Reader.taken_map, htaken, Option.map_some, Option.some_inj] at htree
  cases htree
  dsimp only at hend hend'
  split at hend
  · next hblank =>
    cases hend
    rw [if_pos hblank] at hend'
    cases hend'
    rw [hd _ _ _ _ (Nat.le_refl _) htaken hkeys]
    unfold Decoder.fromTree
    cases d.ofTree w.sorted with
    | error fault => rfl
    | ok a => exact (if_pos hblank).symm
  · cases hend

/-- A field that was decoded sets a value. -/
theorem fill_of_slot {α σ : Type} {name : String} {d : Decoder α} {get : σ → Option α}
    {set : α → σ → σ} {v : Json} {fill : σ → σ}
    (h : (Field.slot name d get set).decoder.ofTree v = .ok fill) : ∃ a, fill = set a := by
  have hmap : (d.ofTree v).map set = .ok fill := h
  cases hv : d.ofTree v with
  | error fault =>
    rw [hv] at hmap
    cases hmap
  | ok a =>
    rw [hv] at hmap
    cases hmap
    exact ⟨a, rfl⟩

/-- Two slots of a partial record are apart if what is set in one is not seen in the other. -/
theorem apart_slots {α β σ : Type} {name name' : String} {d : Decoder α} {d' : Decoder β}
    {get : σ → Option α} {get' : σ → Option β} {set : α → σ → σ} {set' : β → σ → σ}
    (hget : ∀ b s, get (set' b s) = get s) (hget' : ∀ a s, get' (set a s) = get' s)
    (hset : ∀ a b s, set a (set' b s) = set' b (set a s)) :
    (Field.slot name d get set).Apart (Field.slot name' d' get' set') where
  held v fill hfill s := by
    obtain ⟨b, rfl⟩ := fill_of_slot hfill
    exact congrArg Option.isSome (hget b s)
  heldOther v fill hfill s := by
    obtain ⟨a, rfl⟩ := fill_of_slot hfill
    exact congrArg Option.isSome (hget' a s)
  fills v fill v' fill' hfill hfill' s := by
    obtain ⟨a, rfl⟩ := fill_of_slot hfill
    obtain ⟨b, rfl⟩ := fill_of_slot hfill'
    exact hset a b s

end Json

section Targets

variable [PayloadTypes]

/-- The payloads that hold a text: as a text, as a fixed text and as its bytes. -/
def Payload.spelled (s : String) : List Payload :=
  [.of .string s, .of .literal s, .of .bytes s.toUTF8.toList]

namespace ConvertTarget

variable {t : ConvertTarget} {p : Payload}

/-- How a stage ends that converts a payload: it fails, or replies with the value. -/
def Conveys (t : ConvertTarget) : Except Failure t.type.denote → Except Failure Outcome → Prop
  | .error failure, ended => ended = .error failure
  | .ok value, ended =>
    ∃ reply, ended = .ok (.reply reply) ∧ reply.payload = .of t.type value

/-- What becomes of a payload, whether it is converted directly or by a stage. -/
structure Gives (t : ConvertTarget) (p : Payload) (result : Except Failure t.type.denote) :
    Prop where
  direct : t.convert p = result
  staged : ∀ stage m w, m.payload = p →
    ∃ ended v, (t.handler stage m).exec w = some (ended, v) ∧ t.Conveys result ended

/-- No fixed text is ever made at run time. -/
theorem type_ne_literal (t : ConvertTarget) : t.type ≠ .literal := by
  obtain ⟨type, decoder, hd⟩ := t
  rintro rfl
  cases hd

/-- What a conversion gives is what converting comes to, unless nothing had to be converted. -/
theorem gives_iff (h : p.type ≠ t.type) {result : Except Failure t.type.denote} :
    t.Gives p result ↔ t.convert p = result := by
  refine ⟨Gives.direct, fun hresult => ⟨hresult, ?_⟩⟩
  rintro stage m w rfl
  have his : m.payload.is t.type = false := beq_false_of_ne h
  unfold handler
  rw [his, hresult]
  cases result with
  | error failure => exact ⟨_, _, rfl, rfl⟩
  | ok value => exact ⟨_, _, rfl, _, rfl, rfl⟩

/-- All forms that spell a text are converted as this text is. -/
theorem convert_spelled {s : String} (h : p ∈ Payload.spelled s) :
    t.convert p = (t.decoder.fromBytes s.toUTF8.toList).mapError fun refusal =>
      .conversion t.type.name p.type.name (.json refusal) := by
  have hconvert : t.convert p = ((t.decoder.fromBytes s.toUTF8.toList).mapError
      Cause.json).mapError fun cause => .conversion t.type.name p.type.name cause := by
    simp only [Payload.spelled, List.mem_cons, List.not_mem_nil, or_false] at h
    obtain rfl | rfl | rfl := h <;> rfl
  rw [hconvert]
  cases t.decoder.fromBytes s.toUTF8.toList <;> rfl

/-- A document converts as the text it was read from. -/
theorem convert_spells {s : String} {v : Json} (hd : t.decoder.Agrees) (h : Json.Spells s v) :
    (t.convert (.of .json v)).toOption = (t.convert (.of .string s)).toOption := by
  have hdocument : t.convert (.of .json v) = ((t.decoder.fromTree v).mapError
    Cause.json).mapError fun cause => .conversion t.type.name (DataType.name .json) cause := rfl
  have htext := convert_spelled (t := t) (p := .of .string s) (List.mem_cons_self)
  rw [hdocument, htext, Json.toOption_mapError, Json.toOption_mapError, Json.toOption_mapError]
  exact Json.fromTree_of_spells hd h

end ConvertTarget

/-- A text, fixed or not, and its bytes convert to one result, but for the type of payload that a
failure names, into every target. The document that the text spells converts whenever the text does,
to the same value: into every target whose decoder is derived, and wherever such a decoder is used.
-/
theorem forms_convert_alike (s : String) :
    (∀ t : ConvertTarget, t.type ≠ .string → t.type ≠ .bytes →
      (∃ result : Except Json.Refusal t.type.denote, ∀ p ∈ Payload.spelled s,
        t.Gives p (result.mapError fun refusal =>
          .conversion t.type.name p.type.name (.json refusal))) ∧
      (t.type ≠ .json → t.decoder.Derived → ∀ v, Json.Spells s v → ∀ value,
        t.Gives (.of .json v) (.ok value) ↔ t.Gives (.of .string s) (.ok value))) ∧
    ∀ (α : Type) (d : Json.Decoder α), d.Derived → ∀ v, Json.Spells s v → ∀ value,
      d.fromTree v = .ok value ↔ d.fromBytes s.toUTF8.toList = .ok value := by
  refine ⟨fun t hstring hbytes => ⟨?_, fun hjson hd v hv value => ?_⟩, fun α d hd v hv value => ?_⟩
  · refine ⟨t.decoder.fromBytes s.toUTF8.toList, fun p hp => ?_⟩
    have hne : p.type ≠ t.type := by
      simp only [Payload.spelled, List.mem_cons, List.not_mem_nil, or_false] at hp
      obtain rfl | rfl | rfl := hp
      · exact Ne.symm hstring
      · exact Ne.symm t.type_ne_literal
      · exact Ne.symm hbytes
    exact (ConvertTarget.gives_iff hne).2 (ConvertTarget.convert_spelled hp)
  · rw [ConvertTarget.gives_iff (Ne.symm hjson), ConvertTarget.gives_iff (Ne.symm hstring),
      Json.ok_iff_toOption, Json.ok_iff_toOption,
      ConvertTarget.convert_spells (Json.agrees_of_derived hd) hv]
  · rw [Json.ok_iff_toOption, Json.ok_iff_toOption,
      Json.fromTree_of_spells (Json.agrees_of_derived hd) hv]

end Targets

section Sales

open Sample

/-- The fields of a sale have a slot each. -/
theorem Sample.Sale.independent_shape : Sale.shape.Independent := by
  refine Json.RecordShape.independent_of_pairwise ?_
  simp only [Sale.shape, List.pairwise_cons, List.forall_mem_cons, List.not_mem_nil,
    IsEmpty.forall_iff, implies_true, List.Pairwise.nil, and_true]
  exact Json.apart_slots (fun _ _ => rfl) (fun _ _ => rfl) fun _ _ _ => rfl

theorem Sample.Sale.derived_decoder : Sale.decoder.Derived := by
  refine .record Sale.independent_shape fun field hfield => ?_
  simp only [Sale.shape, List.mem_cons, List.not_mem_nil, or_false] at hfield
  obtain rfl | rfl := hfield
  · exact .slot (.scalar _ _) _ _ _
  · exact .slot (.scalar _ _) _ _ _

def sales : ConvertTarget := ⟨.sale, Sale.decoder, rfl⟩

/-- A sale with its fields in another order, and with a member that no sale has. -/
def saleText : String :=
  "\x7b\"note\":[null],\"item\":\"tea\",\"count\":7\x7d"

def saleTree : Json :=
  .object [("count", .number (.natural 7)), ("item", .string "tea"), ("note", .array [.null])]

/-- The text and the tree are one document. -/
theorem spells_saleText : Json.Spells saleText saleTree := by
  refine ⟨?_, .object [("note", .array [.null]), ("item", .string "tea"),
    ("count", .number (.natural 7))], ?_, ?_, ?_⟩
  · rw [Json.bytes_eq]
    rfl
  · rw [Json.bytes_eq]
    rfl
  · decide
  · simp [Json.UnrepeatedMembers, Json.Unrepeated, Json.UnrepeatedItems]

theorem forms_convert_alike_sale :
    sales.type ≠ .string ∧ sales.type ≠ .bytes ∧ sales.type ≠ .json ∧
      Json.Spells saleText saleTree ∧ Sale.decoder.Derived ∧
      (∀ p ∈ Payload.spelled saleText, sales.Gives p (.ok ⟨"tea", 7⟩)) ∧
      sales.Gives (.of .json saleTree) (.ok ⟨"tea", 7⟩) ∧
      Sale.decoder.fromTree saleTree = .ok ⟨"tea", 7⟩ := by
  have hstring : sales.type ≠ .string := nofun
  have hbytes : sales.type ≠ .bytes := nofun
  have hjson : sales.type ≠ .json := nofun
  obtain ⟨halike, hderived⟩ := forms_convert_alike saleText
  obtain ⟨⟨result, hresult⟩, htree⟩ := halike sales hstring hbytes
  have hread : Sale.decoder.fromBytes saleText.toUTF8.toList = .ok ⟨"tea", 7⟩ := by
    rw [Json.bytes_eq]
    rfl
  have hconvert : sales.convert (.of .string saleText) = .ok ⟨"tea", 7⟩ := by
    rw [ConvertTarget.convert_spelled List.mem_cons_self]
    show (Sale.decoder.fromBytes saleText.toUTF8.toList).mapError _ = _
    rw [hread]
    rfl
  have hok : result = .ok ⟨"tea", 7⟩ := by
    have hdirect := (hresult _ List.mem_cons_self).direct
    rw [hconvert] at hdirect
    cases result with
    | error refusal => cases hdirect
    | ok value => exact congrArg _ (Except.ok.inj hdirect).symm
  subst hok
  have htext := hresult (.of .string saleText) List.mem_cons_self
  exact ⟨hstring, hbytes, hjson, spells_saleText, Sale.derived_decoder, hresult,
    (htree hjson Sale.derived_decoder saleTree spells_saleText _).2 htext,
    (hderived _ _ Sale.derived_decoder saleTree spells_saleText _).2 hread⟩

end Sales

section Apart

open Sample

def wides : ConvertTarget := ⟨.wide, wideDecoder, rfl⟩

/-- An integer just below those of 64 bits. -/
def wideText : String := "-9223372036854775809"

/-- What is read of it: a double. -/
def wideTree : Json :=
  .number (.double (-(UInt64.ofNat 9223372036854775809).toFloat).toBits)

theorem spells_wideText : Json.Spells wideText wideTree := by
  refine ⟨?_, wideTree, ?_, trivial⟩
  · rw [Json.bytes_eq]
    rfl
  · rw [Json.bytes_eq]
    rfl

/-- From its digits the number is decoded. -/
theorem gives_wideText : wides.Gives (.of .string wideText) (.ok (-9223372036854775809 : Int)) := by
  have hread : wideDecoder.fromBytes wideText.toUTF8.toList = .ok (-9223372036854775809) := by
    rw [Json.bytes_eq]
    rfl
  have hne : .string ≠ wides.type := nofun
  rw [ConvertTarget.gives_iff hne, ConvertTarget.convert_spelled List.mem_cons_self]
  show (wideDecoder.fromBytes wideText.toUTF8.toList).mapError _ = _
  rw [hread]
  rfl

/-- From the tree it is not, as the tree has a double for it. -/
theorem not_gives_wideTree (value : Int) : ¬wides.Gives (.of .json wideTree) (.ok value) := by
  intro h
  have hrefused : wides.convert (.of .json wideTree) = .error (.conversion "i128"
      "serde_json::value::Value" (.json ⟨.wrongType wideTree.found "i128", none⟩)) := rfl
  have hne : .json ≠ wides.type := nofun
  rw [ConvertTarget.gives_iff hne, hrefused] at h
  cases h

/-- A sale that says twice what was sold. -/
def repeatedText : String :=
  "\x7b\"item\":\"tea\",\"item\":\"ink\",\"count\":7\x7d"

/-- What is read of it: the item it says last. -/
def repeatedTree : Json :=
  .object [("count", .number (.natural 7)), ("item", .string "ink")]

/-- The tree has one value for the name that the text repeats. -/
theorem gives_repeatedTree : sales.Gives (.of .json repeatedTree) (.ok ⟨"ink", 7⟩) := by
  have hne : .json ≠ sales.type := nofun
  rw [ConvertTarget.gives_iff hne]
  rfl

/-- The text is refused for repeating it. -/
theorem not_gives_repeatedText (value : Sale) :
    ¬sales.Gives (.of .string repeatedText) (.ok value) := by
  intro h
  have hrefused : (Sale.decoder.fromBytes repeatedText.toUTF8.toList).toOption = none := by
    rw [Json.bytes_eq]
    rfl
  have hne : .string ≠ sales.type := nofun
  rw [ConvertTarget.gives_iff hne, ConvertTarget.convert_spelled List.mem_cons_self] at h
  change (Sale.decoder.fromBytes repeatedText.toUTF8.toList).mapError _ = _ at h
  cases hread : Sale.decoder.fromBytes repeatedText.toUTF8.toList with
  | error refusal =>
    rw [hread] at h
    cases h
  | ok sale =>
    rw [hread] at hrefused
    cases hrefused

/-- A document need not convert as the text it was read from. An integer below those of 64 bits is
decoded from its digits, and refused once it was read as a double. A field that a text gives twice
is refused in the text, while the document has only what was said last. -/
theorem document_converts_apart :
    (Json.Spells wideText wideTree ∧
      wides.Gives (.of .string wideText) (.ok (-9223372036854775809 : Int)) ∧
      ∀ value : Int, ¬wides.Gives (.of .json wideTree) (.ok value)) ∧
    Json.Decoder.tree.fromBytes repeatedText.toUTF8.toList = .ok repeatedTree ∧
      sales.Gives (.of .json repeatedTree) (.ok ⟨"ink", 7⟩) ∧
      ∀ value : Sale, ¬sales.Gives (.of .string repeatedText) (.ok value) := by
  refine ⟨⟨spells_wideText, gives_wideText, not_gives_wideTree⟩, ?_, gives_repeatedTree,
    not_gives_repeatedText⟩
  rw [Json.bytes_eq]
  rfl

end Apart

end MessageFlow
