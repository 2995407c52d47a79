import MessageFlow.Config
import MessageFlow.Proofs.Json.Written

/-!
# Settings are read back

What is written of settings is read as the same settings, and if fields are removed from what is
written, of the settings or of their poller and logging options, as the settings with the standard
values in these fields (`settings_read_back`). It does not matter how the document is spelled: in
what order its members stand, where blanks are, or which characters of a string are escaped.

A record is decoded member by member. A member that was removed leaves the partial record as it is,
and one that was kept fills its slot with what was written (`ofMembers_without`); so at the end
exactly the removed fields are open.
-/

namespace MessageFlow

namespace Json

mutual

/-- The document without the members at the paths that are removed. -/
def without (removed : List String → Bool) : Json → Json
  | .object members => .object (withoutMembers removed members)
  | v => v

def withoutMembers (removed : List String → Bool) : List (String × Json) → List (String × Json)
  | [] => []
  | (name, v) :: rest =>
    if removed [name] then withoutMembers removed rest
    else (name, v.without fun path => removed (name :: path)) :: withoutMembers removed rest

end

/-- What is left has some of the names there were, in their order. -/
theorem sublist_withoutMembers (removed : List String → Bool) (members : List (String × Json)) :
    ((withoutMembers removed members).map Prod.fst).Sublist (members.map Prod.fst) := by
  induction members with
  | nil => exact .slnil
  | cons m members ih =>
    rw [withoutMembers]
    split
    · exact ih.cons m.1
    · exact ih.cons_cons m.1

/-- A member that is left is what is left of a member. -/
theorem mem_withoutMembers {removed : List String → Bool} {members : List (String × Json)}
    {m : String × Json} (h : m ∈ withoutMembers removed members) :
    ∃ m' ∈ members, ∃ removed', m.2 = m'.2.without removed' := by
  induction members with
  | nil => cases h
  | cons m' members ih =>
    rw [withoutMembers] at h
    split at h
    · obtain ⟨m'', hm'', hm⟩ := ih h
      exact ⟨m'', .tail m' hm'', hm⟩
    · rcases List.mem_cons.1 h with rfl | h
      · exact ⟨m', List.mem_cons_self, _, rfl⟩
      · obtain ⟨m'', hm'', hm⟩ := ih h
        exact ⟨m'', .tail m' hm'', hm⟩

/-- What is left of a plain document is plain. -/
theorem plain_without {depth : Nat} {v : Json} (h : v.Plain depth) (removed : List String → Bool) :
    (v.without removed).Plain depth := by
  induction h generalizing removed with
  | null => exact .null
  | bool b => exact .bool b
  | natural n => exact .natural n
  | string s => exact .string s
  | array h _ => exact .array h
  | object hnames _ ih =>
    refine .object (hnames.sublist (sublist_withoutMembers removed _)) fun m hm => ?_
    obtain ⟨m', hm', removed', hvalue⟩ := mem_withoutMembers hm
    rw [hvalue]
    exact ih m' hm' removed'

variable {σ α : Type}

/-- The value of a field sets it. -/
theorem ofTree_slot {name : String} {d : Decoder α} {get : σ → Option α} {set : α → σ → σ}
    {v : Json} {a : α} (h : d.ofTree v = .ok a) :
    (Field.slot name d get set).decoder.ofTree v = .ok (set a) := by
  show (d.ofTree v).map set = _
  rw [h]
  rfl

/-- One member of a record: removed, it leaves the partial record as it is, and kept, it fills its
field. -/
theorem ofMembers_without {shape : RecordShape σ α} {removed : List String → Bool} {s : σ}
    {name : String} {v : Json} {field : Field σ} {fill : σ → σ}
    (hfield : shape.fields.find? (·.name == name) = some field) (hheld : field.held s = false)
    (hfill : field.decoder.ofTree (v.without fun path => removed (name :: path)).sorted = .ok fill)
    (rest : List (String × Json)) :
    shape.ofMembers s (sortedMembers (withoutMembers removed ((name, v) :: rest))) =
      shape.ofMembers (if removed [name] then s else fill s)
        (sortedMembers (withoutMembers removed rest)) := by
  rw [withoutMembers]
  split
  · rfl
  · rw [sortedMembers, RecordShape.ofMembers, hfield]
    dsimp only
    rw [hheld, if_neg Bool.false_ne_true, hfill]

/-- A record is decoded from what is left of its members in the order in which they were written. -/
theorem ofTree_without {shape : RecordShape σ α} (h : shape.Independent)
    {members : List (String × Json)} (hnames : (members.map Prod.fst).Nodup)
    (removed : List String → Bool) :
    (shape.decoder.ofTree ((Json.object members).without removed).sorted).toOption =
      (shape.ofMembers shape.empty (sortedMembers (withoutMembers removed members))).toOption.bind
        fun s => (shape.ofObject s).toOption := by
  rw [without, RecordShape.toOption_ofTree_sorted h
    (hnames.sublist (sublist_withoutMembers removed members))]

/-- A number of 64 bits is read back, as whatever it stands for. -/
theorem ofTree_unsigned {n : Nat} (h : n < UInt64.size) (expected : String) (ofInt : Int → α) :
    (Decoder.unsigned expected UInt64.size ofInt).ofTree (.ofNat n) = .ok (ofInt n) := by
  have hn : (UInt64.ofNat n).toNat = n := UInt64.toNat_ofNat_of_lt' h
  have hbounds : (0 : Int) ≤ n ∧ (n : Int) ≤ (UInt64.size : Int) - 1 := by omega
  show (if (0 : Int) ≤ (UInt64.ofNat n).toNat ∧ ((UInt64.ofNat n).toNat : Int) ≤
    (UInt64.size : Int) - 1 then Except.ok (ofInt (UInt64.ofNat n).toNat) else _) = _
  rw [hn, if_pos hbounds]

end Json

/-! ## The records of settings -/

namespace Poller

/-- The poller with the standard values in the fields that are removed. -/
def without (p : Poller) (removed : List String → Bool) : Poller where
  fixedDelay := if removed ["fixed_delay_ms"] then standard.fixedDelay else p.fixedDelay
  maxMessages := if removed ["max_messages_per_poll"] then standard.maxMessages else p.maxMessages

theorem independent_shape : shape.Independent := by
  refine Json.RecordShape.independent_of_pairwise ?_
  simp only [shape, List.pairwise_cons, List.forall_mem_cons, List.not_mem_nil, IsEmpty.forall_iff,
    implies_true, List.Pairwise.nil, and_true]
  exact Json.apart_slots (fun _ _ => rfl) (fun _ _ => rfl) fun _ _ _ => rfl

/-- What is left of a poller is the poller, but for what was removed. -/
theorem ofTree_without {p : Poller} {ms : Nat} (hdelay : p.fixedDelay = .ofMillis ms)
    (hms : ms < UInt64.size) (hmax : p.maxMessages < UInt64.size) (removed : List String → Bool) :
    decoder.ofTree (p.toJson.without removed).sorted = .ok (p.without removed) := by
  have hwritten : p.toJson = .object
      [("fixed_delay_ms", .ofNat ms), ("max_messages_per_poll", .ofNat p.maxMessages)] := by
    rw [toJson, hdelay, Span.millis_ofMillis]
  rw [Json.ok_iff_toOption]
  show (shape.decoder.ofTree _).toOption = _
  rw [hwritten, Json.ofTree_without independent_shape (by simp)]
  rw [Json.ofMembers_without rfl rfl (Json.ofTree_slot (Json.ofTree_unsigned hms _ _)),
    Json.ofMembers_without rfl (by split <;> rfl)
      (Json.ofTree_slot (Json.ofTree_unsigned hmax _ _))]
  unfold without
  rw [hdelay]
  cases removed ["fixed_delay_ms"] <;> cases removed ["max_messages_per_poll"] <;> rfl

theorem derived_decoder : decoder.Derived := by
  refine .record independent_shape ?_
  simp only [shape, List.forall_mem_cons]
  exact ⟨.slot (.scalar _ _) _ _ _, .slot (.scalar _ _) _ _ _, nofun⟩

end Poller

namespace LoggingConfig

/-- The options with the standard values in the fields that are removed. -/
def without (c : LoggingConfig) (removed : List String → Bool) : LoggingConfig where
  level := if removed ["level"] then standard.level else c.level
  json := if removed ["json"] then standard.json else c.json

theorem independent_shape : shape.Independent := by
  refine Json.RecordShape.independent_of_pairwise ?_
  simp only [shape, List.pairwise_cons, List.forall_mem_cons, List.not_mem_nil, IsEmpty.forall_iff,
    implies_true, List.Pairwise.nil, and_true]
  exact Json.apart_slots (fun _ _ => rfl) (fun _ _ => rfl) fun _ _ _ => rfl

theorem ofTree_without (c : LoggingConfig) (removed : List String → Bool) :
    shape.decoder.ofTree (c.toJson.without removed).sorted = .ok (c.without removed) := by
  rw [Json.ok_iff_toOption, toJson, Json.ofTree_without independent_shape (by simp)]
  rw [Json.ofMembers_without rfl rfl (Json.ofTree_slot (a := c.level) rfl),
    Json.ofMembers_without rfl (by split <;> rfl) (Json.ofTree_slot (a := c.json) rfl)]
  unfold without
  cases removed ["level"] <;> cases removed ["json"] <;> rfl

theorem derived_decoder : shape.decoder.Derived := by
  refine .record independent_shape ?_
  simp only [shape, List.forall_mem_cons]
  exact ⟨.slot (.scalar _ _) _ _ _, .slot (.scalar _ _) _ _ _, nofun⟩

end LoggingConfig

namespace FlowConfig

/-- The settings with the standard values in the fields that are removed. -/
def without (c : FlowConfig) (removed : List String → Bool) : FlowConfig where
  idPrefix := if removed ["id_prefix"] then standard.idPrefix else c.idPrefix
  defaultPoller :=
    if removed ["default_poller"] then standard.defaultPoller
    else c.defaultPoller.without fun path => removed ("default_poller" :: path)
  logStages := if removed ["log_stages"] then standard.logStages else c.logStages
  logging :=
    if removed ["logging"] then standard.logging
    else c.logging.without fun path => removed ("logging" :: path)

theorem independent_shape : shape.Independent := by
  refine Json.RecordShape.independent_of_pairwise ?_
  simp only [shape, List.pairwise_cons, List.forall_mem_cons, List.not_mem_nil, IsEmpty.forall_iff,
    implies_true, List.Pairwise.nil, and_true]
  refine ⟨⟨?_, ?_, ?_⟩, ⟨?_, ?_⟩, ?_⟩ <;>
    exact Json.apart_slots (fun _ _ => rfl) (fun _ _ => rfl) fun _ _ _ => rfl

theorem derived_decoder : shape.decoder.Derived := by
  refine .record independent_shape ?_
  simp only [shape, List.forall_mem_cons]
  exact ⟨.slot (.scalar _ _) _ _ _, .slot Poller.derived_decoder _ _ _, .slot (.scalar _ _) _ _ _,
    .slot LoggingConfig.derived_decoder _ _ _, nofun⟩

theorem ofTree_without {c : FlowConfig} {ms : Nat}
    (hdelay : c.defaultPoller.fixedDelay = .ofMillis ms) (hms : ms < UInt64.size)
    (hmax : c.defaultPoller.maxMessages < UInt64.size) (removed : List String → Bool) :
    shape.decoder.ofTree (c.toJson.without removed).sorted = .ok (c.without removed) := by
  rw [Json.ok_iff_toOption, toJson, Json.ofTree_without independent_shape (by simp)]
  rw [Json.ofMembers_without rfl rfl (Json.ofTree_slot (a := c.idPrefix) rfl),
    Json.ofMembers_without rfl (by split <;> rfl)
      (Json.ofTree_slot (Poller.ofTree_without hdelay hms hmax _)),
    Json.ofMembers_without rfl (by split <;> split <;> rfl)
      (Json.ofTree_slot (a := c.logStages) rfl),
    Json.ofMembers_without rfl (by split <;> split <;> split <;> rfl)
      (Json.ofTree_slot (LoggingConfig.ofTree_without c.logging _))]
  unfold without
  cases removed ["id_prefix"] <;> cases removed ["default_poller"] <;>
    cases removed ["log_stages"] <;> cases removed ["logging"] <;> rfl

/-- Settings are written as a plain document. -/
theorem plain_toJson (c : FlowConfig) : c.toJson.Plain 2 := by
  have hpoller : c.defaultPoller.toJson.Plain 1 := by
    refine .object (by simp) ?_
    simp only [List.forall_mem_cons]
    exact ⟨.natural _, .natural _, nofun⟩
  have hlogging : c.logging.toJson.Plain 1 := by
    refine .object (by simp) ?_
    simp only [List.forall_mem_cons]
    exact ⟨.string _, .bool _, nofun⟩
  refine .object (by simp) ?_
  simp only [List.forall_mem_cons]
  exact ⟨.string _, hpoller, .bool _, hlogging, nofun⟩

/-- A text is read as the settings that its document stands for. -/
theorem ofText_of_spells {s : String} {v : Json} {c : FlowConfig} (h : Json.Spells s v)
    (hv : shape.decoder.ofTree v = .ok c) : ofText s = .ok c := by
  have htext := Json.fromTree_of_spells (Json.agrees_of_derived derived_decoder) h
  unfold Json.Decoder.fromTree at htext
  rw [hv] at htext
  unfold ofText ofBytes
  rw [Json.ok_iff_toOption.2 htext.symm]
  rfl

end FlowConfig

/-- Settings are read back from what is written of them, and whatever fields are removed from it
have their standard values, however the rest is spelled. The delay is a whole number of
milliseconds; this number and the count of messages have 64 bits. -/
theorem settings_read_back (c : FlowConfig) {ms : Nat}
    (hdelay : c.defaultPoller.fixedDelay = .ofMillis ms) (hms : ms < UInt64.size)
    (hmax : c.defaultPoller.maxMessages < UInt64.size) :
    FlowConfig.ofText c.text = .ok c ∧
    ∀ removed : List String → Bool,
      FlowConfig.ofText (c.toJson.without removed).text = .ok (c.without removed) ∧
      ∀ s, Json.Spells s (c.toJson.without removed).sorted →
        FlowConfig.ofText s = .ok (c.without removed) := by
  have hspelled : ∀ removed s, Json.Spells s (c.toJson.without removed).sorted →
      FlowConfig.ofText s = .ok (c.without removed) := fun removed _ h =>
    FlowConfig.ofText_of_spells h (FlowConfig.ofTree_without hdelay hms hmax removed)
  have hwritten : ∀ removed, FlowConfig.ofText (c.toJson.without removed).text =
      .ok (c.without removed) := fun removed =>
    hspelled removed _ (Json.spells_text
      (Json.plain_without (FlowConfig.plain_toJson c) removed) (by decide))
  refine ⟨?_, fun removed => ⟨hwritten removed, hspelled removed⟩⟩
  -- The whole document is what is left if nothing is removed.
  exact hwritten fun _ => false

section Witness

/-- Settings with the greatest numbers, and with texts in which much is escaped. -/
def awkward : FlowConfig where
  idPrefix := "\"\\\n\x01é😀"
  defaultPoller := ⟨.ofMillis (UInt64.size - 1), UInt64.size - 1⟩
  logStages := true
  logging := ⟨"a\tb\x7f", true⟩

/-- One field of each record. -/
def dropped (path : List String) : Bool :=
  path ∈ [["log_stages"], ["default_poller", "fixed_delay_ms"], ["logging", "level"]]

/-- Settings whose texts need escapes, with a delay as great as there is, read back with and without
some of their fields. -/
theorem settings_read_back_awkward :
    awkward.defaultPoller.fixedDelay = .ofMillis (UInt64.size - 1) ∧
      UInt64.size - 1 < UInt64.size ∧ awkward.defaultPoller.maxMessages < UInt64.size ∧
      FlowConfig.ofText awkward.text = .ok awkward ∧
      (awkward.toJson.without dropped).text =
        "\x7b\"id_prefix\":\"\\\"\\\\\\n\\u0001é😀\",\"default_poller\":" ++
          "\x7b\"max_messages_per_poll\":18446744073709551615\x7d," ++
          "\"logging\":\x7b\"json\":true\x7d\x7d" ∧
      FlowConfig.ofText (awkward.toJson.without dropped).text =
        .ok ⟨"\"\\\n\x01é😀", ⟨.ofMillis 1000, UInt64.size - 1⟩, false, ⟨"info", true⟩⟩ := by
  have hms : UInt64.size - 1 < UInt64.size := by decide
  have hmax : awkward.defaultPoller.maxMessages < UInt64.size := hms
  obtain ⟨hwhole, hleft⟩ := settings_read_back awkward rfl hms hmax
  exact ⟨rfl, hms, hmax, hwhole, by decide +kernel, (hleft dropped).1⟩

end Witness

end MessageFlow
