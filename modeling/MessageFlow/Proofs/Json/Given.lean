import MessageFlow.Config
import MessageFlow.Proofs.Json.Lockstep

/-!
# What a document gives

A document of settings may leave out any field. `FlowConfig.given` reads which fields it has and
with what values, field by field down to those of the poller, and makes nothing of those that are
absent. The settings of a document are what is given, and the standard values for the rest
(`ofText_eq`).
-/

namespace MessageFlow

open Json

namespace Json

variable {σ α : Type} {shape : RecordShape σ α} {finish : σ → α}

/-- The shape of the fields alone: the record is what was filled in. -/
def RecordShape.given (shape : RecordShape σ α) : RecordShape σ σ where
  expected := shape.expected
  fields := shape.fields
  empty := shape.empty
  ofObject := .ok
  ofArray s _ := .ok s

theorem field_lockstep_refl (field : Field σ) : field.Lockstep id field :=
  ⟨rfl, fun _ => rfl, Reader.lockstep_mono (Reader.lockstep_refl _) fun _ _ he _ => he ▸ rfl⟩

/-- A record that is never refused as a whole is finished from what was filled in. -/
theorem lockstep_given (hobject : ∀ s, shape.ofObject s = .ok (finish s))
    (harray : ∀ s count, shape.ofArray s count = .ok (finish s)) :
    shape.given.Lockstep id finish shape :=
  ⟨rfl, List.forall₂_same.2 fun field _ => field_lockstep_refl field, rfl, hobject, harray⟩

end Json

namespace FlowConfig

/-- What a document gives for the settings. -/
structure Given where
  idPrefix : Option String
  defaultPoller : Option Poller.Draft
  logStages : Option Bool
  logging : Option LoggingConfig.Draft

namespace Given

/-- The settings as far as they are filled in, each field as a whole. -/
def draft (g : Given) : Draft :=
  ⟨g.idPrefix, g.defaultPoller.map Poller.Draft.finish, g.logStages,
    g.logging.map LoggingConfig.Draft.finish⟩

def finish (g : Given) : FlowConfig :=
  g.draft.finish

/-- How many messages a poll takes at most: what was given, or else the standard. -/
theorem maxMessages_finish (g : Given) :
    g.finish.defaultPoller.maxMessages =
      (g.defaultPoller.bind (·.maxMessages)).getD Poller.standard.maxMessages := by
  unfold finish draft Draft.finish
  cases g.defaultPoller <;> rfl

end Given

def givenShape : RecordShape Given Given where
  expected := "struct FlowConfig"
  fields :=
    [ .slot "id_prefix" Decoder.string (·.idPrefix) fun v g => { g with idPrefix := some v },
      .slot "default_poller" Poller.shape.given.decoder (·.defaultPoller)
        fun v g => { g with defaultPoller := some v },
      .slot "log_stages" Decoder.bool (·.logStages) fun v g => { g with logStages := some v },
      .slot "logging" LoggingConfig.shape.given.decoder (·.logging)
        fun v g => { g with logging := some v } ]
  empty := ⟨none, none, none, none⟩
  ofObject := .ok
  ofArray g _ := .ok g

/-- Reads what a document gives, or refuses the document. -/
def given (s : String) : Except Failure Given :=
  (givenShape.decoder.fromBytes s.toUTF8.toList).mapError Failure.config

theorem lockstep_shape : givenShape.Lockstep Given.draft Given.finish shape := by
  refine ⟨rfl, ?_, rfl, fun _ => rfl, fun _ _ => rfl⟩
  have hpoller : Poller.shape.decoder.read =
      Poller.Draft.finish <$> Poller.shape.given.decoder.read :=
    lockstep_decoder (lockstep_given (fun _ => rfl) fun _ _ => rfl)
  have hlogging : LoggingConfig.shape.decoder.read =
      LoggingConfig.Draft.finish <$> LoggingConfig.shape.given.decoder.read :=
    lockstep_decoder (lockstep_given (fun _ => rfl) fun _ _ => rfl)
  refine .cons (lockstep_slot (h := id) (id_map _).symm ?_ fun _ _ => rfl)
    (.cons (lockstep_slot hpoller (fun _ => rfl) fun _ _ => rfl)
      (.cons (lockstep_slot (h := id) (id_map _).symm ?_ fun _ _ => rfl)
        (.cons (lockstep_slot hlogging (fun _ => rfl) fun _ _ => rfl) .nil)))
  · exact fun g => Option.map_id_apply.symm
  · exact fun g => Option.map_id_apply.symm

/-- A document is read into the settings that it gives, with the standard ones for the rest. -/
theorem ofText_eq (s : String) : ofText s = (given s).map Given.finish := by
  unfold ofText ofBytes given
  rw [fromBytes_of_lockstep lockstep_shape]
  cases givenShape.decoder.fromBytes s.toUTF8.toList <;> rfl

end FlowConfig

end MessageFlow
