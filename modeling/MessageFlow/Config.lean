import MessageFlow.Failure
import MessageFlow.Poller

/-!
# Configurations

The settings that all flows of an application share. A configuration is read from a JSON document
in which every field is optional and unknown fields are ignored, and it is written with all of its
fields in their order.

The options of logging are only kept here. Who sets up a log by them is the application, and what
flows log is in the journal, whatever these options say.
-/

namespace MessageFlow

/-- Logging options. -/
structure LoggingConfig where
  /-- A filter directive such as `info`. -/
  level : String
  /-- Whether log lines are JSON. -/
  json : Bool
  deriving DecidableEq, Repr

namespace LoggingConfig

/-- Readable lines from level `info` on. -/
def standard : LoggingConfig := ⟨"info", false⟩

/-- Logging options whose fields are filled in one by one. -/
structure Draft where
  level : Option String
  json : Option Bool

/-- The options; fields that are missing have their standard values. -/
def Draft.finish (d : Draft) : LoggingConfig :=
  ⟨d.level.getD standard.level, d.json.getD standard.json⟩

def shape : Json.RecordShape Draft LoggingConfig where
  expected := "struct LoggingConfig"
  fields :=
    [ .slot "level" Json.Decoder.string (·.level) fun v d => { d with level := some v },
      .slot "json" Json.Decoder.bool (·.json) fun v d => { d with json := some v } ]
  empty := ⟨none, none⟩
  ofObject d := .ok d.finish
  ofArray d _ := .ok d.finish

def toJson (c : LoggingConfig) : Json :=
  .object [("level", .string c.level), ("json", .bool c.json)]

def inspect (c : LoggingConfig) : String :=
  Text.Inspect.record "LoggingConfig"
    [("level", Text.Inspect.quoted c.level), ("json", Text.Inspect.bool c.json)]

end LoggingConfig

/-- Settings of flows. -/
structure FlowConfig where
  /-- What generated flow ids begin with. -/
  idPrefix : String
  /-- The poller of polling sources that have none of their own. -/
  defaultPoller : Poller
  /-- Whether every stage logs what enters and leaves it. -/
  logStages : Bool
  logging : LoggingConfig
  deriving DecidableEq, Repr

namespace FlowConfig

/-- The settings without any configuration. -/
def standard : FlowConfig := ⟨"flow", .standard, false, .standard⟩

/-- Settings whose fields are filled in one by one. -/
structure Draft where
  idPrefix : Option String
  defaultPoller : Option Poller
  logStages : Option Bool
  logging : Option LoggingConfig

/-- The settings; fields that are missing have their standard values. -/
def Draft.finish (d : Draft) : FlowConfig :=
  ⟨d.idPrefix.getD standard.idPrefix, d.defaultPoller.getD standard.defaultPoller,
    d.logStages.getD standard.logStages, d.logging.getD standard.logging⟩

def shape : Json.RecordShape Draft FlowConfig where
  expected := "struct FlowConfig"
  fields :=
    [ .slot "id_prefix" Json.Decoder.string (·.idPrefix) fun v d => { d with idPrefix := some v },
      .slot "default_poller" Poller.decoder (·.defaultPoller)
        fun v d => { d with defaultPoller := some v },
      .slot "log_stages" Json.Decoder.bool (·.logStages) fun v d => { d with logStages := some v },
      .slot "logging" LoggingConfig.shape.decoder (·.logging)
        fun v d => { d with logging := some v } ]
  empty := ⟨none, none, none, none⟩
  ofObject d := .ok d.finish
  ofArray d _ := .ok d.finish

/-- Reads settings from the bytes of a document. -/
def ofBytes (bytes : List UInt8) : Except Failure FlowConfig :=
  (shape.decoder.fromBytes bytes).mapError Failure.config

def ofText (s : String) : Except Failure FlowConfig :=
  ofBytes s.toUTF8.toList

def toJson (c : FlowConfig) : Json :=
  .object
    [ ("id_prefix", .string c.idPrefix), ("default_poller", c.defaultPoller.toJson),
      ("log_stages", .bool c.logStages), ("logging", c.logging.toJson) ]

def text (c : FlowConfig) : String :=
  c.toJson.text

def inspect (c : FlowConfig) : String :=
  Text.Inspect.record "FlowConfig"
    [ ("id_prefix", Text.Inspect.quoted c.idPrefix), ("default_poller", c.defaultPoller.inspect),
      ("log_stages", Text.Inspect.bool c.logStages), ("logging", c.logging.inspect) ]

end FlowConfig

end MessageFlow
