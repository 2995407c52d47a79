/-!
# Stages

What kinds of stages a flow can have, and how a stage is named in diagnostics.
-/

namespace MessageFlow

/-- What a stage does with a message. -/
inductive StageKind where
  /-- Turns one payload into another. -/
  | transform
  /-- Decodes a payload into a declared type. -/
  | convert
  /-- Lets a message pass or rejects it. -/
  | filter
  /-- Turns one message into many. -/
  | split
  /-- Chooses the channel a message goes to. -/
  | route
  /-- Passes messages from one channel to another. -/
  | bridge
  /-- Consumes messages. -/
  | handle
  /-- Passes messages and logs them. -/
  | log
  deriving DecidableEq, Repr

def StageKind.all : List StageKind :=
  [.transform, .convert, .filter, .split, .route, .bridge, .handle, .log]

/-- The name of a kind, as it appears in generated ids and diagnostics. -/
def StageKind.name : StageKind → String
  | .transform => "transform"
  | .convert => "convert"
  | .filter => "filter"
  | .split => "split"
  | .route => "route"
  | .bridge => "bridge"
  | .handle => "handle"
  | .log => "log"

/-- The kind as a variant name. -/
def StageKind.inspect : StageKind → String
  | .transform => "Transform"
  | .convert => "Convert"
  | .filter => "Filter"
  | .split => "Split"
  | .route => "Route"
  | .bridge => "Bridge"
  | .handle => "Handle"
  | .log => "Log"

/-- The kind with a given name. -/
def StageKind.ofName? (name : String) : Option StageKind :=
  StageKind.all.find? (·.name == name)

/-- The id and kind of a stage. -/
structure StageInfo where
  id : String
  kind : StageKind
  deriving DecidableEq, Repr

/-- How a stage is referred to: its kind, then its id. -/
def StageInfo.text (stage : StageInfo) : String :=
  stage.kind.name ++ " stage '" ++ stage.id ++ "'"

end MessageFlow
