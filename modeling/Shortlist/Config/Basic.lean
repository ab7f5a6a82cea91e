import Shortlist.Facts

/-!
# Configuration

A configuration file has four sections: how feedback is joined, which facts are assumed, where the
store is kept, and how events are logged.  Every section and every member may be left out.

Since a file may hold what is part of itself, whatever is taken out of a mapping is put on its own
first (`Value.opened`).  Settings hold copies of the facts.
-/

namespace Shortlist

/-- Where the store is kept. -/
inductive Backend where
  | memory
  | files
deriving DecidableEq

/-- The written form of a backend. -/
def Backend.name : Backend → String
  | .memory => "memory"
  | .files => "jsonl"

/-- How log lines are written. -/
inductive Renderer where
  | json
  | console
deriving DecidableEq

/-- The written form of a renderer. -/
def Renderer.name : Renderer → String
  | .json => "json"
  | .console => "console"

/-- The section on where the store is kept. -/
structure StoreSection where
  backend : Backend := .memory
  path : Option Text := none
deriving DecidableEq

/-- The section on how events are logged. -/
structure LogSection where
  level : Text := "INFO"
  renderer : Renderer := .json
deriving DecidableEq

/-- A configuration. -/
structure Config where
  separator : Option Text := none
  defaults : Option Facts := none
  store : StoreSection := {}
  log : LogSection := {}

namespace Config

/-- Reads the section on feedback. -/
def readFeedback (v : Value) : Check (Option Text) :=
  (Check.entries (.notRecord "PipelineConfig") v).andThen fun es =>
    Check.optional es "feedback_separator" none Check.textOrNull

/-- Reads the section on assumed facts. -/
def readExtraction (v : Value) : Check (Option Facts) :=
  (Check.entries (.notRecord "ExtractionConfig") v.opened).andThen fun es =>
    Check.optional es "defaults" none (Check.orNull fun facts => Facts.read facts.opened)

/-- Reads the section on the store. -/
def readStore (v : Value) : Check StoreSection :=
  (Check.entries (.notRecord "StoreConfig") v).andThen fun es =>
    Check.closed es ["backend", "path"] <|
      StoreSection.mk
        <$> Check.optional es "backend" .memory
          (Check.oneOf ([Backend.memory, .files].map fun b => (b.name, b)))
        <*> Check.optional es "path" none Check.textOrNull

/-- Reads the section on the log. -/
def readLog (v : Value) : Check LogSection :=
  (Check.entries (.notRecord "LoggingConfig") v).andThen fun es =>
    LogSection.mk <$> Check.optional es "level" "INFO" Check.text
      <*> Check.optional es "renderer" .json
        (Check.oneOf ([Renderer.json, .console].map fun r => (r.name, r)))

/-- Reads a configuration; a document that holds nothing is one. -/
def read (v : Value) : Check Config :=
  match v.opened with
  | .null => .accepted {}
  | .mapping es =>
    Config.mk <$> Check.optional es "pipeline" none readFeedback
      <*> Check.optional es "extraction" none readExtraction
      <*> Check.optional es "store" {} readStore
      <*> Check.optional es "logging" {} readLog
  | _ => .refused [⟨[.name "config"], .notDictionary⟩]

/-- The mapping of assumed facts, or null. -/
def defaultsValue : Option Facts → Value
  | none => .null
  | some facts => facts.toValue

/-- The mapping of a configuration, with every member. -/
def toValue (c : Config) : Value :=
  .record [
    ("pipeline", .record [("feedback_separator", .ofText? c.separator)]),
    ("extraction", .record [("defaults", defaultsValue c.defaults)]),
    ("store", .record [("backend", .text c.store.backend.name), ("path", .ofText? c.store.path)]),
    ("logging", .record [("level", .text c.log.level), ("renderer", .text c.log.renderer.name)])]

/-- The settings by which a system is wired: what the configuration says about the pipeline, the
extractor and the store, without what it leaves open. -/
def toSettings (c : Config) : Value :=
  let pipeline := match c.separator with
    | none => []
    | some s => [("pipeline", Value.record [("feedback_separator", .text s)])]
  let extraction := match c.defaults with
    | none => []
    | some facts => [("extraction", Value.record [("defaults", facts.copied.toValue)])]
  let path := match c.store.path with
    | none => []
    | some p => [("path", Value.text p)]
  let store := match c.store.backend with
    | .memory => []
    | .files => [("store", Value.record (("backend", .text Backend.files.name) :: path))]
  .record (pipeline ++ extraction ++ store)

end Config

end Shortlist
