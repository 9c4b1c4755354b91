import TypedArtifacts.Json.Fields

namespace TypedArtifacts

inductive ConsoleFormat where
  | json
  | pretty
  | compact
  deriving DecidableEq

namespace ConsoleFormat

def name : ConsoleFormat → String
  | json => "json"
  | pretty => "pretty"
  | compact => "compact"

def all : List ConsoleFormat :=
  [json, pretty, compact]

def ofName? (text : String) : Option ConsoleFormat :=
  all.find? (·.name = text)

end ConsoleFormat

inductive Rotation where
  | daily
  | hourly
  | never
  deriving DecidableEq

namespace Rotation

def name : Rotation → String
  | daily => "daily"
  | hourly => "hourly"
  | never => "never"

def all : List Rotation :=
  [daily, hourly, never]

def ofName? (text : String) : Option Rotation :=
  all.find? (·.name = text)

end Rotation

structure ConsoleSettings where
  enabled : Bool := true
  format : ConsoleFormat := .json
  ansi : Bool := false
  deriving DecidableEq

structure FileSettings where
  directory : String := "./logs"
  stem : String := "tessera"
  rotation : Rotation := .daily
  maxFiles : Option Nat := some 14
  deriving DecidableEq

structure EventSettings where
  flattenEvents : Bool := true
  spanList : Bool := true
  location : Bool := false
  deriving DecidableEq

structure LogSettings where
  level : String := "info"
  requestContext : Bool := true
  console : ConsoleSettings := {}
  file : Option FileSettings := none
  events : EventSettings := {}
  targets : List (String × String) := []
  deriving DecidableEq

namespace ConsoleSettings

def ofJson? (j : Json) (c : Json.Conventions := Json.strict) : Option ConsoleSettings := do
  let fields ← j.fields? ["enabled", "format", "ansi"] 0 c
  let d : ConsoleSettings := {}
  let format (j : Json) := (j.constant? c).bind ConsoleFormat.ofName?
  return {
    enabled := ← Json.defaulted? Json.bool? d.enabled (fields.lookup "enabled")
    format := ← Json.defaulted? format d.format (fields.lookup "format")
    ansi := ← Json.defaulted? Json.bool? d.ansi (fields.lookup "ansi") }

def toJson (c : ConsoleSettings) : Json :=
  .record [("enabled", .bool c.enabled), ("format", .str c.format.name), ("ansi", .bool c.ansi)]

end ConsoleSettings

namespace FileSettings

def ofJson? (j : Json) (c : Json.Conventions := Json.strict) : Option FileSettings := do
  let fields ← j.fields? ["directory", "prefix", "rotation", "max_files"] 0 c
  let d : FileSettings := {}
  let rotation (j : Json) := (j.constant? c).bind Rotation.ofName?
  return {
    directory := ← Json.defaulted? Json.str? d.directory (fields.lookup "directory")
    stem := ← Json.defaulted? Json.str? d.stem (fields.lookup "prefix")
    rotation := ← Json.defaulted? rotation d.rotation (fields.lookup "rotation")
    maxFiles := ← Json.defaulted? (Json.nullable? Json.nat64?) d.maxFiles (fields.lookup "max_files") }

def toJson (f : FileSettings) : Json :=
  .record [("directory", .str f.directory), ("prefix", .str f.stem), ("rotation", .str f.rotation.name),
    ("max_files", .ofOption .ofNat f.maxFiles)]

end FileSettings

namespace EventSettings

def ofJson? (j : Json) (c : Json.Conventions := Json.strict) : Option EventSettings := do
  let fields ← j.fields? ["flatten_events", "span_list", "location"] 0 c
  let d : EventSettings := {}
  return {
    flattenEvents := ← Json.defaulted? Json.bool? d.flattenEvents (fields.lookup "flatten_events")
    spanList := ← Json.defaulted? Json.bool? d.spanList (fields.lookup "span_list")
    location := ← Json.defaulted? Json.bool? d.location (fields.lookup "location") }

def toJson (e : EventSettings) : Json :=
  .record [("flatten_events", .bool e.flattenEvents), ("span_list", .bool e.spanList),
    ("location", .bool e.location)]

end EventSettings

namespace LogSettings

def withTarget (target level : String) (l : LogSettings) : LogSettings :=
  { l with targets := Dict.insert target level l.targets }

def development : LogSettings :=
  ({ level := "debug", console := ⟨true, .pretty, true⟩ : LogSettings }.withTarget
    "tessera_engine::patch" "trace").withTarget "tessera_engine::proxy" "trace"

def production (directory : String) : LogSettings :=
  { console := { enabled := false }, file := some { directory := directory } }

def testing : LogSettings :=
  { level := "warn", console := ⟨true, .compact, false⟩, requestContext := false }

def directives (l : LogSettings) : String :=
  ",".intercalate (l.level :: l.targets.map fun (target, level) => target ++ "=" ++ level)

def ofJson? (j : Json) (c : Json.Conventions := Json.strict) : Option LogSettings := do
  let fields ← j.fields? ["default_level", "request_context", "console", "file", "json", "targets"] 0 c
  let d : LogSettings := {}
  return {
    level := ← Json.defaulted? Json.str? d.level (fields.lookup "default_level")
    requestContext := ← Json.defaulted? Json.bool? d.requestContext (fields.lookup "request_context")
    console := ← Json.defaulted? (ConsoleSettings.ofJson? · c) d.console (fields.lookup "console")
    file := ← Json.defaulted? (Json.nullable? (FileSettings.ofJson? · c)) d.file (fields.lookup "file")
    events := ← Json.defaulted? (EventSettings.ofJson? · c) d.events (fields.lookup "json")
    targets := ← Json.defaulted? (Json.dictOf? Json.str?) d.targets (fields.lookup "targets") }

def toJson (l : LogSettings) : Json :=
  .record [("default_level", .str l.level), ("request_context", .bool l.requestContext),
    ("console", l.console.toJson), ("file", .ofOption FileSettings.toJson l.file),
    ("json", l.events.toJson), ("targets", .obj (Dict.mapValues .str l.targets))]

end LogSettings

end TypedArtifacts
