import TypedArtifacts.Settings
import TypedArtifacts.Toml
import TypedArtifacts.Toml.Table

/-!
Settings as TOML documents. What is written reads back as the same settings.
-/

namespace TypedArtifacts

def FileSettings.table (f : FileSettings) : Toml.Table :=
  ⟨["logging", "file"],
    [("directory", .text f.directory), ("prefix", .text f.stem), ("rotation", .text f.rotation.name)] ++
      f.maxFiles.toList.map fun n => ("max_files", .nat n)⟩

def LogSettings.tables (l : LogSettings) : List Toml.Table :=
  [⟨["logging"], [("default_level", .text l.level), ("request_context", .bool l.requestContext)]⟩,
    ⟨["logging", "console"],
      [("enabled", .bool l.console.enabled), ("format", .text l.console.format.name),
        ("ansi", .bool l.console.ansi)]⟩] ++
    l.file.toList.map (·.table) ++
    [⟨["logging", "json"],
      [("flatten_events", .bool l.events.flattenEvents), ("span_list", .bool l.events.spanList),
        ("location", .bool l.events.location)]⟩,
      ⟨["logging", "targets"], Dict.mapValues .text l.targets⟩]

namespace Settings

def tables (s : Settings) : List Toml.Table :=
  ⟨[], [("max_unwrap_depth", .nat s.maxUnwrapDepth), ("download_url_prefix", .text s.linkBase),
    ("default_show_level", .text s.showLevel.name),
    ("allowed_patch_ops", .texts (s.allowedPatches.map (·.name))),
    ("mutable_state", .text s.mutableState.name)]⟩ :: s.logging.tables

def toToml (s : Settings) : String :=
  Toml.write s.tables

def ofToml? (text : String) : Option Settings := do
  ofJson? (← Toml.parse? text) Toml.conventions

end Settings

end TypedArtifacts
