import TypedArtifacts.Lifecycle
import TypedArtifacts.Patch.Operation
import TypedArtifacts.Rendering.Level
import TypedArtifacts.Settings.Logging

namespace TypedArtifacts

structure Settings where
  maxUnwrapDepth : Nat := 8
  linkBase : String := "/artifacts"
  showLevel : ShowLevel := .basic
  allowedPatches : List Patch.Verb := [.add, .replace, .remove]
  mutableState : Lifecycle := .creating
  logging : LogSettings := {}
  deriving DecidableEq

inductive SettingsError where
  | noDepth
  | deletedMutable
  deriving DecidableEq

def SettingsError.message : SettingsError → String
  | noDepth => "invalid configuration: max_unwrap_depth must be at least 1"
  | deletedMutable => "invalid configuration: mutable_state cannot be 'deleted'"

namespace Settings

def check (s : Settings) : Except SettingsError Unit :=
  if s.maxUnwrapDepth = 0 then .error .noDepth
  else if s.mutableState = .deleted then .error .deletedMutable
  else .ok ()

def trimSlashes (text : String) : String :=
  String.ofList (text.toList.reverse.dropWhile (· = '/')).reverse

def urlBase (s : Settings) : String :=
  trimSlashes s.linkBase

def ofJson? (j : Json) (c : Json.Conventions := Json.strict) : Option Settings := do
  let fields ← j.fields? ["max_unwrap_depth", "download_url_prefix", "default_show_level",
    "allowed_patch_ops", "mutable_state", "logging"] 0 c
  let d : Settings := {}
  let showLevel (j : Json) := (j.constant? c).bind ShowLevel.ofName?
  let state (j : Json) := (j.constant? c).bind Lifecycle.ofName?
  return {
    maxUnwrapDepth := ← Json.defaulted? Json.nat64? d.maxUnwrapDepth (fields.lookup "max_unwrap_depth")
    linkBase := ← Json.defaulted? Json.str? d.linkBase (fields.lookup "download_url_prefix")
    showLevel := ← Json.defaulted? showLevel d.showLevel (fields.lookup "default_show_level")
    allowedPatches := ← Json.defaulted? (Json.listOf? (Patch.Verb.ofJson? · c)) d.allowedPatches
      (fields.lookup "allowed_patch_ops")
    mutableState := ← Json.defaulted? state d.mutableState (fields.lookup "mutable_state")
    logging := ← Json.defaulted? (LogSettings.ofJson? · c) d.logging (fields.lookup "logging") }

def toJson (s : Settings) : Json :=
  .record [("max_unwrap_depth", .ofNat s.maxUnwrapDepth), ("download_url_prefix", .str s.linkBase),
    ("default_show_level", .str s.showLevel.name),
    ("allowed_patch_ops", .ofStrings (s.allowedPatches.map (·.name))),
    ("mutable_state", .str s.mutableState.name), ("logging", s.logging.toJson)]

end Settings

end TypedArtifacts
