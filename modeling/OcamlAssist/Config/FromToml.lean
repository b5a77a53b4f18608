-- The configuration written down as TOML. Every key may be missing and keys
-- that are not known are passed over, but a known key with a value of the
-- wrong kind makes the configuration invalid.
import OcamlAssist.Config.Basic
import OcamlAssist.Toml.Reader

namespace OcamlAssist.Config

open OcamlAssist.Toml

def asText? : Node → Option String
  | .text value => some value
  | _ => none

def asBoolean? : Node → Option Bool
  | .boolean value => some value
  | _ => none

def asTexts? : Node → Option (List String)
  | .array parts => parts.mapM asText?
  | _ => none

def asHours? : Node → Option Nat
  | .integer value => if 0 ≤ value ∧ value < 4294967296 then some value.toNat else none
  | _ => none

/-- A value that may be missing; one that is there has to be of its kind. -/
def ifPresent {α : Type} (read? : Node → Option α) (absent : α) : Option Node → Option α
  | none => some absent
  | some node => read? node

def logOf (enabled level hours : Option Node) : Option LogSettings := do
  let usual : LogSettings := {}
  return {
    enabled := ← ifPresent asBoolean? usual.enabled enabled
    level := ← ifPresent (fun node => (asText? node).map LogLevel.ofSetting) usual.level level
    retentionHours := ← ifPresent asHours? usual.retentionHours hours }

/-- The settings of the log: a table with a key for each, or an array with the values in order.
What an array holds past them is passed over. A date or a time passes for a table with none of
the keys. -/
def asLog? : Node → Option LogSettings
  | .table _ entries =>
    logOf (Entries.get? entries "enabled") (Entries.get? entries "level")
      (Entries.get? entries "retention_hours")
  | .array parts => logOf parts[0]? parts[1]? parts[2]?
  | .dateTime => logOf none none none
  | _ => none

def ofToml? (text : String) : Option Config := do
  let entries ← Toml.read? text
  return {
    settings.buildDir :=
      ← ifPresent (fun node => (asText? node).map some) none (entries.get? Settings.buildDirKey)
    toolPath := ← ifPresent (fun node => (asText? node).map some) none (entries.get? "ocp_index_path")
    folders := ← ifPresent asTexts? [] (entries.get? "folders")
    log := ← ifPresent asLog? {} (entries.get? "log") }

end OcamlAssist.Config
