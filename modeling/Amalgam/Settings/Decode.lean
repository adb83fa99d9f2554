import Amalgam.Settings.Basic
import Amalgam.Toml.Document

namespace Amalgam

namespace Toml.Entries

/-- The entries of a value that stands for a structure with these fields: a table with its fields by
key, or an array with its fields in their order. A moment stands for a structure without any. Beside
the fields, a table may hold whatever can be read, and an array whatever comes behind them. -/
def ofValue? (fields : List String) : Value → Option Entries
  | .table _ entries =>
    if entries.all fun (key, value) => fields.contains key || value.isReadable then some entries
    else none
  | .array _ items => some (fields.zip items)
  | .moment _ => some []
  | _ => none

/-- The default where the field is missing, and nothing where its value does not decode. -/
def read {α : Type} (entries : Entries) (field : String) (default : α)
    (decode : Value → Option α) : Option α :=
  match entries.lookup field with
  | none => some default
  | some value => decode value

end Toml.Entries

namespace Toml.Value

def string? : Value → Option String
  | string text => some text
  | _ => none

def path? (value : Value) : Option Path :=
  value.string?.map Path.ofString

def strings? : Value → Option (List String)
  | array _ items => items.mapM string?
  | _ => none

/-- Offsets are counts of 64 bits. -/
def offset? : Value → Option Nat
  | integer n => if 0 ≤ n ∧ n < 18446744073709551616 then some n.toNat else none
  | _ => none

end Toml.Value

namespace Terminator

def ofName? (name : String) : Option Terminator :=
  if name = lineOffset.name then some lineOffset
  else if name = statementEnd.name then some statementEnd
  else none

/-- The name of a terminator, or a table whose only key is the name and whose value is empty. -/
def ofValue? : Toml.Value → Option Terminator
  | .string name => ofName? name
  | .table _ [(name, .table _ [])] => ofName? name
  | .table _ [(name, .array _ [])] => ofName? name
  | _ => none

end Terminator

def HeaderSettings.fields : List String :=
  ["subdir", "files", "output", "drop_include_prefixes", "drop_markers", "drop_patterns"]

def HeaderSettings.ofValue? (value : Toml.Value) : Option HeaderSettings := do
  let entries ← Toml.Entries.ofValue? fields value
  let default : HeaderSettings := {}
  return {
    subdir := ← entries.read "subdir" default.subdir Toml.Value.path?
    files := ← entries.read "files" default.files Toml.Value.strings?
    output := ← entries.read "output" default.output Toml.Value.string?
    dropIncludePrefixes :=
      ← entries.read "drop_include_prefixes" default.dropIncludePrefixes Toml.Value.strings?
    dropMarkers := ← entries.read "drop_markers" default.dropMarkers Toml.Value.strings?
    dropPatterns := ← entries.read "drop_patterns" default.dropPatterns Toml.Value.strings? }

def ImplementationSettings.fields : List String := [
  "subdir", "files", "output", "drop_include_prefixes", "drop_patterns", "system_includes",
  "throw_pattern", "diagnostic", "raise", "terminator", "terminator_offset"]

def ImplementationSettings.ofValue? (value : Toml.Value) : Option ImplementationSettings := do
  let entries ← Toml.Entries.ofValue? fields value
  let default : ImplementationSettings := {}
  return {
    subdir := ← entries.read "subdir" default.subdir Toml.Value.path?
    files := ← entries.read "files" default.files Toml.Value.strings?
    output := ← entries.read "output" default.output Toml.Value.string?
    dropIncludePrefixes :=
      ← entries.read "drop_include_prefixes" default.dropIncludePrefixes Toml.Value.strings?
    dropPatterns := ← entries.read "drop_patterns" default.dropPatterns Toml.Value.strings?
    systemIncludes := ← entries.read "system_includes" default.systemIncludes Toml.Value.strings?
    throwPattern := ← entries.read "throw_pattern" default.throwPattern Toml.Value.string?
    diagnostic := ← entries.read "diagnostic" default.diagnostic Toml.Value.string?
    raise := ← entries.read "raise" default.raise Toml.Value.string?
    terminator := ← entries.read "terminator" default.terminator Terminator.ofValue?
    terminatorOffset :=
      ← entries.read "terminator_offset" default.terminatorOffset Toml.Value.offset? }

namespace Settings

def fields : List String :=
  ["base-env-var", "formats-dir", "output-dir", "header", "implementation"]

/-- The settings that a document gives. -/
def ofEntries? (entries : Toml.Entries) : Option Settings := do
  let entries ← Toml.Entries.ofValue? fields (.table .header entries)
  let default : Settings := {}
  return {
    baseVariable := ← entries.read "base-env-var" default.baseVariable Toml.Value.string?
    formatsDir := ← entries.read "formats-dir" default.formatsDir Toml.Value.path?
    outputDir := ← entries.read "output-dir" default.outputDir Toml.Value.path?
    header := ← entries.read "header" default.header HeaderSettings.ofValue?
    implementation :=
      ← entries.read "implementation" default.implementation ImplementationSettings.ofValue? }

end Settings

end Amalgam
