import BatchStringify.Config.Settings
import BatchStringify.Decimal.Layout
import BatchStringify.Text.Quoted
import BatchStringify.Toml.Value

/-!
# Reading settings

Settings are read from a TOML value by laying what it gives over the defaults. A group of settings
is a table, whose keys name the fields, or an array, whose elements are the fields in their order;
fields that are missing keep their default, and unknown keys and surplus elements mean nothing. The
first field of the wrong kind, in document order, is the error.
-/

namespace BatchStringify

/-- What a setting must be. -/
inductive Wanted where
  | boolean
  | string
  | logging
  | debugger
  deriving DecidableEq, Repr

/-- The name of what a setting must be. -/
def Wanted.name : Wanted → String
  | .boolean => "a boolean"
  | .string => "a string"
  | .logging => "struct LoggingConfig"
  | .debugger => "struct DebuggerConfig"

/-- A value that is not what its setting must be. -/
structure Mismatch where
  found : Toml.Value
  wanted : Wanted

/-- The name of what was found in place of a setting. -/
def Mismatch.foundName : Toml.Value → String
  | .string text => "string " ++ Text.quote text
  | .integer n => "integer `" ++ toString n ++ "`"
  | .float bits => "floating point `" ++ Decimal.Layout.marked.ofBits Binary.double bits ++ "`"
  | .boolean b => "boolean `" ++ (if b then "true" else "false") ++ "`"
  | .array _ => "sequence"
  | .table _ | .date => "map"

/-- The wording of a mismatch. -/
def Mismatch.message (m : Mismatch) : String :=
  "invalid type: " ++ foundName m.found ++ ", expected " ++ m.wanted.name

/-- One field of a group of settings. -/
structure SettingField (σ : Type) where
  key : String
  /-- Lays a value over the group. -/
  lay : Toml.Value → σ → Except Mismatch σ

namespace SettingField

variable {σ : Type}

/-- A field that is a truth value. -/
def flag (key : String) (set : Bool → σ → σ) : SettingField σ where
  key := key
  lay
    | .boolean b, group => .ok (set b group)
    | found, _ => .error ⟨found, .boolean⟩

/-- A field that is a text. -/
def text (key : String) (set : String → σ → σ) : SettingField σ where
  key := key
  lay
    | .string s, group => .ok (set s group)
    | found, _ => .error ⟨found, .string⟩

/-- Lays the entries of a table over a group. -/
def layTable (fields : List (SettingField σ)) (entries : List (String × Toml.Value)) (group : σ) :
    Except Mismatch σ :=
  entries.foldlM (fun group (key, v) =>
    match fields.find? (·.key = key) with
    | some field => field.lay v group
    | none => .ok group) group

/-- Lays the items of an array over a group. -/
def layArray (fields : List (SettingField σ)) (items : List Toml.Value) (group : σ) :
    Except Mismatch σ :=
  (fields.zip items).foldlM (fun group (field, v) => field.lay v group) group

/-- Lays a value over a group. A date is a table without any field of the group. -/
def layGroup (fields : List (SettingField σ)) (wanted : Wanted) (v : Toml.Value) (group : σ) :
    Except Mismatch σ :=
  match v with
  | .table entries => layTable fields entries group
  | .array items => layArray fields items group
  | .date => .ok group
  | found => .error ⟨found, wanted⟩

end SettingField

/-- The fields of the logging settings in order. -/
def LoggingSettings.fields : List (SettingField LoggingSettings) :=
  [.text "level" fun s group => { group with level := s },
   .flag "json" fun b group => { group with json := b },
   .flag "stderr" fun b group => { group with stderr := b }]

/-- The fields of the debugger settings in order. -/
def DebuggerSettings.fields : List (SettingField DebuggerSettings) :=
  [.flag "batch_evaluation" fun b group => { group with batchEvaluation := b },
   .text "batch_helper_class" fun s group => { group with helperClass := s },
   .text "batch_helper_method" fun s group => { group with helperMethod := s },
   .text "batch_helper_signature" fun s group => { group with helperSignature := s },
   .text "batch_array_type" fun s group => { group with arrayType := s }]

/-- The two groups of all settings. Each starts from its defaults. -/
def Settings.fields : List (SettingField Settings) :=
  [{ key := "logging"
     lay := fun v all => do
      let logging ← SettingField.layGroup LoggingSettings.fields .logging v {}
      return { all with logging := logging } },
   { key := "debugger"
     lay := fun v all => do
      let debugger ← SettingField.layGroup DebuggerSettings.fields .debugger v {}
      return { all with debugger := debugger } }]

/-- The settings that the root table of a document gives. -/
def Settings.ofTable (entries : List (String × Toml.Value)) : Except Mismatch Settings :=
  SettingField.layTable Settings.fields entries {}

end BatchStringify
