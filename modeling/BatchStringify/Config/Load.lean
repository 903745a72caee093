import BatchStringify.Config.Overlay
import BatchStringify.Toml.Document

/-!
# Loading settings

Settings come from the text of a document or from a file that holds one.
-/

namespace BatchStringify

/-- What stands at the path of a settings file. -/
inductive FileContent where
  | absent
  | directory
  | bytes (content : ByteArray)

/-- Why a file cannot be read as text. -/
inductive ReadFault where
  | notFound
  | isDirectory
  | notText
  deriving DecidableEq, Repr

/-- The wording of a read fault. -/
def ReadFault.message : ReadFault → String
  | .notFound => "No such file or directory (os error 2)"
  | .isDirectory => "Is a directory (os error 21)"
  | .notText => "stream did not contain valid UTF-8"

/-- The text of a file. -/
def FileContent.text : FileContent → Except ReadFault String
  | .absent => .error .notFound
  | .directory => .error .isDirectory
  | .bytes content =>
    match String.fromUTF8? content with
    | some text => .ok text
    | none => .error .notText

/-- Why settings could not be loaded. -/
inductive ConfigError where
  | unreadable (path : String) (fault : ReadFault)
  /-- The text is no valid document. -/
  | malformed
  /-- The document is valid, but a setting is of the wrong kind. -/
  | mismatch (m : Mismatch)

/-- The wording of a loading error; a malformed document has none here. -/
def ConfigError.message? : ConfigError → Option String
  | .unreadable path fault => some ("failed to read config file " ++ path ++ ": " ++ fault.message)
  | .malformed => none
  | .mismatch m => some ("failed to parse toml config: " ++ m.message)

/-- The settings that a text gives to a parser of documents. -/
def Settings.ofTextWith (parse? : String → Option (List (String × Toml.Value))) (text : String) :
    Except ConfigError Settings :=
  match parse? text with
  | none => .error .malformed
  | some entries =>
    match Settings.ofTable entries with
    | .ok settings => .ok settings
    | .error m => .error (.mismatch m)

/-- The settings that a text gives. -/
def Settings.ofText (text : String) : Except ConfigError Settings :=
  Settings.ofTextWith Toml.parse? text

/-- The settings that the file at a path gives. -/
def Settings.load (path : String) (content : FileContent) : Except ConfigError Settings :=
  match content.text with
  | .ok text => Settings.ofText text
  | .error fault => .error (.unreadable path fault)

end BatchStringify
