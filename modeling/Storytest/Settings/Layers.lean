import Storytest.Settings.Document.Reader
import Storytest.Settings.Environment

/-!
# Layers of settings

Settings come from three layers: defaults, an optional file, and the environment. Each setting is
taken, as a whole, from the last layer that has it, and only then is its type checked.
-/

namespace Storytest

namespace Settings

/-- Where a setting was found. -/
inductive Layer where
  | file (name : String)
  | environment
  deriving DecidableEq, Repr

/-- How a layer is called. -/
def Layer.name : Layer → String
  | .file name => name ++ " TOML file"
  | .environment => "`GWT_` environment variable(s)"

/-- How a layer writes the key of a setting. -/
def Layer.key (path : List String) : Layer → String
  | .file _ => "default." ++ ".".intercalate path
  | .environment => ".".intercalate (path.map String.toUpper)

/-- A settings file, by its name, with the text it holds if it is there. -/
structure File where
  name : String
  content : Option String

/-- The settings of one layer, by name. -/
structure LayerSettings where
  layer : Layer
  settings : List (String × Tree)

/-- A setting by its name, in the last layer that has it. -/
def find? (layers : List LayerSettings) (name : String) : Option (Layer × Tree) :=
  layers.reverse.findSome? fun source =>
    (Assoc.get? source.settings name).map fun tree => (source.layer, tree)

/-- The settings of a file; none for a file that is not there. -/
def File.settings (file : File) : Except SettingsFault (List (String × Tree)) :=
  match file.content with
  | none => .ok []
  | some text =>
    match Document.read? text with
    | some settings => .ok settings
    | none => .error .malformed

/-- The layers above the defaults, the environment last. -/
def layers (file : Option File) (environment : List (String × String)) :
    Except SettingsFault (List LayerSettings) := do
  let above := [⟨.environment, Environment.settings environment⟩]
  match file with
  | none => return above
  | some file => return ⟨.file file.name, ← file.settings⟩ :: above

/-- A mismatch, with the layer that the setting was found in. -/
def fault (layers : List LayerSettings) (mismatch : Mismatch) : SettingsFault :=
  match mismatch.path.head?.bind (find? layers) with
  | some (layer, _) =>
    .wrongType mismatch.path mismatch.found mismatch.expected (layer.key mismatch.path) layer.name
  | none => .described ("invalid type: found " ++ mismatch.found)

end Settings

namespace Suite

open Settings

/-- Loads the settings of a suite from an optional file and the environment. -/
def load (file : Option File) (environment : List (String × String)) :
    Except Failure Suite := do
  let layers ← (layers file environment).mapError .settings
  let suite := ofSettings fun name => (find? layers name).map Prod.snd
  suite.mapError fun mismatch => .settings (fault layers mismatch)

end Suite

end Storytest
