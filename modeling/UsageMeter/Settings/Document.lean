import UsageMeter.Ini.Document
import UsageMeter.Json.Document
import UsageMeter.Json5.Document
import UsageMeter.Ron.Document
import UsageMeter.Settings.Layer
import UsageMeter.Text.Utf8
import UsageMeter.Toml.Document
import UsageMeter.Yaml.Document

/-!
Files of settings. The end of a file's name tells its format; its content has
to be a table.
-/
namespace UsageMeter.Settings
open UsageMeter.Json (Value)

/-- The formats of files. -/
inductive FileFormat where
  | ini
  | json
  | json5
  | ron
  | toml
  | yaml
deriving DecidableEq, Repr

/-- The part of a name after its last dot, unless the dot comes first. -/
def extension (name : String) : String :=
  let base := (name.splitOn "/").getLastD ""
  let parts := base.splitOn "."
  if parts.length ≤ 1 ∨ (parts.length = 2 ∧ parts.head? = some "") then ""
  else parts.getLastD ""

/-- The format of a file by its name. -/
def FileFormat.ofName? (name : String) : Option FileFormat :=
  match extension name with
  | "ini" => some .ini
  | "json" => some .json
  | "json5" => some .json5
  | "ron" => some .ron
  | "toml" => some .toml
  | "yaml" => some .yaml
  | "yml" => some .yaml
  | _ => none

/-- Reads a text in a format. -/
def FileFormat.parse (format : FileFormat) (s : List Char) : Option Value :=
  match format with
  | .ini => Ini.parse s
  | .json => (Value.parse (String.ofList s)).toOption
  | .json5 => Json5.parse s
  | .ron => Ron.parse s
  | .toml => Toml.parse s
  | .yaml => Yaml.parse s

/-- A file by its name and, if it is there, its bytes. -/
structure File where
  name : String
  bytes : Option (List UInt8)
deriving DecidableEq, Repr

/-- The layer of a file; none if it cannot be read as a table. -/
def Layer.ofFile? (f : File) : Option Layer := do
  let bytes ← f.bytes
  let format ← FileFormat.ofName? f.name
  match ← format.parse (Text.decode (Text.withoutMark bytes)) with
  | .object fields => some (fields.map fun (name, v) => entry name v)
  | _ => none

end UsageMeter.Settings
