import SceneScript.Text.Encoding
import SceneScript.Toml.Reader
import SceneScript.Toml.Writer

/-!
# Project descriptions

A project is a folder with a script, its command catalog, a listing, and the spoken lines as text. Its description names them, and
tells the encoding of the script. Further entries of a description are of no importance.
-/

namespace SceneScript

/-- What a project consists of. The files are named by their paths in its folder. -/
structure Project where
  name : String
  encoding : Encoding
  scriptFile : String
  catalogFile : String
  listingFile : String
  dialogueFile : String
  deriving DecidableEq, Repr

namespace Project

/-- The file that holds the description. -/
def descriptionFile : String := "project.toml"

/-! ## Writing -/

/-- The text of a description. -/
def toText (project : Project) : String :=
  String.join [
    Toml.assignmentLine "name" project.name,
    Toml.assignmentLine "encoding" project.encoding.name,
    Toml.assignmentLine "script_file" project.scriptFile,
    Toml.assignmentLine "catalog_file" project.catalogFile,
    Toml.assignmentLine "listing_file" project.listingFile,
    Toml.assignmentLine "dialogue_file" project.dialogueFile]

/-! ## Reading -/

/-- The text of a key. -/
def textAt (entries : Toml.Entries) (key : String) : Except Toml.Fault String :=
  match entries.get? key with
  | some (.string text) => .ok text
  | some _ => .error (.wrongType key)
  | none => .error (.missingKey key)

/-- Is this an empty collection? -/
def isEmptyCollection : Toml.Value → Bool
  | .array items => items.isEmpty
  | .table _ entries => entries.isEmpty
  | _ => false

/-- The encoding of a key: its name as a text, or as the only key of a table with nothing in it. -/
def encodingAt (entries : Toml.Entries) (key : String) : Except Toml.Fault Encoding :=
  match entries.get? key with
  | some (.string name) => named name
  | some (.table _ [(name, value)]) => if isEmptyCollection value then named name else .error (.wrongType key)
  | some _ => .error (.wrongType key)
  | none => .error (.missingKey key)
where
  /-- The encoding with a name. -/
  named (name : String) : Except Toml.Fault Encoding :=
    match Encoding.ofName? name with
    | some encoding => .ok encoding
    | none => .error (.wrongType key)

/-- The description that a text holds. -/
def ofText? (text : String) : Except Toml.Fault Project := do
  let entries ← Toml.Entries.ofText? text
  pure {
    name := ← textAt entries "name"
    encoding := ← encodingAt entries "encoding"
    scriptFile := ← textAt entries "script_file"
    catalogFile := ← textAt entries "catalog_file"
    listingFile := ← textAt entries "listing_file"
    dialogueFile := ← textAt entries "dialogue_file" }

end Project

end SceneScript
