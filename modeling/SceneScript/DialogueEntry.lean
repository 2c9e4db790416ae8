import SceneScript.ImportKey
import SceneScript.Script
import SceneScript.Yaml.Reader
import SceneScript.Yaml.Writer

/-!
# Dialogue entries

In an exported project each spoken line is an entry: its key, the name of its speaker and its text. A document of entries is a
sequence of mappings. Reading needs the key and the text; the speaker is there for people. Any scalar is a text, whatever it looks
like.
-/

namespace SceneScript

/-- A spoken line outside of its script. -/
structure DialogueEntry where
  key : String
  speaker : String
  text : String
  deriving DecidableEq, Repr

/-- The spoken lines of a script as entries. -/
def Script.dialogueEntries (script : Script) : List DialogueEntry :=
  script.dialogue.mapIdx fun index line => ⟨ImportKey.ofLine index line, line.speaker.name, line.text⟩

namespace DialogueEntry

/-! ## Writing -/

/-- An entry as a mapping. -/
def toNode (entry : DialogueEntry) : Yaml.Node :=
  .ofFields [("key", .ofText entry.key), ("speaker", .ofText entry.speaker), ("text", .ofText entry.text)]

/-- The document of entries. -/
def document (entries : List DialogueEntry) : String :=
  (Yaml.Node.sequence (entries.map toNode)).render

/-! ## Reading -/

/-- The text of a scalar. -/
def textOf : Yaml.Node → Except Yaml.Fault String
  | .scalar text _ => .ok text
  | _ => .error .wrongForm

/-- The text of the field with a name, if there is one. A field must not come twice. -/
def field? (name : String) (fields : List (String × Yaml.Node)) : Except Yaml.Fault (Option String) :=
  match fields.filter fun (key, _) => key = name with
  | [] => .ok none
  | [(_, value)] => return some (← textOf value)
  | _ => .error .wrongForm

/-- The entry with given fields. -/
def ofFields (fields : List (String × Yaml.Node)) : Except Yaml.Fault DialogueEntry := do
  let key ← field? "key" fields
  let speaker ← field? "speaker" fields
  let text ← field? "text" fields
  match key, text with
  | some key, some text => pure ⟨key, speaker.getD "", text⟩
  | _, _ => throw .wrongForm

/-- The entry that a node stands for: a mapping of its fields, or the sequence of their values. Other fields are of no importance.
-/
def ofNode : Yaml.Node → Except Yaml.Fault DialogueEntry
  | .mapping entries => do ofFields (← entries.mapM fun (key, value) => return (← textOf key, value))
  | .sequence [key, speaker, text] => return ⟨← textOf key, ← textOf speaker, ← textOf text⟩
  | _ => .error .wrongForm

/-- The entries in a document. A document with nothing in it has none. -/
def ofDocument (text : String) : Except Yaml.Fault (List DialogueEntry) := do
  match ← Yaml.Node.ofText? text with
  | some (.sequence items) => items.mapM ofNode
  | some node => if node.isAbsent then pure [] else throw .wrongForm
  | none => pure []

end DialogueEntry

end SceneScript
