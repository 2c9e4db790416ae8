import SceneScript.DialogueEntry
import SceneScript.Listing
import SceneScript.Project.Reading

/-!
# Taking script files apart

A script file is read together with the file of its catalog. It can be decompiled, or exported as a project: the two files as they
are, a listing, and the spoken lines as a document to edit.
-/

namespace SceneScript

/-- A script, and the file of its catalog. -/
structure Disassembly where
  script : Script
  catalogBytes : Bytes
  deriving Repr

namespace Disassembly

/-- Reads a script and its catalog. -/
def load {m : Type → Type} [Monad m] [MonadExceptOf ProjectError m] (read : String → m Bytes) (input catalog : String)
    (encoding : Encoding) : m Disassembly := do
  let bytes ← read input
  let catalogBytes ← read catalog
  return ⟨← Project.scriptOf input bytes catalogBytes encoding, catalogBytes⟩

/-- Reads a script and its catalog, and decompiles the script. -/
def decompile {m : Type → Type} [Monad m] [MonadExceptOf ProjectError m] (read : String → m Bytes) (input catalog : String)
    (encoding : Encoding) (mode : RenderMode) : m String := do
  let disassembly ← load read input catalog encoding
  orFault .script (disassembly.script.decompile mode)

/-! ## Export -/

/-- The description of the project that a script is exported as. -/
def project (d : Disassembly) : Project where
  name := d.script.header.name
  encoding := d.script.encoding
  scriptFile := "script.bin"
  catalogFile := "catalog.bin"
  listingFile := "script.yaml"
  dialogueFile := "dialogue.yaml"

/-- The bytes of a text. -/
def textBytes (text : String) : Bytes :=
  (Encoding.utf8.encode text).toArray

/-- The files of the project with their names, in the order in which they are written, and how the export ends. A listing that
cannot be rendered is left empty, and the files after it are not written. -/
def files (d : Disassembly) : List (String × Bytes) × Except ScriptError Unit :=
  let project := d.project
  let binaries := [(project.scriptFile, d.script.bytes), (project.catalogFile, d.catalogBytes)]
  match d.script.listing with
  | .error fault => (binaries ++ [(project.listingFile, #[])], .error fault)
  | .ok blocks =>
    (binaries ++ [
      (project.listingFile, textBytes (ListedBlock.document blocks)),
      (project.dialogueFile, textBytes (DialogueEntry.document d.script.dialogueEntries)),
      (Project.descriptionFile, textBytes project.toText)], .ok ())

end Disassembly

end SceneScript
