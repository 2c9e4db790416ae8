import SceneScript.DialogueEntry
import SceneScript.Edit
import SceneScript.Project.Reading

/-!
# Assembling projects

A project is assembled by writing each of its dialogue entries back into its script, in the order of the entries.
-/

namespace SceneScript.Project

/-- The bytes of the script of a project with all its dialogue entries written back, each with at most `cap` bytes. Paths are
those in the folder of the project. -/
def assemble {m : Type → Type} [Monad m] [MonadExceptOf ProjectError m] (read : String → m Bytes) (cap : Nat) : m Bytes := do
  let project ← orFault .description (ofText? (← readText read descriptionFile))
  let bytes ← read project.scriptFile
  let catalogBytes ← read project.catalogFile
  let script ← scriptOf project.scriptFile bytes catalogBytes project.encoding
  let entries ← orFault .dialogue (DialogueEntry.ofDocument (← readText read project.dialogueFile))
  let (edited, outcomes) := script.importEntries cap (entries.map fun entry => (entry.key, entry.text))
  let _ ← orFault .script outcomes
  pure edited.bytes

end SceneScript.Project
