import SceneScript.Project.Description
import SceneScript.Script
import SceneScript.Yaml.Token

/-!
# Reading files of a project

Files are read by whatever means there is: from a disk, or from a table of contents. The first file that cannot be read ends the
work, and so does the first that makes no sense.
-/

namespace SceneScript

/-- Why a file cannot be read. -/
inductive FileFault where
  | notFound
  | isFolder
  | notAFolder
  /-- The file is no text in UTF-8. -/
  | notText
  | other (message : String)
  deriving DecidableEq, Repr

/-- What ends the work on files. -/
inductive ProjectError where
  | script (fault : ScriptError)
  | notAScript (path : String)
  | description (fault : Toml.Fault)
  | dialogue (fault : Yaml.Fault)
  | file (path : String) (fault : FileFault)
  deriving DecidableEq, Repr

/-- The wording of a fault. -/
def FileFault.message : FileFault → String
  | .notFound => "no such file"
  | .isFolder => "it is a folder"
  | .notAFolder => "part of its path is no folder"
  | .notText => "it is not UTF-8"
  | .other message => message

/-- The wording of an error. -/
def ProjectError.message : ProjectError → String
  | .script fault => fault.message
  | .notAScript path => s!"{path} is not a script file"
  | .description _ => "the project description is malformed"
  | .dialogue _ => "the dialogue is malformed"
  | .file path fault => s!"cannot read {path}: {fault.message}"

/-- Goes on with a result, or ends the work with its fault. -/
def orFault {m : Type → Type} [Monad m] [MonadExceptOf ProjectError m] {ε α : Type} (wrap : ε → ProjectError) :
    Except ε α → m α
  | .ok a => pure a
  | .error e => throw (wrap e)

namespace Project

/-- Reads a text. -/
def readText {m : Type → Type} [Monad m] [MonadExceptOf ProjectError m] (read : String → m Bytes) (path : String) : m String := do
  match Utf8.text? (← read path).toList with
  | some text => pure text
  | none => throw (.file path .notText)

/-- The script in the bytes of a file. -/
def scriptOf {m : Type → Type} [Monad m] [MonadExceptOf ProjectError m] (path : String) (bytes catalogBytes : Bytes)
    (encoding : Encoding) : m Script := do
  let catalog ← orFault .script (Catalog.parse catalogBytes)
  match ← orFault .script (Script.parse? bytes catalog encoding) with
  | some script => pure script
  | none => throw (.notAScript path)

end Project

end SceneScript
