import SceneScript.CommandLine
import SceneScript.Project.Assembly
import SceneScript.Project.Disassembly

/-!
# The program

The first word of the command line names what to do: `assemble`, `disassemble` or `decompile`. The others are its options.
-/

namespace SceneScript

/-- Work on files. -/
abbrev Task := ExceptT ProjectError IO

/-- The fault that an error of the system is. -/
def faultOf : IO.Error → FileFault
  | .noFileOrDirectory .. => .notFound
  | .inappropriateType .. => .isFolder
  | error => .other error.toString

/-- A path in a folder. -/
def inFolder (folder path : String) : String :=
  if path.startsWith "/" then path else s!"{folder}/{path}"

/-- Reads a file. -/
def readFile (path : String) : Task Bytes := do
  let contents ← (IO.FS.readBinFile path).toBaseIO
  match contents with
  | .ok bytes => pure bytes.data
  | .error error => throw (.file path (faultOf error))

/-- Writes a file, and makes the folder that it is in. -/
def writeFile (path : String) (bytes : Bytes) : Task Unit := do
  let folders := (path.splitOn "/").dropLast
  if folders ≠ [] ∧ folders ≠ [""] then
    IO.FS.createDirAll ("/".intercalate folders)
  IO.FS.writeBinFile path ⟨bytes⟩

open CommandLine in
/-- Does what a command line says. -/
def run : List String → Except Refusal (Task Unit)
  | "assemble" :: words => do
    let command ← AssembleCommand.parse words
    pure do
      let bytes ← Project.assemble (fun path => readFile (inFolder command.projectFolder path)) command.byteCap
      writeFile command.output bytes
  | "disassemble" :: words => do
    let command ← DisassembleCommand.parse words
    pure do
      let disassembly ← Disassembly.load readFile command.input command.catalog command.encoding
      let (files, outcome) := disassembly.files
      for (name, bytes) in files do
        writeFile (inFolder command.output name) bytes
      orFault .script outcome
  | "decompile" :: words => do
    let command ← DecompileCommand.parse words
    pure do
      let text ← Disassembly.decompile readFile command.input command.catalog command.encoding command.mode
      writeFile command.output (Encoding.utf8.encode text).toArray
  | word :: _ => .error (.unknownArgument word)
  | [] => .error .help

end SceneScript

open SceneScript in
def main (words : List String) : IO UInt32 := do
  match run words with
  | .error refusal =>
    if refusal = .help ∨ refusal = .version then
      IO.println refusal.message
      return 0
    else
      IO.eprintln refusal.message
      return 2
  | .ok task =>
    match ← task.run with
    | .ok _ => return 0
    | .error error =>
      IO.eprintln error.message
      return 1
