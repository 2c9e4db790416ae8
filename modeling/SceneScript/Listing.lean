import SceneScript.Decompilation
import SceneScript.Yaml.Writer

/-!
# Listings

A listing gives the structure of a script for reading along: its blocks with their positions, and in each the instructions with
their positions, their line numbers and their text in semantic form. It is exported and never read back.
-/

namespace SceneScript

/-- An instruction in a listing. -/
structure ListedInvocation where
  address : UInt32
  line : Int16
  /-- The name of the command. -/
  mnemonic : String
  text : String
  deriving DecidableEq, Repr

/-- A block in a listing. -/
structure ListedBlock where
  address : UInt32
  name : String
  start : UInt32
  invocations : List ListedInvocation
  deriving DecidableEq, Repr

namespace Script

/-- An instruction of a script as it is listed. -/
def listInvocation (script : Script) (invocation : Invocation) : Except ScriptError ListedInvocation := do
  let text ← (script.renderer .semantic).render invocation
  pure ⟨UInt32.ofNat invocation.address, invocation.line, invocation.command.name, text⟩

/-- A block of a script as it is listed. -/
def listBlock (script : Script) (block : Block) : Except ScriptError ListedBlock := do
  let invocations ← (script.blockInvocations block).mapM script.listInvocation
  pure ⟨UInt32.ofNat block.address, block.name, block.start, invocations⟩

/-- The listing of a script. The first instruction that cannot be rendered is its fault. -/
def listing (script : Script) : Except ScriptError (List ListedBlock) :=
  script.blocks.mapM script.listBlock

end Script

/-! ## As a document -/

/-- An instruction of a listing as a mapping. -/
def ListedInvocation.toNode (invocation : ListedInvocation) : Yaml.Node :=
  .ofFields [("address", .ofInt invocation.address.toNat), ("line", .ofInt invocation.line.toInt),
    ("mnemonic", .ofText invocation.mnemonic), ("text", .ofText invocation.text)]

/-- A block of a listing as a mapping. -/
def ListedBlock.toNode (block : ListedBlock) : Yaml.Node :=
  .ofFields [("address", .ofInt block.address.toNat), ("name", .ofText block.name), ("start_offset", .ofInt block.start.toNat),
    ("invocations", .sequence (block.invocations.map ListedInvocation.toNode))]

/-- The document of a listing. -/
def ListedBlock.document (blocks : List ListedBlock) : String :=
  (Yaml.Node.sequence (blocks.map ListedBlock.toNode)).render

end SceneScript
