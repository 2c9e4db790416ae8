import SceneScript.Block
import SceneScript.Dialogue

/-!
# Scripts

A script is its bytes together with what they say: the header, the symbols, the blocks, the invocations and the spoken lines.
Edits change the bytes and the rest side by side.
-/

namespace SceneScript

/-- A script file and its parts. -/
structure Script where
  bytes : Bytes
  encoding : Encoding
  header : Header
  symbols : SymbolTable
  blocks : List Block
  /-- Every invocation of the script, block after block. -/
  invocations : List Invocation
  dialogue : List DialogueLine
  deriving DecidableEq, Repr

namespace Script

/-- The script in a file, or nothing if the file is no script. -/
def parse? (bytes : Bytes) (catalog : Catalog) (encoding : Encoding) : Except ScriptError (Option Script) := do
  let some (header, symbols) ← Header.read? bytes encoding | pure none
  let (blocks, invocations) ← Block.readTable bytes catalog header symbols
  pure (some { bytes, encoding, header, symbols, blocks, invocations, dialogue := Dialogue.extract symbols })

/-- The invocations of a block. -/
def blockInvocations (script : Script) (block : Block) : List Invocation :=
  block.slice script.invocations

/-- The first invocation at an address. -/
def invocationAt? (script : Script) (address : Nat) : Option Invocation :=
  script.invocations.find? fun invocation => invocation.address = address

/-- The name, the room and the time: `S01A (BUNGEI, AM)`. -/
def describe (script : Script) : String :=
  s!"{script.header.name} ({script.header.room}, {script.header.time})"

end Script

end SceneScript
