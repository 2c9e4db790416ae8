import SceneScript.Header
import SceneScript.Instruction

/-!
# Blocks

The block table lists the blocks of a script: for each a symbol as its name, a count and the position of its first instruction.
The region of a block reaches to the start of the next one in the table, for the last one to the end of the file. Its instructions
follow one another up to its last eight bytes. The count is recorded and not relied on.
-/

namespace SceneScript

/-- A block of a script. Its invocations are those from `first` up to `past` in the list of all invocations. -/
structure Block where
  /-- The position of the table entry. -/
  address : Nat
  nameIndex : UInt16
  name : String
  /-- How many instructions the table says there are. -/
  recordedCount : UInt16
  /-- The position of the first instruction. -/
  start : UInt32
  first : Nat
  past : Nat
  deriving DecidableEq, Repr

namespace Block

/-- The bytes at the end of a region that hold no instruction. -/
def trailerSize : Nat := 8

/-- The invocations of the block, out of all of them. -/
def slice (block : Block) (invocations : List Invocation) : List Invocation :=
  (invocations.drop block.first).take (block.past - block.first)

/-- The instructions from `pos` on in the region of a block that ends at `stop`. -/
def readInstructions (buf : Bytes) (catalog : Catalog) (name : String) (stop pos : Nat) :
    Except ScriptError (List Invocation) :=
  if _ : pos + trailerSize < stop then do
    let invocation ← Invocation.read buf catalog pos
    if stop < pos + invocation.size then
      throw (.blockOverrun name (pos + invocation.size) stop)
    let rest ← readInstructions buf catalog name stop (pos + invocation.size)
    pure (invocation :: rest)
  else
    pure []
termination_by stop - pos
decreasing_by
  have := invocation.headerSize_le_size
  omega

/-- Where the region of the block with its entry at `entry` ends. -/
def regionEnd (buf : Bytes) (tableEnd entry : Nat) : Except ScriptError Nat :=
  if tableEnd ≤ entry + Header.blockEntrySize then pure buf.size
  else return (← buf.readUInt32 (entry + Header.blockEntrySize + 4)).toNat

/-- The block with its entry at `entry`, and its invocations, which come after `first` others. -/
def read (buf : Bytes) (catalog : Catalog) (symbols : SymbolTable) (tableEnd entry first : Nat) :
    Except ScriptError (Block × List Invocation) := do
  let nameIndex ← buf.readUInt16 entry
  let recordedCount ← buf.readUInt16 (entry + 2)
  let start ← buf.readUInt32 (entry + 4)
  let name ← symbols.get nameIndex.toNat
  let stop ← regionEnd buf tableEnd entry
  let invocations ← readInstructions buf catalog name stop start.toNat
  pure ({ address := entry, nameIndex, name, recordedCount, start, first, past := first + invocations.length }, invocations)

/-- The blocks of the next `count` entries, and all their invocations. -/
def readAll (buf : Bytes) (catalog : Catalog) (symbols : SymbolTable) (tableEnd : Nat) :
    (count entry first : Nat) → Except ScriptError (List Block × List Invocation)
  | 0, _, _ => pure ([], [])
  | count + 1, entry, first => do
    let (block, invocations) ← read buf catalog symbols tableEnd entry first
    let (blocks, others) ← readAll buf catalog symbols tableEnd count (entry + Header.blockEntrySize) block.past
    pure (block :: blocks, invocations ++ others)

/-- How many entries the block table has. A last entry that is cut short counts. -/
def entryCount (header : Header) : Nat :=
  (header.blockTableEnd.toNat - header.symbolTableEnd.toNat + (Header.blockEntrySize - 1)) / Header.blockEntrySize

/-- The blocks of a script, and all its invocations in the order of the table. -/
def readTable (buf : Bytes) (catalog : Catalog) (header : Header) (symbols : SymbolTable) :
    Except ScriptError (List Block × List Invocation) :=
  readAll buf catalog symbols header.blockTableEnd.toNat (entryCount header) header.symbolTableEnd.toNat 0

end Block

end SceneScript
