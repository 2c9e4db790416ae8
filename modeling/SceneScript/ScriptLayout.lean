import SceneScript.Block

/-!
# Laying out scripts

A script can be built from its parts: the texts, and for each block the instructions. All addresses are worked out before a byte
is written, so a jump may name any instruction. A block is followed by an empty trailer, and the instructions of the first block
by those of the second, and so on.
-/

namespace SceneScript

/-- A parameter of an instruction to be written. -/
inductive ParameterLayout where
  | payload (tag : Int16) (bytes : Bytes)
  /-- A jump to an instruction, given by its place. -/
  | jumpTo (block instruction : Nat)
  deriving DecidableEq, Repr

/-- An instruction to be written. -/
structure InstructionLayout where
  line : Int16
  unknown : Int16 := -1
  opcode : Int16
  parameters : List ParameterLayout
  deriving DecidableEq, Repr

/-- A block to be written. -/
structure BlockLayout where
  nameIndex : UInt16
  instructions : List InstructionLayout
  deriving DecidableEq, Repr

/-- A script to be written. -/
structure ScriptLayout where
  name : String
  room : String
  time : String
  symbols : List String
  blocks : List BlockLayout
  deriving DecidableEq, Repr

/-- The bytes that a parameter will take. -/
def ParameterLayout.size : ParameterLayout → Nat
  | payload _ bytes => 2 + bytes.size
  | jumpTo _ _ => 6

/-- The bytes that an instruction will take. -/
def InstructionLayout.size (instruction : InstructionLayout) : Nat :=
  Invocation.headerSize + totalSize (instruction.parameters.map ParameterLayout.size)

/-- The bytes that a block will take, with its trailer. -/
def BlockLayout.size (block : BlockLayout) : Nat :=
  totalSize (block.instructions.map InstructionLayout.size) + Block.trailerSize

/-- The start of each of several things of given sizes that follow one another. -/
def startsFrom : Nat → List Nat → List Nat
  | _, [] => []
  | pos, size :: rest => pos :: startsFrom (pos + size) rest

namespace ScriptLayout

/-- The stored texts of the symbols. -/
def symbolBytes (layout : ScriptLayout) (encoding : Encoding) : Bytes :=
  layout.symbols.foldl (fun out text => out ++ StoredText.ofString encoding text) #[]

/-- The stored name, room and time. -/
def identityBytes (layout : ScriptLayout) (encoding : Encoding) : Bytes :=
  StoredText.ofString encoding layout.name ++ StoredText.ofString encoding layout.room ++ StoredText.ofString encoding layout.time

/-- Where the symbol table ends. -/
def symbolTableEnd (layout : ScriptLayout) (encoding : Encoding) : Nat :=
  (layout.identityBytes encoding).size + 12 + (layout.symbolBytes encoding).size

/-- Where the block table ends and the first instruction starts. -/
def blockTableEnd (layout : ScriptLayout) (encoding : Encoding) : Nat :=
  layout.symbolTableEnd encoding + Header.blockEntrySize * layout.blocks.length

/-- The start of each block. -/
def blockStarts (layout : ScriptLayout) (encoding : Encoding) : List Nat :=
  startsFrom (layout.blockTableEnd encoding) (layout.blocks.map BlockLayout.size)

/-- The address of an instruction, if there is one at that place. -/
def addressOf? (layout : ScriptLayout) (encoding : Encoding) (block instruction : Nat) : Option Nat := do
  let start ← (layout.blockStarts encoding)[block]?
  let content ← layout.blocks[block]?
  (startsFrom start (content.instructions.map InstructionLayout.size))[instruction]?

/-- The bytes of a parameter, unless it jumps to an instruction that does not exist. -/
def parameterBytes? (layout : ScriptLayout) (encoding : Encoding) : ParameterLayout → Option Bytes
  | .payload tag bytes => some (Bytes.ofInt16 tag ++ bytes)
  | .jumpTo block instruction => do
    let address ← layout.addressOf? encoding block instruction
    some (Bytes.ofInt16 ParameterTag.jumpTarget ++ Bytes.ofUInt32 (UInt32.ofNat address))

/-- Several things one after another, if all of them can be written. -/
def concat? {α : Type} (write : α → Option Bytes) : List α → Option Bytes
  | [] => some #[]
  | a :: rest => do
    let bytes ← write a
    let others ← concat? write rest
    some (bytes ++ others)

/-- The bytes of an instruction. -/
def instructionBytes? (layout : ScriptLayout) (encoding : Encoding) (instruction : InstructionLayout) : Option Bytes := do
  let parameters ← concat? (layout.parameterBytes? encoding) instruction.parameters
  some (Bytes.ofInt16 instruction.line ++ Bytes.ofInt16 instruction.unknown ++ Bytes.ofInt16 instruction.opcode ++
    Bytes.ofUInt16 (UInt16.ofNat instruction.parameters.length) ++ #[0, 0, 0, 0] ++ parameters)

/-- The bytes of a block: its instructions and an empty trailer. -/
def blockBytes? (layout : ScriptLayout) (encoding : Encoding) (block : BlockLayout) : Option Bytes := do
  let instructions ← concat? (layout.instructionBytes? encoding) block.instructions
  some (instructions ++ Array.replicate Block.trailerSize 0)

/-- The entry of a block in the block table. -/
def entryBytes (block : BlockLayout) (start : Nat) : Bytes :=
  Bytes.ofUInt16 block.nameIndex ++ Bytes.ofUInt16 (UInt16.ofNat block.instructions.length) ++
    Bytes.ofUInt32 (UInt32.ofNat start)

/-- The block table. -/
def tableBytes (layout : ScriptLayout) (encoding : Encoding) : Bytes :=
  (layout.blocks.zip (layout.blockStarts encoding)).foldl (fun out (block, start) => out ++ entryBytes block start) #[]

/-- Everything in front of the instructions. -/
def headBytes (layout : ScriptLayout) (encoding : Encoding) : Bytes :=
  layout.identityBytes encoding ++
    Bytes.ofUInt16 (UInt16.ofNat layout.symbols.length) ++ Bytes.ofUInt16 (UInt16.ofNat layout.blocks.length) ++
    Bytes.ofUInt32 (UInt32.ofNat (layout.symbolTableEnd encoding)) ++
    Bytes.ofUInt32 (UInt32.ofNat (layout.blockTableEnd encoding)) ++
    layout.symbolBytes encoding ++ layout.tableBytes encoding

/-- The bytes of a script, unless one of its jumps names an instruction that does not exist. -/
def toBytes? (layout : ScriptLayout) (encoding : Encoding) : Option Bytes := do
  let blocks ← concat? (layout.blockBytes? encoding) layout.blocks
  some (layout.headBytes encoding ++ blocks)

end ScriptLayout

end SceneScript
