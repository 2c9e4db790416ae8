import SceneScript.StoredText
import SceneScript.SymbolTable

/-!
# The header of a script

A script starts with its name, room and time as stored texts, the number of symbols and of blocks, the positions where the symbol
table and the block table end, and the symbols. A file whose first text is too long for a name is no script, which is not a fault.
-/

namespace SceneScript

/-- What the start of a script says. -/
structure Header where
  /-- The name that the script has inside the game. -/
  name : String
  room : String
  time : String
  symbolCount : UInt16
  blockCount : UInt16
  /-- Where `symbolTableEnd` is written. -/
  symbolTableEndOffset : Nat
  symbolTableEnd : UInt32
  /-- Where `blockTableEnd` is written. -/
  blockTableEndOffset : Nat
  blockTableEnd : UInt32
  deriving DecidableEq, Repr

namespace Header

/-- The most characters a name has. -/
def maxNameLength : Nat := 20

/-- The size of an entry of the block table. -/
def blockEntrySize : Nat := 8

/-- The name and the position after it, or nothing if the file is no script. A length that no name can have is told by the number
alone, before the text is read. -/
def readName? (buf : Bytes) (encoding : Encoding) : Except ScriptError (Option (String × Nat)) := do
  let declared ← buf.readInt32 0
  if declared < 1 ∨ maxNameLength * encoding.maxCharLength + 1 < declared.toInt.toNat then
    pure none
  else
    let (name, next) ← StoredText.read buf 0 encoding
    pure (if maxNameLength < name.length then none else some (name, next))

/-- The next `count` stored texts from `pos` on. -/
def readSymbols (buf : Bytes) (encoding : Encoding) : Nat → Nat → Except ScriptError (List Symbol)
  | 0, _ => pure []
  | count + 1, pos => do
    let (text, next) ← StoredText.read buf pos encoding
    let rest ← readSymbols buf encoding count next
    pure (⟨pos, text⟩ :: rest)

/-- The header and the symbols, or nothing if the file is no script. -/
def read? (buf : Bytes) (encoding : Encoding) : Except ScriptError (Option (Header × SymbolTable)) := do
  let some (name, roomAt) ← readName? buf encoding | pure none
  let (room, timeAt) ← StoredText.read buf roomAt encoding
  let (time, countsAt) ← StoredText.read buf timeAt encoding
  let symbolCount ← buf.readUInt16 countsAt
  let blockCount ← buf.readUInt16 (countsAt + 2)
  let symbolTableEnd ← buf.readUInt32 (countsAt + 4)
  let blockTableEnd ← buf.readUInt32 (countsAt + 8)
  let symbols ← readSymbols buf encoding symbolCount.toNat (countsAt + 12)
  pure (some (
    { name, room, time, symbolCount, blockCount
      symbolTableEndOffset := countsAt + 4, symbolTableEnd
      blockTableEndOffset := countsAt + 8, blockTableEnd },
    ⟨symbols⟩))

end Header

end SceneScript
