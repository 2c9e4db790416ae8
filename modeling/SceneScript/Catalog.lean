import SceneScript.Bytes
import SceneScript.Text.Utf8

/-!
# The opcode catalog

A catalog names the commands of a game build, in the order of their opcodes, with the types of their parameters. It comes as a
file: a count, and for each command its index, the number of its parameters, the length of its name with the terminator, the name
and the parameter types.
-/

namespace SceneScript

/-- A command of the catalog. -/
structure Command where
  index : Int16
  name : String
  parameterTypes : List UInt16
  deriving DecidableEq, Repr

namespace Command

/-- The command of every instruction with a negative opcode. -/
def deleted : Command := ⟨-1, "DELETED", []⟩

/-- Does a command stand for a deleted instruction? -/
def isDeleted (command : Command) : Bool :=
  command.index < 0

/-- The index, the name and the parameter types, in hexadecimal: `01 JUMP(0000, 0002)`. -/
def signature (command : Command) : String :=
  let types := command.parameterTypes.map fun code => Hex.fixed 4 code.toNat
  Hex.padded 2 command.index.toUInt16.toNat ++ " " ++ command.name ++ "(" ++ ", ".intercalate types ++ ")"

end Command

/-- The commands of a game build, by opcode. -/
structure Catalog where
  commands : List Command
  deriving DecidableEq, Repr

namespace Catalog

/-- How many commands there are. -/
def size (catalog : Catalog) : Nat :=
  catalog.commands.length

/-- The first command with a name. -/
def find? (catalog : Catalog) (name : String) : Option Command :=
  catalog.commands.find? fun command => command.name = name

/-- The command of the instruction at `address`. A negative opcode is a deleted instruction, whatever the catalog holds. -/
def resolve (catalog : Catalog) (opcode : Int16) (address : Nat) : Except ScriptError Command :=
  if opcode < 0 then .ok .deleted
  else match catalog.commands[opcode.toInt.toNat]? with
    | some command => .ok command
    | none => .error (.unknownOpcode opcode address catalog.size)

/-! ## The file -/

/-- The next `count` parameter types. -/
def readTypes (buf : Bytes) : Nat → Nat → Except ScriptError (List UInt16)
  | 0, _ => pure []
  | count + 1, pos => do
    let code ← buf.readUInt16 pos
    let rest ← readTypes buf count (pos + 2)
    pure (code :: rest)

/-- The command at `pos`, and the position after it. The name ends at its first zero byte, or where its length says. -/
def readCommand (buf : Bytes) (pos : Nat) : Except ScriptError (Command × Nat) := do
  let index ← buf.readInt16 pos
  let typeCount ← buf.readUInt16 (pos + 2)
  let nameLength := (← buf.readInt32 (pos + 4)).toInt.toNat
  let name ← buf.slice (pos + 8) nameLength
  let types ← readTypes buf typeCount.toNat (pos + 8 + nameLength)
  let text := String.ofList (Utf8.decoder.decode (name.toList.takeWhile (· ≠ 0)))
  pure (⟨index, text, types⟩, pos + 8 + nameLength + 2 * typeCount.toNat)

/-- The next `count` commands. -/
def readCommands (buf : Bytes) : Nat → Nat → Except ScriptError (List Command)
  | 0, _ => pure []
  | count + 1, pos => do
    let (command, next) ← readCommand buf pos
    let rest ← readCommands buf count next
    pure (command :: rest)

/-- The catalog in a file. Bytes after the last command are ignored; a file that ends early holds no catalog. -/
def parse (buf : Bytes) : Except ScriptError Catalog :=
  let commands : Except ScriptError (List Command) := do
    let count ← buf.readUInt32 0
    readCommands buf count.toNat 4
  match commands with
  | .ok commands => .ok ⟨commands⟩
  | .error _ => .error .invalidCatalog

/-- The file entry of a command. -/
def commandBytes (command : Command) : Bytes :=
  let name := command.name.toList.flatMap Utf8.encodeChar
  Bytes.ofInt16 command.index ++ Bytes.ofUInt16 (UInt16.ofNat command.parameterTypes.length) ++
    Bytes.ofUInt32 (UInt32.ofNat (name.length + 1)) ++ name.toArray ++ #[0] ++
    command.parameterTypes.foldl (fun out code => out ++ Bytes.ofUInt16 code) #[]

/-- The file of a catalog. -/
def toBytes (catalog : Catalog) : Bytes :=
  catalog.commands.foldl (fun out command => out ++ commandBytes command)
    (Bytes.ofUInt32 (UInt32.ofNat catalog.commands.length))

end Catalog

end SceneScript
