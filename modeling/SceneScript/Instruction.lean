import SceneScript.Catalog

/-!
# Instructions

An instruction is a line number, a flag of unknown meaning, an opcode, a parameter count and four reserved bytes, followed by the
parameters. A parameter is a tag and a payload whose length follows from the tag, for some tags together with the first bytes of
the payload.
-/

namespace SceneScript

/-! ## Parameters

The tags that rendering refers to have names; a tag says what a parameter holds. -/

namespace ParameterTag

def jumpTarget : Int16 := 0x00
def condition : Int16 := 0x02
def time : Int16 := 0x03
def value : Int16 := 0x05
def value08 : Int16 := 0x08
def boolean : Int16 := 0x0A
def value0D : Int16 := 0x0D
def value10 : Int16 := 0x10
def vector : Int16 := 0x14
def symbolIndex : Int16 := 0x15
def valueList : Int16 := 0x16
def value19 : Int16 := 0x19

end ParameterTag

/-- How the length of a payload is found. -/
inductive LengthRule where
  /-- The same for all payloads. -/
  | fixed (length : Nat)
  /-- The payload starts with its own length, a 2-byte word. -/
  | halfWord
  /-- The payload starts with its own length, a 4-byte word. -/
  | word
  /-- The payload starts with a 4-byte count of operands of 8 bytes each. -/
  | counted
  deriving DecidableEq, Repr

/-- The length rule of a tag. -/
def LengthRule.ofTag? (tag : Int16) : Option LengthRule :=
  match tag.toInt with
  | 1 | 21 | 28 => some (.fixed 2)
  | 0 | 10 => some (.fixed 4)
  | 5 | 6 | 8 | 9 | 11 | 12 | 13 | 14 | 16 | 18 | 19 | 23 | 24 | 25 | 26 | 27 | 41 | 42 => some (.fixed 8)
  | 3 => some (.fixed 12)
  | 4 | 7 | 15 => some (.fixed 16)
  | 20 => some (.fixed 24)
  | 2 => some .halfWord
  | 17 | 22 => some .counted
  | 29 => some .word
  | _ => none

/-- The length that a rule gives to the payload at `offset`; it may be negative. -/
def LengthRule.length (rule : LengthRule) (buf : Bytes) (offset : Nat) : Except ScriptError Int :=
  match rule with
  | .fixed length => pure length
  | .halfWord => return (← buf.readInt16 offset).toInt
  | .word => return (← buf.readInt32 offset).toInt
  | .counted => return 8 * (← buf.readInt32 offset).toInt + 4

/-- The length of the payload at `offset` of a parameter with a given tag. -/
def parameterLength (tag : Int16) (buf : Bytes) (offset : Nat) : Except ScriptError Nat :=
  match LengthRule.ofTag? tag with
  | none => .error (.unknownParameterTag tag offset)
  | some rule => do
    let length ← rule.length buf offset
    if length < 0 then throw (.invalidParameterLength tag offset length)
    pure length.toNat

/-- A parameter of an instruction. -/
structure Parameter where
  tag : Int16
  /-- The position of the payload, after the tag. -/
  offset : Nat
  payload : Bytes
  deriving DecidableEq, Repr

/-- The bytes that a parameter takes. -/
def Parameter.size (parameter : Parameter) : Nat :=
  2 + parameter.payload.size

/-- The size of several things together. -/
def totalSize (sizes : List Nat) : Nat :=
  sizes.foldr (· + ·) 0

/-- The next `count` parameters. -/
def readParameters (buf : Bytes) : Nat → Nat → Except ScriptError (List Parameter)
  | 0, _ => pure []
  | count + 1, pos => do
    let tag ← buf.readInt16 pos
    let length ← parameterLength tag buf (pos + 2)
    let payload ← buf.slice (pos + 2) length
    let rest ← readParameters buf count (pos + 2 + length)
    pure (⟨tag, pos + 2, payload⟩ :: rest)

/-! ## Invocations -/

/-- An instruction of a script, with the command that its opcode names. -/
structure Invocation where
  address : Nat
  /-- The address when the script was read. Jump targets refer to it, also after edits have moved the instruction. -/
  parsedAddress : Nat
  line : Int16
  unknown : Int16
  opcode : Int16
  command : Command
  parameters : List Parameter
  deriving DecidableEq, Repr

namespace Invocation

/-- The size of an instruction without its parameters. -/
def headerSize : Nat := 12

/-- The bytes that an instruction takes. -/
def size (invocation : Invocation) : Nat :=
  headerSize + totalSize (invocation.parameters.map Parameter.size)

/-- The position after an instruction. -/
def stop (invocation : Invocation) : Nat :=
  invocation.address + invocation.size

/-- The parameters with a given tag, in order. -/
def parametersWith (invocation : Invocation) (tag : Int16) : List Parameter :=
  invocation.parameters.filter fun parameter => parameter.tag = tag

/-- The parameter with a given tag that has `nth` others with that tag before it. -/
def parameter? (invocation : Invocation) (tag : Int16) (nth : Nat) : Option Parameter :=
  (invocation.parametersWith tag)[nth]?

/-- The instruction at `address`. A negative parameter count counts as none. -/
def read (buf : Bytes) (catalog : Catalog) (address : Nat) : Except ScriptError Invocation := do
  let line ← buf.readInt16 address
  let unknown ← buf.readInt16 (address + 2)
  let opcode ← buf.readInt16 (address + 4)
  let count ← buf.readInt16 (address + 6)
  buf.ensure address headerSize
  let command ← catalog.resolve opcode address
  let parameters ← readParameters buf count.toInt.toNat (address + headerSize)
  pure { address, parsedAddress := address, line, unknown, opcode, command, parameters }

theorem headerSize_le_size (invocation : Invocation) : 12 ≤ invocation.size :=
  Nat.le_add_right ..

end Invocation

end SceneScript
