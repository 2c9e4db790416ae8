import SceneScript.Text.Quoted

/-!
# What can go wrong with a script

One type for the faults of reading, rendering and editing scripts. Each constructor is a cause with the facts that describe it;
the wording is in `ScriptError.message`.
-/

namespace SceneScript

/-- What is malformed about a stored text. -/
inductive TextFault where
  /-- The length of a stored text is negative. -/
  | negativeLength (declared : Int32) (position : Nat)
  /-- The length of a dialogue line leaves no room for its terminator. -/
  | noTerminator (line position : Nat)
  deriving DecidableEq, Repr

/-- A fault of a script, a catalog, an operand or an edit. -/
inductive ScriptError where
  /-- The bytes end before `needed` bytes at `offset`. -/
  | unexpectedEnd (offset needed size : Nat)
  | malformedHeader (fault : TextFault)
  /-- An opcode past the end of the catalog. -/
  | unknownOpcode (opcode : Int16) (address catalogSize : Nat)
  /-- A parameter tag that no length rule covers. -/
  | unknownParameterTag (tag : Int16) (offset : Nat)
  /-- A parameter that declares a negative length. -/
  | invalidParameterLength (tag : Int16) (offset : Nat) (length : Int)
  /-- An instruction that ends past the region of its block. -/
  | blockOverrun (block : String) (position stop : Nat)
  /-- A memory operand among the system flags. -/
  | illegalMemoryCell (index : Int32)
  | symbolOutOfRange (index : Int) (count : Nat)
  | dialogueOutOfRange (index count : Nat)
  | invalidImportKey (key : String)
  /-- A change that does not fit the bytes it is applied to. -/
  | patchOutOfRange (offset size : Nat)
  /-- A fault in the operands of the invocation at `address`. -/
  | rendering (address : Nat) (cause : ScriptError)
  | invalidCatalog
  deriving DecidableEq, Repr

/-- The wording of a fault of a stored text. -/
def TextFault.message : TextFault → String
  | .negativeLength declared position => s!"negative string length {declared.toInt} at 0x{Hex.padded 1 position}"
  | .noTerminator line position => s!"dialogue line {line} at 0x{Hex.padded 1 position} has no terminator"

namespace ScriptError

/-- The wording of a fault. Positions are in hexadecimal, counts and indices in decimal. -/
def message : ScriptError → String
  | .unexpectedEnd offset needed size =>
    s!"unexpected end of buffer: need {needed} bytes at 0x{Hex.padded 1 offset}, buffer is 0x{Hex.padded 1 size} bytes"
  | .malformedHeader fault => s!"malformed script header: {fault.message}"
  | .unknownOpcode opcode address catalogSize =>
    s!"opcode {opcode.toInt} at 0x{Hex.padded 1 address} is not in the catalog ({catalogSize} commands)"
  | .unknownParameterTag tag offset =>
    s!"unknown parameter type tag 0x{Hex.fixed 4 tag.toUInt16.toNat} at 0x{Hex.padded 1 offset}"
  | .invalidParameterLength tag offset length =>
    s!"parameter tag 0x{Hex.fixed 4 tag.toUInt16.toNat} at 0x{Hex.padded 1 offset} declares an invalid length {length}"
  | .blockOverrun block position stop =>
    s!"block {Quoted.quote block} decodes past its end: 0x{Hex.padded 1 position} > 0x{Hex.padded 1 stop}"
  | .illegalMemoryCell index => s!"illegal system flag index {index.toInt} (memory cells start at 0x124F)"
  | .symbolOutOfRange index count => s!"symbol index {index} out of range ({count} symbols)"
  | .dialogueOutOfRange index count => s!"dialogue line {index} out of range ({count} lines)"
  | .invalidImportKey key => s!"import key {Quoted.quote key} does not start with a 4-digit dialogue index"
  | .patchOutOfRange offset size => s!"patch touches 0x{Hex.padded 1 offset}, outside of the 0x{Hex.padded 1 size} byte buffer"
  | .rendering address cause => s!"cannot render invocation at 0x{Hex.padded 1 address}: {cause.message}"
  | .invalidCatalog => "invalid opcode catalog"

end ScriptError

end SceneScript
