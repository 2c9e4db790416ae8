import SceneScript.Bytes
import SceneScript.SymbolTable

/-!
# Operands

Most operands are a pair of words: a control code that says what kind of thing is meant, and a value. Times, vectors and lists are
made of such pairs.
-/

namespace SceneScript

/-- What a pair of words refers to. -/
inductive Operand where
  | literal (value : Int32)
  | memory (cell : Int32)
  | moduleMemory (cell : Int32)
  | symbol (name : String)
  /-- A pair with a control code of no known meaning. -/
  | unrecognized (control value : Int32)
  deriving DecidableEq, Repr

/-- The control codes with a known meaning. -/
inductive Control where
  | literal
  | memory
  | moduleMemory
  | symbol
  deriving DecidableEq, Repr

/-- The meaning of a control code. -/
def Control.ofCode? (code : Int32) : Option Control :=
  match code.toInt with
  | 0x300 => some .literal
  | 0x302 => some .memory
  | 0x303 => some .moduleMemory
  | 0x304 => some .symbol
  | _ => none

namespace Operand

/-- The first memory cell that scripts may use; those below hold system flags. -/
def memoryBase : Int32 := 0x124F

/-- How an operand is shown. -/
def text : Operand → String
  | literal value => s!"lit {value.toInt}"
  | memory cell => s!"memd {cell.toInt}"
  | moduleMemory cell => s!"mmem {cell.toInt}"
  | symbol name => s!"var {name}"
  | unrecognized _ _ => "-1"

/-- What a control code and a value refer to. -/
def resolve (symbols : SymbolTable) (control value : Int32) : Except ScriptError Operand :=
  match Control.ofCode? control with
  | some .literal => .ok (literal value)
  | some .memory => if value < memoryBase then .error (.illegalMemoryCell value) else .ok (memory value)
  | some .moduleMemory => .ok (moduleMemory value)
  | some .symbol => return symbol (← symbols.get value.toInt)
  | none => .ok (unrecognized control value)

/-- What the pair in the words `word` and `word + 1` of a payload refers to. -/
def resolveAt (symbols : SymbolTable) (payload : Bytes) (word : Nat) : Except ScriptError Operand := do
  let control ← payload.readWord word
  let value ← payload.readWord (word + 1)
  resolve symbols control value

/-- The first word of a time that counts frames. -/
def framesUnit : Int32 := 0x201

/-- A time: the unit in word 0, then a pair. -/
def time (symbols : SymbolTable) (payload : Bytes) : Except ScriptError String := do
  let unit ← payload.readWord 0
  let amount ← resolveAt symbols payload 1
  pure ((if unit = framesUnit then "frames " else "time ") ++ amount.text)

/-- A vector: three pairs. -/
def vector (symbols : SymbolTable) (payload : Bytes) : Except ScriptError String := do
  let x ← resolveAt symbols payload 0
  let y ← resolveAt symbols payload 2
  let z ← resolveAt symbols payload 4
  pure s!"Vector3({x.text}, {y.text}, {z.text})"

/-- The next `count` pairs, from a word on. -/
def resolveMany (symbols : SymbolTable) (payload : Bytes) : Nat → Nat → Except ScriptError (List Operand)
  | 0, _ => pure []
  | count + 1, word => do
    let operand ← resolveAt symbols payload word
    let rest ← resolveMany symbols payload count (word + 2)
    pure (operand :: rest)

/-- A list: the count in word 0, then that many pairs. A negative count counts as none. -/
def list (symbols : SymbolTable) (payload : Bytes) : Except ScriptError String := do
  let count ← payload.readWord 0
  let operands ← resolveMany symbols payload count.toInt.toNat 1
  pure ("[" ++ ", ".intercalate (operands.map text) ++ "]")

end Operand

end SceneScript
