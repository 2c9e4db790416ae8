import SceneScript.Block
import SceneScript.Condition

/-!
# Rendering

Every invocation has a raw form, which gives its parameters byte by byte: `NAME<unknown>(TTTT XX XX, ...)`. The commands whose
meaning is known have a semantic form as well, with operands, jump targets and conditions spelled out. An invocation that lacks a
parameter its rule needs is rendered raw; an operand that makes no sense is a fault.
-/

namespace SceneScript

/-- Which form is wanted. -/
inductive RenderMode where
  | raw
  | semantic
  deriving DecidableEq, Repr

/-- The rules of the semantic form. -/
inductive KnownCommand where
  | evMode
  | sceneSet
  | wait
  | jump
  | set
  /-- Every command with a single truth value. -/
  | flag
  | topicGet
  | fi
  | evStart
  | appear
  | turn
  deriving DecidableEq, Repr

/-- The rule for a command name. -/
def KnownCommand.ofName? (name : String) : Option KnownCommand :=
  match name with
  | "EV_MODE" => some evMode
  | "SCENE_SET" => some sceneSet
  | "WAIT" => some wait
  | "JUMP" => some jump
  | "SET" => some set
  | "LOG" | "MW" | "UI_DATEPLACE" | "SET_EAR" | "MENU_LOCK" | "SMENU_LOCK" | "POINT_INVALID" | "SET_DV" | "UI_PLACE" => some flag
  | "TOPIC_GET" => some topicGet
  | "FI" => some fi
  | "EV_START" => some evStart
  | "APPEAR" => some appear
  | "TURN" => some turn
  | _ => none

/-- Why a rule does not render an invocation. -/
inductive RuleFailure where
  /-- The invocation lacks a parameter. -/
  | missing (tag : Int16) (nth : Nat)
  | fault (error : ScriptError)
  deriving DecidableEq, Repr

/-- What a rule gives. -/
abbrev RuleResult := Except RuleFailure

/-- A fault inside a rule. -/
def ofScript {α : Type} : Except ScriptError α → RuleResult α
  | .ok a => .ok a
  | .error e => .error (.fault e)

namespace Invocation

/-! ## The raw form -/

/-- The name, with the unknown flag behind it if that is set. -/
def head (invocation : Invocation) : String :=
  if 0 ≤ invocation.unknown then s!"{invocation.command.name}<{invocation.unknown.toInt}>" else invocation.command.name

/-- A parameter byte by byte. The space after the tag stays when there are no bytes. -/
def rawParameter (parameter : Parameter) : String :=
  Hex.fixed 4 parameter.tag.toUInt16.toNat ++ " " ++ " ".intercalate (parameter.payload.toList.map Hex.byte)

/-- The raw form. -/
def renderRaw (invocation : Invocation) : String :=
  invocation.head ++ "(" ++ ", ".intercalate (invocation.parameters.map rawParameter) ++ ")"

/-! ## The parts of rules -/

/-- A parameter that a rule cannot do without. -/
def required (invocation : Invocation) (tag : Int16) (nth : Nat) : RuleResult Parameter :=
  match invocation.parameter? tag nth with
  | some parameter => .ok parameter
  | none => .error (.missing tag nth)

end Invocation

namespace Parameter

/-- The parameter as a truth value. -/
def boolean (parameter : Parameter) : RuleResult String := do
  let word ← ofScript (parameter.payload.readWord 0)
  pure (if word = 0 then "FALSE" else "TRUE")

/-- The parameter as an operand. -/
def operand (symbols : SymbolTable) (parameter : Parameter) : RuleResult String := do
  pure (← ofScript (Operand.resolveAt symbols parameter.payload 0)).text

end Parameter

/-- Each parameter as an operand, with `lead` in front. -/
def operandsWith (symbols : SymbolTable) (lead : String) : List Parameter → RuleResult (List String)
  | [] => pure []
  | parameter :: rest => do
    let text ← parameter.operand symbols
    let texts ← operandsWith symbols lead rest
    pure ((lead ++ text) :: texts)

/-- What a rule makes of a parameter that may be absent: one text or none. -/
def optional (parameter : Option Parameter) (render : Parameter → RuleResult String) : RuleResult (List String) :=
  match parameter with
  | some parameter => return [← render parameter]
  | none => pure []

/-- The memory cells that `SET` may have as its destination. -/
def isSettable (cell : Int32) : Bool :=
  0x1303 ≤ cell && cell ≤ 0x1403

/-- The two arguments of `SET`. A destination of no known kind hides the value too. -/
def assignment (symbols : SymbolTable) (control index : Int32) (value : String) : RuleResult String :=
  match Control.ofCode? control with
  | some .memory =>
    if index < Operand.memoryBase then throw (.fault (.illegalMemoryCell index))
    else pure (if isSettable index then s!"memd {index.toInt}, {value}" else "Unknown")
  | some .moduleMemory => pure s!"mmem {index.toInt}, {value}"
  | some .symbol => return s!"var {← ofScript (symbols.get index.toInt)}, {value}"
  | _ => pure "Unknown"

/-- The line of the first invocation that was read from `target`. Addresses and targets are compared as 64-bit words. -/
def jumpTarget (invocations : List Invocation) (target : Int32) : String :=
  match invocations.find? fun invocation => Int64.ofNat invocation.parsedAddress = target.toInt64 with
  | some destination => toString destination.line.toInt
  | none => s!"@0x{Hex.fixed 8 target.toUInt32.toNat}"

/-- What rendering refers to: the symbols and the invocations of a script, and the form that is wanted. -/
structure Renderer where
  symbols : SymbolTable
  invocations : List Invocation
  mode : RenderMode
  deriving DecidableEq, Repr

namespace Renderer

/-- The arguments of an invocation in the semantic form. -/
def arguments (renderer : Renderer) (known : KnownCommand) (invocation : Invocation) : RuleResult (List String) := do
  let symbols := renderer.symbols
  match known with
  | .evMode =>
    let mode ← (← invocation.required ParameterTag.boolean 0).boolean
    let values ← operandsWith symbols "19" (invocation.parametersWith ParameterTag.value19)
    pure (mode :: values)
  | .sceneSet =>
    let first ← (← invocation.required ParameterTag.value 0).operand symbols
    let second ← (← invocation.required ParameterTag.value 1).operand symbols
    pure [first, second]
  | .wait =>
    optional (invocation.parameter? ParameterTag.time 0) fun parameter => ofScript (Operand.time symbols parameter.payload)
  | .jump =>
    let target ← ofScript ((← invocation.required ParameterTag.jumpTarget 0).payload.readWord 0)
    let condition ← optional (invocation.parameter? ParameterTag.condition 0) fun parameter => do
      let terms ← ofScript (Condition.read symbols parameter.payload)
      pure s!"if {Condition.render terms}"
    pure (jumpTarget renderer.invocations target :: condition)
  | .set =>
    let destination ← invocation.required ParameterTag.value 0
    let value ← (← invocation.required ParameterTag.value 1).operand symbols
    let control ← ofScript (destination.payload.readWord 0)
    let index ← ofScript (destination.payload.readWord 1)
    return [← assignment symbols control index value]
  | .flag =>
    return [← (← invocation.required ParameterTag.boolean 0).boolean]
  | .topicGet =>
    let index ← ofScript ((← invocation.required ParameterTag.symbolIndex 0).payload.readInt16 0)
    let topic ← ofScript (symbols.get index.toInt)
    let flag ← optional (invocation.parameter? ParameterTag.boolean 0) Parameter.boolean
    let first ← operandsWith symbols "19" (invocation.parameter? ParameterTag.value19 0).toList
    let second ← operandsWith symbols "19" (invocation.parameter? ParameterTag.value 0).toList
    pure (topic :: flag ++ first ++ second)
  | .fi =>
    let time ← ofScript (Operand.time symbols (← invocation.required ParameterTag.time 0).payload)
    let values ← operandsWith symbols "19" (invocation.parametersWith ParameterTag.value19)
    pure (time :: values)
  | .evStart =>
    let event ← (← invocation.required ParameterTag.value 0).operand symbols
    let list ← optional (invocation.parameter? ParameterTag.valueList 0) fun parameter =>
      ofScript (Operand.list symbols parameter.payload)
    let values ← operandsWith symbols "" ((invocation.parametersWith ParameterTag.value).drop 1)
    pure (event :: list ++ values)
  | .appear =>
    optional (invocation.parameter? ParameterTag.boolean 0) Parameter.boolean
  | .turn =>
    let first ← operandsWith symbols "08" (invocation.parameter? ParameterTag.value08 0).toList
    let second ← operandsWith symbols "0D" (invocation.parameter? ParameterTag.value0D 0).toList
    let vector ← optional (invocation.parameter? ParameterTag.vector 0) fun parameter =>
      ofScript (Operand.vector symbols parameter.payload)
    let third ← operandsWith symbols "10" (invocation.parameter? ParameterTag.value10 0).toList
    let fourth ← operandsWith symbols "" (invocation.parameter? ParameterTag.value 0).toList
    pure (first ++ second ++ vector ++ third ++ fourth)

/-- An invocation in the form that is wanted. A fault in its operands is reported with its address. -/
def render (renderer : Renderer) (invocation : Invocation) : Except ScriptError String :=
  match renderer.mode, KnownCommand.ofName? invocation.command.name with
  | .semantic, some known =>
    match renderer.arguments known invocation with
    | .ok arguments => .ok (invocation.head ++ "(" ++ ", ".intercalate arguments ++ ")")
    | .error (.missing _ _) => .ok invocation.renderRaw
    | .error (.fault error) => .error (.rendering invocation.address error)
  | _, _ => .ok invocation.renderRaw

/-! ## Blocks

Each invocation is put on the line that it records, unless the text is past that line already. -/

/-- The text of invocations, when the text so far has come to the start of the line `current`, and the line that it comes to. -/
def renderInvocations (renderer : Renderer) : Nat → List Invocation → Except ScriptError (String × Nat)
  | current, [] => pure ("", current)
  | current, invocation :: rest => do
    let blank := (invocation.line.toInt - current).toNat
    let text ← renderer.render invocation
    let (texts, final) ← renderer.renderInvocations (current + blank + 1) rest
    pure ("".pushn '\n' blank ++ text ++ "\n" ++ texts, final)

/-- The text of blocks, when the text so far has come to the start of the line `current`. A block has a heading, and a blank line
if it is empty. -/
def renderFrom (renderer : Renderer) : Nat → List Block → Except ScriptError String
  | _, [] => pure ""
  | current, block :: rest => do
    let gap := if block.first < block.past then 0 else 1
    let (text, next) ← renderer.renderInvocations (current + 1 + gap) (block.slice renderer.invocations)
    let texts ← renderer.renderFrom next rest
    pure (s!"== {block.name} ==\n" ++ "".pushn '\n' gap ++ text ++ texts)

/-- The text of blocks. -/
def renderBlocks (renderer : Renderer) (blocks : List Block) : Except ScriptError String :=
  renderer.renderFrom 1 blocks

end Renderer

end SceneScript
