import SceneScript.ImportKey
import SceneScript.Patch
import SceneScript.Script

/-!
# Editing spoken lines

An edit replaces the text of one line in the symbol table, and repairs everything that points behind it: the ends of the symbol
table and of the block table, and the start of every block. No instruction changes, so jumps keep the targets they had when the
script was read.
-/

namespace SceneScript

/-- The bytes that a line may take, unless the user says otherwise. -/
def defaultByteCap : Nat := 256

/-- What an edit did. -/
structure EditOutcome where
  index : Nat
  lengthDelta : Int
  truncation : Option Truncation
  deriving DecidableEq, Repr

/-- Has the text been cut? -/
def EditOutcome.truncated (outcome : EditOutcome) : Bool :=
  outcome.truncation.isSome

namespace Script

/-- The spoken line with a given number. -/
def line (script : Script) (index : Nat) : Except ScriptError DialogueLine :=
  match script.dialogue[index]? with
  | some line => .ok line
  | none => .error (.dialogueOutOfRange index script.dialogue.length)

/-- The writes that follow the splice of a patch: the ends of the two tables, and the start of each block. -/
def repairs (script : Script) (patch : Patch) : List Change :=
  let header := script.header
  let symbolTableEnd := patch.moved header.symbolTableEnd.toNat
  .word (patch.moved header.symbolTableEndOffset) (UInt32.ofNat symbolTableEnd) ::
  .word (patch.moved header.blockTableEndOffset)
    (UInt32.ofNat (symbolTableEnd + Header.blockEntrySize * header.blockCount.toNat)) ::
  script.blocks.map fun block =>
    .word ((patch.moved block.address + 4) % UInt64.size) (UInt32.ofNat (patch.moved block.start.toNat))

/-- The patch that replaces the text of a line, with at most `cap` bytes. A line without a terminator cannot be replaced. -/
def planEdit (script : Script) (index : Nat) (text : String) (cap : Nat) : Except ScriptError Patch := do
  let line ← script.line index
  let declared ← script.bytes.readInt32 line.offset
  if declared < 1 then
    throw (.malformedHeader (.noTerminator index line.offset))
  let (oldText, _) ← StoredText.readBytes script.bytes line.offset
  let capped := script.encoding.encodeCapped (LineBreak.escape text) cap
  let newText := capped.bytes.toArray
  let splice : Change := .splice line.offset (line.offset + 4 + oldText.size)
    (Bytes.ofUInt32 (StoredText.declaredLength newText.size) ++ newText)
  let patch : Patch := {
    dialogueIndex := index
    offset := line.offset
    oldLength := oldText.size
    newText
    lengthDelta := newText.size - oldText.size
    changes := [splice]
    truncation := if capped.truncated then some ⟨index, cap, capped.fullLength⟩ else none }
  pure { patch with changes := splice :: script.repairs patch }

/-! ## Bringing the parts in line -/

/-- The header after a patch. -/
def rebaseHeader (patch : Patch) (header : Header) : Header :=
  let symbolTableEnd := UInt32.ofNat (patch.moved header.symbolTableEnd.toNat)
  { header with
    symbolTableEnd
    blockTableEnd := symbolTableEnd + UInt32.ofNat (Header.blockEntrySize * header.blockCount.toNat) }

/-- A symbol after a patch that stores `stored`. -/
def rebaseSymbol (patch : Patch) (stored : String) (symbol : Symbol) : Symbol where
  offset := patch.moved symbol.offset
  text := if symbol.offset = patch.offset then stored else symbol.text

/-- A block after a patch. It keeps the name that it was read with. -/
def rebaseBlock (patch : Patch) (block : Block) : Block :=
  { block with
    address := patch.moved block.address
    start := UInt32.ofNat (patch.moved block.start.toNat) }

/-- An invocation after a patch. -/
def rebaseInvocation (patch : Patch) (invocation : Invocation) : Invocation :=
  { invocation with
    address := patch.moved invocation.address
    parameters := invocation.parameters.map fun parameter => { parameter with offset := patch.moved parameter.offset } }

/-- A spoken line after a patch that stores `stored`. -/
def rebaseLine (patch : Patch) (stored : String) (line : DialogueLine) : DialogueLine :=
  { line with
    offset := patch.moved line.offset
    text := if line.offset = patch.offset then LineBreak.unescape stored else line.text }

/-- The script with patched bytes: all its parts as they are after the patch. -/
def rebase (script : Script) (patch : Patch) (bytes : Bytes) : Script :=
  let stored := script.encoding.decode patch.newText.toList
  { script with
    bytes
    header := rebaseHeader patch script.header
    symbols := ⟨script.symbols.symbols.map (rebaseSymbol patch stored)⟩
    blocks := script.blocks.map (rebaseBlock patch)
    invocations := script.invocations.map (rebaseInvocation patch)
    dialogue := script.dialogue.map (rebaseLine patch stored) }

/-! ## Edits -/

/-- Replaces the text of a line, with at most `cap` bytes. A text that is too long is cut, and the outcome says so. The text that
the line has already leaves the script as it is. -/
def edit (script : Script) (index : Nat) (text : String) (cap : Nat) : Except ScriptError (Script × EditOutcome) := do
  let line ← script.line index
  if line.text = text then
    pure (script, ⟨index, 0, none⟩)
  else
    let patch ← script.planEdit index text cap
    let bytes ← patch.apply script.bytes
    pure (script.rebase patch bytes, ⟨index, patch.lengthDelta, patch.truncation⟩)

/-- Replaces the text of the line that a key means. -/
def importEntry (script : Script) (key text : String) (cap : Nat) : Except ScriptError (Script × EditOutcome) := do
  let index ← ImportKey.index key
  script.edit index text cap

/-- Replaces the texts of the lines that the keys mean, one after another. The first fault ends the import; the edits before it
stay. -/
def importEntries (script : Script) (cap : Nat) : List (String × String) → Script × Except ScriptError (List EditOutcome)
  | [] => (script, .ok [])
  | (key, text) :: rest =>
    match script.importEntry key text cap with
    | .error e => (script, .error e)
    | .ok (edited, outcome) =>
      let (final, outcomes) := edited.importEntries cap rest
      (final, outcomes.map (outcome :: ·))

end Script

end SceneScript
