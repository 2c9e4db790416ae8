import SceneScript.Bytes

/-!
# Patches

A patch is a list of changes to the bytes of a file, worked out before any of them is made. The positions in a change refer to the
bytes that the changes before it leave. A patch is applied whole or not at all.
-/

namespace SceneScript

/-- A change to the bytes of a file. -/
inductive Change where
  /-- Replaces the bytes from `start` to `stop`, by more or fewer if need be. -/
  | splice (start stop : Nat) (content : Bytes)
  /-- Replaces the word at `offset`. -/
  | word (offset : Nat) (value : UInt32)
  deriving DecidableEq, Repr

namespace Change

/-- The size of a file after the change, if the change fits a file of the given size. -/
def check (size : Nat) : Change → Except ScriptError Nat
  | splice start stop content =>
    if start ≤ stop ∧ stop ≤ size then .ok (size - (stop - start) + content.size) else .error (.patchOutOfRange stop size)
  | word offset _ => if offset + 4 ≤ size then .ok size else .error (.patchOutOfRange offset size)

/-- The bytes after the change, which has to fit them. -/
def perform (buf : Bytes) : Change → Except ScriptError Bytes
  | splice start stop content =>
    if start ≤ stop ∧ stop ≤ buf.size then .ok (buf.replaceRange start stop content)
    else .error (.patchOutOfRange stop buf.size)
  | word offset value => buf.writeUInt32 offset value

end Change

/-- The text of a line was too long for the limit `cap` and has been cut. -/
structure Truncation where
  index : Nat
  cap : Nat
  /-- How many bytes the whole text takes. -/
  fullLength : Nat
  deriving DecidableEq, Repr

/-- The warning about a text that has been cut. -/
def Truncation.message (truncation : Truncation) : String :=
  s!"dialogue line {truncation.index} encodes to {truncation.fullLength} bytes, truncated to the {truncation.cap} byte cap"

/-- All that the edit of a spoken line does to the bytes of a script. -/
structure Patch where
  dialogueIndex : Nat
  /-- The position of the stored text that is replaced. -/
  offset : Nat
  /-- The bytes of the old text, without the terminator. -/
  oldLength : Nat
  /-- The new text, without the terminator. -/
  newText : Bytes
  lengthDelta : Int
  changes : List Change
  truncation : Option Truncation
  deriving DecidableEq, Repr

namespace Patch

/-- Where a position of the unpatched bytes is afterwards: what lies behind the start of the replaced text moves by the difference
in length. Positions are 64-bit, so one that would be negative wraps around. -/
def moved (patch : Patch) (pos : Nat) : Nat :=
  if patch.offset < pos then ((pos + patch.lengthDelta) % UInt64.size).toNat else pos

/-- The bytes after all changes. Every change is checked before the first one is made. -/
def apply (patch : Patch) (buf : Bytes) : Except ScriptError Bytes := do
  let _ ← patch.changes.foldlM Change.check buf.size
  patch.changes.foldlM Change.perform buf

end Patch

end SceneScript
