import SceneScript.Bytes
import SceneScript.Text.Utf8

/-!
# Lists of script names

The game lists its scripts in a file of their names: a count, four unused bytes, and a record of 36 bytes for each name, which
ends at its first zero byte. The last record may be cut short but not missing.
-/

namespace SceneScript.NameList

/-- Where the first record starts. -/
def headerSize : Nat := 8

/-- The size of a record. -/
def recordSize : Nat := 36

/-- The next `count` names. -/
def readNames (buf : Bytes) : Nat → Nat → Except ScriptError (List String)
  | 0, _ => pure []
  | count + 1, offset => do
    buf.ensure offset 1
    let record := (buf.extract offset (offset + recordSize)).toList
    let rest ← readNames buf count (offset + recordSize)
    pure (String.ofList (Utf8.decoder.decode (record.takeWhile (· ≠ 0))) :: rest)

/-- The names in a file. -/
def read (buf : Bytes) : Except ScriptError (List String) := do
  let count ← buf.readUInt32 0
  readNames buf count.toNat headerSize

end SceneScript.NameList
