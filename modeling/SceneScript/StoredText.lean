import SceneScript.Bytes
import SceneScript.Text.Encoding

/-!
# Stored texts

A script holds a text as a 4-byte length, the bytes of the text, and a zero byte that the length counts.
-/

namespace SceneScript.StoredText

/-- The bytes of the text stored at `pos`, without the terminator, and the position after it. A length of zero stands for an empty
text without a terminator. -/
def readBytes (buf : Bytes) (pos : Nat) : Except ScriptError (Bytes × Nat) := do
  let declared ← buf.readInt32 pos
  if declared < 0 then
    throw (.malformedHeader (.negativeLength declared pos))
  let stored ← buf.slice (pos + 4) declared.toInt.toNat
  pure (stored.pop, pos + 4 + declared.toInt.toNat)

/-- The text stored at `pos`, and the position after it. -/
def read (buf : Bytes) (pos : Nat) (encoding : Encoding) : Except ScriptError (String × Nat) := do
  let (text, next) ← readBytes buf pos
  pure (encoding.decode text.toList, next)

/-- The length that is stored with a text of `size` bytes. -/
def declaredLength (size : Nat) : UInt32 :=
  UInt32.ofNat (size + 1)

/-- The stored form of a text. -/
def ofBytes (text : Bytes) : Bytes :=
  Bytes.ofUInt32 (declaredLength text.size) ++ text ++ #[0]

/-- The stored form of a text in an encoding. -/
def ofString (encoding : Encoding) (text : String) : Bytes :=
  ofBytes (encoding.encode text).toArray

end SceneScript.StoredText
