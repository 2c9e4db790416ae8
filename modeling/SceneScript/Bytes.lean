import SceneScript.Error

/-!
# Bytes and big-endian words

A file is an array of bytes. Numbers in it are big-endian. Every read names its position, and a read past the end is a fault that
says where it was and how many bytes it needed.
-/

namespace SceneScript

/-- The bytes of a file, or of a part of one. -/
abbrev Bytes := Array UInt8

namespace Bytes

/-- Are there `needed` bytes at `offset`? -/
def ensure (buf : Bytes) (offset needed : Nat) : Except ScriptError Unit :=
  if offset + needed ≤ buf.size then .ok () else .error (.unexpectedEnd offset needed buf.size)

/-- The `count` bytes at `offset`. -/
def slice (buf : Bytes) (offset count : Nat) : Except ScriptError Bytes := do
  buf.ensure offset count
  pure (buf.extract offset (offset + count))

/-- The number that bytes spell, the most significant byte first. -/
def bigEndian (bytes : Bytes) : Nat :=
  bytes.foldl (fun n b => 256 * n + b.toNat) 0

/-! ## Reading words -/

def readUInt16 (buf : Bytes) (offset : Nat) : Except ScriptError UInt16 := do
  pure (UInt16.ofNat (bigEndian (← buf.slice offset 2)))

def readInt16 (buf : Bytes) (offset : Nat) : Except ScriptError Int16 := do
  pure (← buf.readUInt16 offset).toInt16

def readUInt32 (buf : Bytes) (offset : Nat) : Except ScriptError UInt32 := do
  pure (UInt32.ofNat (bigEndian (← buf.slice offset 4)))

def readInt32 (buf : Bytes) (offset : Nat) : Except ScriptError Int32 := do
  pure (← buf.readUInt32 offset).toInt32

/-- The position of word `k` of a payload. Positions are 64-bit, so that of a word too far off wraps around. -/
def wordOffset (k : Nat) : Nat :=
  4 * k % UInt64.size

/-- Word `k` of a payload. -/
def readWord (payload : Bytes) (k : Nat) : Except ScriptError Int32 :=
  payload.readInt32 (wordOffset k)

/-! ## Writing words -/

/-- The two bytes of a word. -/
def ofUInt16 (x : UInt16) : Bytes :=
  #[UInt8.ofNat (x.toNat / 256), UInt8.ofNat x.toNat]

/-- The four bytes of a word. -/
def ofUInt32 (x : UInt32) : Bytes :=
  #[UInt8.ofNat (x.toNat / 16777216), UInt8.ofNat (x.toNat / 65536), UInt8.ofNat (x.toNat / 256), UInt8.ofNat x.toNat]

def ofInt16 (x : Int16) : Bytes :=
  ofUInt16 x.toUInt16

def ofInt32 (x : Int32) : Bytes :=
  ofUInt32 x.toUInt32

/-- The bytes with those from `start` to `stop` replaced by `content`. -/
def replaceRange (buf : Bytes) (start stop : Nat) (content : Bytes) : Bytes :=
  buf.extract 0 start ++ content ++ buf.extract stop buf.size

/-- The bytes with the word at `offset` replaced. -/
def writeUInt32 (buf : Bytes) (offset : Nat) (value : UInt32) : Except ScriptError Bytes := do
  buf.ensure offset 4
  pure (buf.replaceRange offset (offset + 4) (ofUInt32 value))

end Bytes

end SceneScript
