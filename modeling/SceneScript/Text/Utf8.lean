import SceneScript.Text.ByteDecoder

/-!
# UTF-8

Characters are written in one to four bytes. Reading replaces each maximal part of a malformed sequence by one replacement
character and starts afresh at the byte that broke it.
-/

namespace SceneScript.Utf8

/-- A sequence that waits for more bytes: the bits read so far, how many bytes are missing, and the range of the next one. -/
structure Pending where
  value : Nat
  missing : Nat
  lowest : UInt8
  highest : UInt8
  deriving DecidableEq, Repr

/-- What a first byte of two or more announces. The range of the second byte leaves out overlong forms, surrogates and
numbers past the last code point. -/
def pendingOf? (b : UInt8) : Option Pending :=
  if 0xC2 ≤ b ∧ b ≤ 0xDF then some ⟨b.toNat - 0xC0, 1, 0x80, 0xBF⟩
  else if b = 0xE0 then some ⟨0, 2, 0xA0, 0xBF⟩
  else if b = 0xED then some ⟨0xD, 2, 0x80, 0x9F⟩
  else if 0xE1 ≤ b ∧ b ≤ 0xEF then some ⟨b.toNat - 0xE0, 2, 0x80, 0xBF⟩
  else if b = 0xF0 then some ⟨0, 3, 0x90, 0xBF⟩
  else if b = 0xF4 then some ⟨4, 3, 0x80, 0x8F⟩
  else if 0xF1 ≤ b ∧ b ≤ 0xF3 then some ⟨b.toNat - 0xF0, 3, 0x80, 0xBF⟩
  else none

/-- Reads a byte with nothing pending. -/
def start (b : UInt8) : List Char × Option Pending :=
  if b < 0x80 then ([Char.ofNat b.toNat], none)
  else match pendingOf? b with
    | some pending => ([], some pending)
    | none => ([replacement], none)

/-- Reads a byte: one that continues the pending sequence, or the first byte of another. -/
def step : Option Pending → UInt8 → List Char × Option Pending
  | none, b => start b
  | some p, b =>
    if p.lowest ≤ b ∧ b ≤ p.highest then
      let value := 64 * p.value + (b.toNat - 0x80)
      if p.missing = 1 then ([Char.ofNat value], none) else ([], some ⟨value, p.missing - 1, 0x80, 0xBF⟩)
    else
      (replacement :: (start b).1, (start b).2)

/-- The reader of UTF-8. -/
def decoder : ByteDecoder where
  State := Option Pending
  initial := none
  step := step
  finish
    | none => []
    | some _ => [replacement]

/-- The bytes of a character. -/
def encodeChar (c : Char) : List UInt8 :=
  let n := c.toNat
  if n < 0x80 then [UInt8.ofNat n]
  else if n < 0x800 then [UInt8.ofNat (0xC0 + n / 64), UInt8.ofNat (0x80 + n % 64)]
  else if n < 0x10000 then
    [UInt8.ofNat (0xE0 + n / 4096), UInt8.ofNat (0x80 + n / 64 % 64), UInt8.ofNat (0x80 + n % 64)]
  else
    [UInt8.ofNat (0xF0 + n / 262144), UInt8.ofNat (0x80 + n / 4096 % 64), UInt8.ofNat (0x80 + n / 64 % 64),
      UInt8.ofNat (0x80 + n % 64)]

/-- The text that well-formed bytes spell: they are the bytes of the characters that are read from them. -/
def text? (bytes : List UInt8) : Option String :=
  let chars := decoder.decode bytes
  if chars.flatMap encodeChar = bytes then some (String.ofList chars) else none

end SceneScript.Utf8
