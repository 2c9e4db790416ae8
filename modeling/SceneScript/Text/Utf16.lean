import SceneScript.Text.ByteDecoder

/-!
# UTF-16

Only read, never written: a text whose bytes start with a byte order mark is in UTF-16. A surrogate without its partner and an odd
byte at the end are replaced.
-/

namespace SceneScript.Utf16

/-- Which byte of a unit comes first. -/
inductive ByteOrder where
  | bigEndian
  | littleEndian
  deriving DecidableEq, Repr

/-- A high surrogate that waits for its partner, and the first byte of a unit that waits for the second. -/
structure State where
  high : Option Nat
  byte : Option UInt8
  deriving DecidableEq, Repr

/-- Reads a unit with no high surrogate before it. -/
def startUnit (unit : Nat) : List Char × Option Nat :=
  if 0xD800 ≤ unit ∧ unit < 0xDC00 then ([], some unit)
  else if 0xDC00 ≤ unit ∧ unit < 0xE000 then ([replacement], none)
  else ([Char.ofNat unit], none)

/-- Reads a unit. -/
def stepUnit : Option Nat → Nat → List Char × Option Nat
  | none, unit => startUnit unit
  | some high, unit =>
    if 0xDC00 ≤ unit ∧ unit < 0xE000 then
      ([Char.ofNat (0x10000 + 1024 * (high - 0xD800) + (unit - 0xDC00))], none)
    else
      (replacement :: (startUnit unit).1, (startUnit unit).2)

/-- The unit that two bytes make. -/
def unit : ByteOrder → UInt8 → UInt8 → Nat
  | .bigEndian, first, second => 256 * first.toNat + second.toNat
  | .littleEndian, first, second => 256 * second.toNat + first.toNat

/-- Reads a byte. -/
def step (order : ByteOrder) (s : State) (b : UInt8) : List Char × State :=
  match s.byte with
  | none => ([], ⟨s.high, some b⟩)
  | some first =>
    let (out, high) := stepUnit s.high (unit order first b)
    (out, ⟨high, none⟩)

/-- The reader of UTF-16 in a byte order. -/
def decoder (order : ByteOrder) : ByteDecoder where
  State := State
  initial := ⟨none, none⟩
  step := step order
  finish
    | ⟨none, none⟩ => []
    | _ => [replacement]

end SceneScript.Utf16
