import SceneScript.Text.CodeTable
import SceneScript.Text.ShiftJis.Rows

/-!
# Shift_JIS

One byte for ASCII and for half-width katakana, two for everything in the code table and for the user's own characters. Writing
never uses the lead bytes 0xED to 0xEF, whose characters all stand elsewhere in the table too, nor the user's own characters.
-/

namespace SceneScript.ShiftJis

/-- The characters of the two-byte codes. -/
def table : CodeTable := CodeTable.ofRows rows

/-- The lead bytes: two ranges, around the half-width katakana. -/
def isLead (b : UInt8) : Bool :=
  (0x81 ≤ b && b ≤ 0x9F) || (0xE0 ≤ b && b ≤ 0xFC)

/-- The row of a lead byte. -/
def rowOf (lead : UInt8) : Nat :=
  if lead < 0xA0 then lead.toNat - 0x81 else lead.toNat - 0xC1

/-- The column of a trail byte. -/
def columnOf? (trail : UInt8) : Option Nat :=
  if 0x40 ≤ trail ∧ trail ≤ 0x7E then some (trail.toNat - 0x40)
  else if 0x80 ≤ trail ∧ trail ≤ 0xFC then some (trail.toNat - 0x41)
  else none

/-- The rows that hold the user's own characters. -/
def isUserRow (row : Nat) : Bool :=
  47 ≤ row && row < 57

/-- The character of a two-byte code. -/
def pair? (lead trail : UInt8) : Option Char := do
  let column ← columnOf? trail
  let row := rowOf lead
  if isUserRow row then some (Char.ofNat (0xE000 + 188 * (row - 47) + column)) else table.char? row column

/-- Reads a byte with no lead byte pending. -/
def start (b : UInt8) : List Char × Option UInt8 :=
  if b ≤ 0x80 then ([Char.ofNat b.toNat], none)
  else if 0xA1 ≤ b ∧ b ≤ 0xDF then ([Char.ofNat (0xFF61 + (b.toNat - 0xA1))], none)
  else if isLead b then ([], some b)
  else ([replacement], none)

/-- Reads a byte. An ASCII byte that does not complete a code stands for itself after the replacement character. -/
def step : Option UInt8 → UInt8 → List Char × Option UInt8
  | none, b => start b
  | some lead, b =>
    match pair? lead b with
    | some c => ([c], none)
    | none => if b < 0x80 then ([replacement, Char.ofNat b.toNat], none) else ([replacement], none)

/-- The reader of Shift_JIS. -/
def decoder : ByteDecoder where
  State := Option UInt8
  initial := none
  step := step
  finish
    | none => []
    | some _ => [replacement]

/-- The rows a character may be written from. -/
def isWritten (row : Nat) : Bool :=
  row < 44 || 47 ≤ row

/-- The two bytes of a cell of the table. -/
def cellBytes (row column : Nat) : List UInt8 :=
  [UInt8.ofNat (if row < 31 then 0x81 + row else 0xC1 + row), UInt8.ofNat (if column < 63 then 0x40 + column else 0x41 + column)]

/-- The bytes of a character, if it has any. The yen sign and the overline share the bytes of the backslash and the tilde, and the
minus sign has the code of its full-width form. -/
def encodeChar? (c : Char) : Option (List UInt8) :=
  let n := c.toNat
  if n ≤ 0x80 then some [UInt8.ofNat n]
  else if n = 0xA5 then some [0x5C]
  else if n = 0x203E then some [0x7E]
  else if 0xFF61 ≤ n ∧ n ≤ 0xFF9F then some [UInt8.ofNat (n - 0xFF61 + 0xA1)]
  else
    (table.position? isWritten (if n = 0x2212 then '\uFF0D' else c)).map fun (row, column) => cellBytes row column

end SceneScript.ShiftJis
