import SceneScript.Text.CodeTable
import SceneScript.Text.Gb18030.Rows
import SceneScript.Text.Gb18030.Runs

/-!
# GB 18030

One byte for ASCII, two for the characters of the code table and four for all others, so that every character but one private-use
character can be written.
-/

namespace SceneScript.Gb18030

/-- The characters of the two-byte codes. -/
def table : CodeTable := CodeTable.ofRows rows

/-- The bytes that can be the second or fourth of four. -/
def isDigit (b : UInt8) : Bool :=
  0x30 ≤ b && b ≤ 0x39

/-- The bytes that start a code of more than one byte. -/
def isLead (b : UInt8) : Bool :=
  0x81 ≤ b && b ≤ 0xFE

/-- The column of a trail byte. -/
def columnOf? (trail : UInt8) : Option Nat :=
  if 0x40 ≤ trail ∧ trail ≤ 0x7E then some (trail.toNat - 0x40)
  else if 0x80 ≤ trail ∧ trail ≤ 0xFE then some (trail.toNat - 0x41)
  else none

/-- The character of a two-byte code. -/
def pair? (lead trail : UInt8) : Option Char := do
  let column ← columnOf? trail
  table.char? (lead.toNat - 0x81) column

/-- The number of the first character past the basic plane. -/
def supplementary : Nat := 189000

/-- The character with a given number. -/
def numbered? (number : Nat) : Option Char :=
  if supplementary ≤ number then
    if number < supplementary + 0x100000 then some (Char.ofNat (0x10000 + (number - supplementary))) else none
  else
    runs.findSome? fun (first, codePoint, count) =>
      if first ≤ number ∧ number < first + count then some (Char.ofNat (codePoint + (number - first))) else none

/-- The number that four bytes spell. -/
def numberOf (a b c d : UInt8) : Nat :=
  12600 * (a.toNat - 0x81) + 1260 * (b.toNat - 0x30) + 10 * (c.toNat - 0x81) + (d.toNat - 0x30)

/-- The bytes of a code that waits for more. -/
inductive State where
  | idle
  | one (a : UInt8)
  | two (a b : UInt8)
  | three (a b c : UInt8)
  deriving DecidableEq, Repr

/-- Reads a byte with nothing pending. The byte 0x80 is the euro sign. -/
def start (b : UInt8) : List Char × State :=
  if b < 0x80 then ([Char.ofNat b.toNat], .idle)
  else if b = 0x80 then (['€'], .idle)
  else if isLead b then ([], .one b)
  else ([replacement], .idle)

/-- Reads the byte after a lead byte. -/
def second (a b : UInt8) : List Char × State :=
  if isDigit b then ([], .two a b)
  else match pair? a b with
    | some c => ([c], .idle)
    | none => if b < 0x80 then ([replacement, Char.ofNat b.toNat], .idle) else ([replacement], .idle)

/-- Reads a byte. Where a code of four bytes breaks off, its first byte is replaced and the others are read again: the second is a
digit and stands for itself, the third is a lead byte. -/
def step : State → UInt8 → List Char × State
  | .idle, b => start b
  | .one a, b => second a b
  | .two a b, c =>
    if isLead c then ([], .three a b c)
    else ([replacement, Char.ofNat b.toNat] ++ (start c).1, (start c).2)
  | .three a b c, d =>
    if isDigit d then ([(numbered? (numberOf a b c d)).getD replacement], .idle)
    else ([replacement, Char.ofNat b.toNat] ++ (second c d).1, (second c d).2)

/-- The reader of GB 18030. -/
def decoder : ByteDecoder where
  State := State
  initial := .idle
  step := step
  finish
    | .idle => []
    | _ => [replacement]

/-- Private-use characters that keep the two-byte codes they had before these codes were given to other characters. -/
def formerCodes : List (Nat × List UInt8) := [
  (0xE78D, [0xA6, 0xD9]), (0xE78E, [0xA6, 0xDA]), (0xE78F, [0xA6, 0xDB]), (0xE790, [0xA6, 0xDC]), (0xE791, [0xA6, 0xDD]),
  (0xE792, [0xA6, 0xDE]), (0xE793, [0xA6, 0xDF]), (0xE794, [0xA6, 0xEC]), (0xE795, [0xA6, 0xED]), (0xE796, [0xA6, 0xF3]),
  (0xE81E, [0xFE, 0x59]), (0xE826, [0xFE, 0x61]), (0xE82B, [0xFE, 0x66]), (0xE82C, [0xFE, 0x67]), (0xE832, [0xFE, 0x6D]),
  (0xE843, [0xFE, 0x7E]), (0xE854, [0xFE, 0x90]), (0xE864, [0xFE, 0xA0])]

/-- The number of a code point, if it has a code of four bytes. -/
def number? (n : Nat) : Option Nat :=
  if 0x10000 ≤ n then some (supplementary + (n - 0x10000))
  else
    runs.findSome? fun (first, codePoint, count) =>
      if codePoint ≤ n ∧ n < codePoint + count then some (first + (n - codePoint)) else none

/-- The four bytes that spell a number. -/
def numberBytes (number : Nat) : List UInt8 :=
  [UInt8.ofNat (0x81 + number / 12600), UInt8.ofNat (0x30 + number / 1260 % 10), UInt8.ofNat (0x81 + number / 10 % 126),
    UInt8.ofNat (0x30 + number % 10)]

/-- The two bytes of a cell of the table. -/
def cellBytes (row column : Nat) : List UInt8 :=
  [UInt8.ofNat (0x81 + row), UInt8.ofNat (if column < 63 then 0x40 + column else 0x41 + column)]

/-- The bytes of a character, if it has any: its code in the table, else a former code, else four bytes. -/
def encodeChar? (c : Char) : Option (List UInt8) :=
  let n := c.toNat
  if n < 0x80 then some [UInt8.ofNat n]
  else match table.position? (fun _ => true) c with
    | some (row, column) => some (cellBytes row column)
    | none =>
      match formerCodes.lookup n with
      | some bytes => some bytes
      | none => (number? n).map numberBytes

end SceneScript.Gb18030
