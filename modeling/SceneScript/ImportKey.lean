import SceneScript.Dialogue

/-!
# Keys of dialogue lines

In an exported project a line goes by a key: its number among the lines in four digits or more, and the code of its speaker. Only
the first four characters of a key are read.
-/

namespace SceneScript.ImportKey

/-- A number in decimal, with zeros in front up to `width`. -/
def paddedDecimal (width n : Nat) : String :=
  let digits := Nat.toDigits 10 n
  String.ofList (List.replicate (width - digits.length) '0' ++ digits)

/-- The key of a line. -/
def ofLine (index : Nat) (line : DialogueLine) : String :=
  s!"{paddedDecimal 4 index}_{line.speaker.code}"

/-- The value of an ASCII digit. -/
def digitValue (c : Char) : Nat :=
  c.toNat - '0'.toNat

/-- The number of the line that a key means: its first four characters, which must be digits. -/
def index (key : String) : Except ScriptError Nat :=
  match key.toList with
  | a :: b :: c :: d :: _ =>
    if a.isDigit ∧ b.isDigit ∧ c.isDigit ∧ d.isDigit then
      .ok (1000 * digitValue a + 100 * digitValue b + 10 * digitValue c + digitValue d)
    else .error (.invalidImportKey key)
  | _ => .error (.invalidImportKey key)

end SceneScript.ImportKey
