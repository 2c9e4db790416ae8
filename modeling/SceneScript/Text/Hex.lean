/-!
# Hexadecimal numbers

Numbers are shown with upper-case digits: either with a fixed number of digits, for the words of a script, or with as many as the
number needs, for positions.
-/

namespace SceneScript.Hex

/-- The digit for a value below sixteen. -/
def digit (n : Nat) : Char :=
  if n < 10 then Char.ofNat (48 + n) else Char.ofNat (55 + n)

/-- The last `width` digits of a number, with zeros in front where it has fewer. -/
def fixedDigits : Nat → Nat → List Char
  | 0, _ => []
  | width + 1, n => fixedDigits width (n / 16) ++ [digit (n % 16)]

/-- The digits of a number, without zeros in front; the digits of zero are `0`. -/
def digits (n : Nat) : List Char :=
  if n < 16 then [digit n] else digits (n / 16) ++ [digit (n % 16)]

/-- The last `width` digits of a number, as a text. -/
def fixed (width n : Nat) : String :=
  String.ofList (fixedDigits width n)

/-- All digits of a number, with zeros in front up to `width`. -/
def padded (width n : Nat) : String :=
  String.ofList (List.replicate (width - (digits n).length) '0' ++ digits n)

/-- A byte as two digits. -/
def byte (b : UInt8) : String :=
  fixed 2 b.toNat

theorem length_fixedDigits (width n : Nat) : (fixedDigits width n).length = width := by
  induction width generalizing n with
  | zero => rfl
  | succ width ih => simp [fixedDigits, ih]

end SceneScript.Hex
