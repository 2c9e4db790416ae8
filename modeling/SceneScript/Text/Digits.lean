/-!
# Numbers spelled in digits

Digits spell a number in a base up to sixteen, with letters of either case. A number with a fraction is its digits times a power
of ten; it may be too large for a double.
-/

namespace SceneScript.Digits

/-- The value of a digit of a base up to sixteen. -/
def value? (base : Nat) (c : Char) : Option Nat :=
  let value? :=
    if c.isDigit then some (c.toNat - '0'.toNat)
    else if 'a' ≤ c ∧ c ≤ 'f' then some (c.toNat - 'a'.toNat + 10)
    else if 'A' ≤ c ∧ c ≤ 'F' then some (c.toNat - 'A'.toNat + 10)
    else none
  value?.filter (· < base)

/-- The number that one or more digits spell. -/
def natural? (base : Nat) (digits : List Char) : Option Nat :=
  if digits.isEmpty then none
  else digits.foldlM (fun n c => return base * n + (← value? base c)) 0

/-- The character with the code that the first `count` characters spell in hexadecimal. -/
def codePoint? (count : Nat) (text : List Char) : Option Char := do
  if text.length < count then none
  let n ← natural? 16 (text.take count)
  if h : n.isValidChar then some (Char.ofNatAux n h) else none

/-- Does a decimal number round to a finite double? From half a unit past the largest double on, it does not. Only a number of 309
places has to be compared. -/
def isFinite (digits : List Char) (exponent : Int) : Bool :=
  let significant := digits.dropWhile (· = '0')
  let places := significant.length + exponent
  if significant.isEmpty || places < 309 then true
  else if 309 < places then false
  else
    let bound := Nat.pow 2 1024 - Nat.pow 2 970
    let n := (natural? 10 significant).getD 0
    if 0 ≤ exponent then n * Nat.pow 10 exponent.toNat < bound else n < bound * Nat.pow 10 (-exponent).toNat

end SceneScript.Digits
