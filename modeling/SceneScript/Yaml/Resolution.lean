import SceneScript.Text.Digits

/-!
# Texts that look like something else

An unquoted scalar can be a null, a truth value or a number. A text that would be read as one of these has to be quoted; so does a
text of digits with a zero in front, which some readers take for a number.
-/

namespace SceneScript.Yaml.Resolution

/-- Is the scalar a null? -/
def isNull (text : String) : Bool :=
  text ∈ ["", "null", "Null", "NULL", "~"]

/-- Is the scalar a truth value? -/
def isTruthValue (text : String) : Bool :=
  text ∈ ["true", "True", "TRUE", "false", "False", "FALSE"]

/-! ## Integers -/

/-- A number up to a limit, in the base that a mark in front gives, or in decimal. -/
def magnitude? (limit : Nat) (digits : List Char) : Option Nat :=
  let marked? := match digits with
    | '0' :: 'x' :: rest => Digits.natural? 16 rest
    | '0' :: 'o' :: rest => Digits.natural? 8 rest
    | '0' :: 'b' :: rest => Digits.natural? 2 rest
    | rest => Digits.natural? 10 rest
  marked?.filter (· ≤ limit)

/-- Is the scalar an integer of 128 bits? -/
def isInteger (text : String) : Bool :=
  match text.toList with
  | '-' :: rest => (magnitude? (Nat.pow 2 127) rest).isSome
  | '+' :: rest => (magnitude? (Nat.pow 2 128 - 1) rest).isSome
  | rest => (magnitude? (Nat.pow 2 128 - 1) rest).isSome

/-! ## Fractions -/

/-- A decimal number with a point or an exponent: its digits, how many of them stand after the point, and the exponent. -/
structure Decimal where
  digits : List Char
  fraction : Nat
  exponent : Int
  deriving Repr

/-- The exponent after the digits, if there is one. -/
def exponent? : List Char → Option Int
  | [] => some 0
  | e :: rest =>
    if e = 'e' ∨ e = 'E' then
      match rest with
      | '-' :: digits => (Digits.natural? 10 digits).map fun n => -(n : Int)
      | '+' :: digits => (Digits.natural? 10 digits).map fun n => (n : Int)
      | digits => (Digits.natural? 10 digits).map fun n => (n : Int)
    else none

/-- Digits with at most one point among them, and an exponent. -/
def decimal? (text : List Char) : Option Decimal := do
  let whole := text.takeWhile Char.isDigit
  let rest := text.dropWhile Char.isDigit
  let (fraction, rest) := match rest with
    | '.' :: rest => (rest.takeWhile Char.isDigit, rest.dropWhile Char.isDigit)
    | rest => ([], rest)
  if whole.isEmpty ∧ fraction.isEmpty then none
  else some ⟨whole ++ fraction, fraction.length, ← exponent? rest⟩

/-- Is the scalar a fraction, or infinity, or not a number? -/
def isFraction (text : String) : Bool :=
  let unsigned := match text.toList with
    | '+' :: rest => rest
    | '-' :: rest => rest
    | rest => rest
  text ∈ [".inf", ".Inf", ".INF", "+.inf", "+.Inf", "+.INF", "-.inf", "-.Inf", "-.INF", ".nan", ".NaN", ".NAN"] ||
    (decimal? unsigned).any fun d => Digits.isFinite d.digits (d.exponent - d.fraction)

/-- Is the text a zero with other digits behind it? Such a text is no number. -/
def isZeroPadded (text : String) : Bool :=
  let unsigned := match text.toList with
    | '+' :: rest => rest
    | '-' :: rest => rest
    | rest => rest
  match unsigned with
  | '0' :: a :: rest => (a :: rest).all Char.isDigit
  | _ => false

/-- Would the text be read as something other than a text, or by some readers? -/
def isAmbiguous (text : String) : Bool :=
  isNull text || isTruthValue text || isInteger text || isFraction text || isZeroPadded text

end SceneScript.Yaml.Resolution
