import SceneScript.Text.Digits
import SceneScript.Toml.Value

/-!
# Unquoted values

Numbers, truth values, dates and times, each a word without blanks. Underscores may stand between digits. A number without a
fraction has 64 bits, and one with a fraction must not be past the largest double.
-/

namespace SceneScript.Toml.Scalar

/-! ## Numbers -/

/-- The digits of a word of one digit or more, without the single underscores between them. -/
def digits? (base : Nat) : List Char → Option (List Char)
  | [] => none
  | [c] => if (Digits.value? base c).isSome then some [c] else none
  | c :: '_' :: rest => if (Digits.value? base c).isSome then (digits? base rest).map (c :: ·) else none
  | c :: rest => if (Digits.value? base c).isSome then (digits? base rest).map (c :: ·) else none

/-- The number that a word of digits spells. -/
def natural? (base : Nat) (word : List Char) : Option Nat :=
  (digits? base word).bind (Digits.natural? base)

/-- The digits of a decimal number, which has no zero in front. -/
def decimal? (word : List Char) : Option (List Char) :=
  match digits? 10 word with
  | some ('0' :: _ :: _) => none
  | found => found

/-- What `f` finds in a word behind its sign, and whether the sign is a minus. A sign need not be there. -/
def signed {α : Type} (f : List Char → Option α) : List Char → Option (Bool × α)
  | '-' :: rest => (f rest).map (true, ·)
  | '+' :: rest => (f rest).map (false, ·)
  | word => (f word).map (false, ·)

/-- The number with a given sign. -/
def withSign : Bool × Nat → Int
  | (negative, n) => if negative then -Int.ofNat n else n

/-- The number without a fraction that a word spells. -/
def integer? : List Char → Option Int
  | '0' :: 'x' :: rest => (natural? 16 rest).map Int.ofNat
  | '0' :: 'o' :: rest => (natural? 8 rest).map Int.ofNat
  | '0' :: 'b' :: rest => (natural? 2 rest).map Int.ofNat
  | word => (signed (fun rest => (decimal? rest).bind (Digits.natural? 10)) word).map withSign

/-- Does a number have 64 bits? -/
def isInt64 (n : Int) : Bool :=
  Int64.minValue.toInt ≤ n && n ≤ Int64.maxValue.toInt

/-- The digits of a number with a fraction, an exponent or both, and the power of ten that they are times of. -/
def fraction? (word : List Char) : Option (List Char × Int) := do
  let (mantissa, exponent) := word.span fun c => c ≠ 'e' && c ≠ 'E'
  let (whole, fraction) := mantissa.span (· ≠ '.')
  if exponent.isEmpty && fraction.isEmpty then none
  let whole ← decimal? whole
  let fraction ← if fraction.isEmpty then some [] else digits? 10 (fraction.drop 1)
  let exponent ← if exponent.isEmpty then some 0 else (signed (natural? 10) (exponent.drop 1)).map withSign
  pure (whole ++ fraction, exponent - fraction.length)

/-- Is the word a number with a fraction, an exponent or both, or a special one? Only a positive one can be too large. -/
def isFloat (word : List Char) : Bool :=
  (signed (fun rest => if rest ∈ [['i', 'n', 'f'], ['n', 'a', 'n']] then some ([], 0) else fraction? rest) word).any
    fun (negative, digits, exponent) => negative || Digits.isFinite digits exponent

/-! ## Dates and times -/

/-- A number of exactly `count` digits between two bounds, and what follows it. -/
def field? (count low high : Nat) (word : List Char) : Option (Nat × List Char) :=
  let digits := word.take count
  let n := (Digits.natural? 10 digits).getD 0
  if digits.length = count && digits.all Char.isDigit && low ≤ n && n ≤ high then some (n, word.drop count) else none

/-- What follows a given character. -/
def after? (c : Char) : List Char → Option (List Char)
  | a :: rest => if a = c then some rest else none
  | [] => none

/-- How many days a month has. -/
def daysOf (year month : Nat) : Nat :=
  if month = 2 then
    if year % 4 = 0 && (year % 100 ≠ 0 || year % 400 = 0) then 29 else 28
  else if month ∈ [4, 6, 9, 11] then 30
  else 31

/-- What follows a date. -/
def date? (word : List Char) : Option (List Char) := do
  let (year, rest) ← field? 4 0 9999 word
  let (month, rest) ← field? 2 1 12 (← after? '-' rest)
  let (_, rest) ← field? 2 1 (daysOf year month) (← after? '-' rest)
  pure rest

/-- What follows a time of day. -/
def time? (word : List Char) : Option (List Char) := do
  let (_, rest) ← field? 2 0 23 word
  let (_, rest) ← field? 2 0 59 (← after? ':' rest)
  let (_, rest) ← field? 2 0 60 (← after? ':' rest)
  match rest with
  | '.' :: d :: more => if d.isDigit then some (more.dropWhile Char.isDigit) else none
  | rest => some rest

/-- Is the word nothing, or the distance of a time zone? -/
def isZone : List Char → Bool
  | [] | ['Z'] | ['z'] => true
  | c :: rest =>
    (c = '+' || c = '-') &&
      match field? 2 0 23 rest with
      | some (_, ':' :: minutes) => (field? 2 0 59 minutes).any fun (_, rest) => rest.isEmpty
      | _ => false

/-- Is the word a date, a time, or a date with a time? -/
def isMoment (word : List Char) : Bool :=
  match date? word with
  | some [] => true
  | some (c :: rest) => (c = 'T' || c = 't' || c = ' ') && (time? rest).any isZone
  | none => time? word = some []

/-- Is the word a date without a time, so that a time can follow after a space? -/
def isDate (word : List Char) : Bool :=
  date? word = some []

/-! ## Words -/

/-- The characters of unquoted values. -/
def isWordCharacter (c : Char) : Bool :=
  c.isAlphanum || c ∈ ['_', '+', '-', '.', ':']

/-- The value that a word stands for. -/
def value (word : List Char) : Except Fault Value :=
  if word = ['t', 'r', 'u', 'e'] then .ok (.boolean true)
  else if word = ['f', 'a', 'l', 's', 'e'] then .ok (.boolean false)
  else if isMoment word then .ok (.moment (String.ofList word))
  else if isFloat word then .ok (.float (String.ofList word))
  else
    match integer? word with
    | some n => if isInt64 n then .ok (.integer n) else .error .invalidNumber
    | none => .error .invalidNumber

end SceneScript.Toml.Scalar
