import SceneScript.Operand

/-!
# Conditions

A condition is a list of terms. A term compares two operands, and says how the next term is joined to it; there is no grouping.
-/

namespace SceneScript

/-- How a term compares its operands. -/
inductive Comparator where
  | eq
  | ne
  | gt
  | lt
  | ge
  | le
  /-- Only the left operand is tested. -/
  | bare
  /-- A code of no known meaning. -/
  | unrecognized
  deriving DecidableEq, Repr

/-- The comparator with a given code. -/
def Comparator.ofCode (code : UInt8) : Comparator :=
  match code.toNat with
  | 0x83 => eq
  | 0x84 => ne
  | 0x85 => gt
  | 0x86 => lt
  | 0x87 => ge
  | 0x88 => le
  | 0x89 => bare
  | _ => unrecognized

/-- How a term is joined to the next one. -/
inductive Combinator where
  | and
  | or
  /-- A code of no known meaning: the terms follow one another. -/
  | concat
  deriving DecidableEq, Repr

/-- The combinator with a given code. -/
def Combinator.ofCode (code : UInt8) : Combinator :=
  match code.toNat with
  | 0x80 => and
  | 0x81 => or
  | _ => concat

/-- What stands between two terms. -/
def Combinator.separator : Combinator → String
  | and => " && "
  | or => " || "
  | concat => ""

/-- A term of a condition. -/
structure ConditionTerm where
  comparator : Comparator
  /-- Joins this term to the next one. -/
  combinator : Combinator
  left : Operand
  right : Operand
  deriving DecidableEq, Repr

/-- How a term is shown. A term with an unrecognized comparator is not shown at all. -/
def ConditionTerm.text (term : ConditionTerm) : String :=
  let compare (sign : String) := s!"{term.left.text} {sign} {term.right.text}"
  match term.comparator with
  | .eq => compare "=="
  | .ne => compare "!="
  | .gt => compare ">"
  | .lt => compare "<"
  | .ge => compare ">="
  | .le => compare "<="
  | .bare => term.left.text
  | .unrecognized => ""

namespace Condition

/-- The bytes before the first term: the length of the payload and the number of terms, each in two bytes. -/
def headerSize : Nat := 4

/-- The bytes of a term: comparator, combinator and two pairs of words. -/
def termSize : Nat := 18

/-- The term at `offset` of a payload. -/
def readTerm (symbols : SymbolTable) (payload : Bytes) (offset : Nat) : Except ScriptError ConditionTerm := do
  let term ← payload.slice offset termSize
  let pairs := term.extract 2 termSize
  let left ← Operand.resolveAt symbols pairs 0
  let right ← Operand.resolveAt symbols pairs 2
  pure { comparator := .ofCode (term.getD 0 0), combinator := .ofCode (term.getD 1 0), left, right }

/-- The next `count` terms. -/
def readTerms (symbols : SymbolTable) (payload : Bytes) : Nat → Nat → Except ScriptError (List ConditionTerm)
  | 0, _ => pure []
  | count + 1, offset => do
    let term ← readTerm symbols payload offset
    let rest ← readTerms symbols payload count (offset + termSize)
    pure (term :: rest)

/-- The terms of a condition. A negative count counts as none. -/
def read (symbols : SymbolTable) (payload : Bytes) : Except ScriptError (List ConditionTerm) := do
  let count ← payload.readInt16 2
  readTerms symbols payload count.toInt.toNat headerSize

/-- How a condition is shown, from left to right. The combinator of the last term joins nothing. -/
def render : List ConditionTerm → String
  | [] => ""
  | [term] => term.text
  | term :: rest => term.text ++ term.combinator.separator ++ render rest

/-! ## Writing -/

/-- A term as it is written: the codes and the two pairs of control code and value. -/
structure TermCode where
  comparator : UInt8
  combinator : UInt8
  left : Int32 × Int32
  right : Int32 × Int32
  deriving DecidableEq, Repr

/-- A pair of words. -/
def pairBytes (pair : Int32 × Int32) : Bytes :=
  Bytes.ofInt32 pair.1 ++ Bytes.ofInt32 pair.2

/-- The bytes of a term. -/
def TermCode.toBytes (term : TermCode) : Bytes :=
  #[term.comparator, term.combinator] ++ pairBytes term.left ++ pairBytes term.right

/-- The payload with the given terms, its own length and the number of terms included. -/
def toBytes (terms : List TermCode) : Bytes :=
  Bytes.ofUInt16 (UInt16.ofNat (headerSize + termSize * terms.length)) ++ Bytes.ofUInt16 (UInt16.ofNat terms.length) ++
    terms.foldl (fun out term => out ++ term.toBytes) #[]

end Condition

end SceneScript
