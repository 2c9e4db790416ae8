/-!
# YAML documents

A document is a node: a scalar, a sequence or a mapping. A scalar keeps the way it is written, since an unquoted one may stand for
something other than a text.
-/

namespace SceneScript.Yaml

/-- The ways to write a scalar. -/
inductive ScalarStyle where
  | plain
  | singleQuoted
  | doubleQuoted
  /-- A block that keeps its line breaks. -/
  | literal
  /-- A block whose lines are joined. -/
  | folded
  deriving DecidableEq, Repr

/-- A node of a document. -/
inductive Node where
  | scalar (text : String) (style : ScalarStyle)
  | sequence (items : List Node)
  | mapping (entries : List (Node × Node))
  deriving Repr

/-- The node of what is left out: nothing, unquoted. -/
def Node.absent : Node := .scalar "" .plain

/-- Is nothing there? -/
def Node.isAbsent : Node → Bool
  | .scalar "" .plain => true
  | _ => false

/-! ## Characters -/

/-- The characters that end a line. -/
def isBreak (c : Char) : Bool :=
  c = '\r' || c = '\n' || c = '\u0085' || c = '\u2028' || c = '\u2029'

/-- The characters that separate words of a line. -/
def isBlank (c : Char) : Bool :=
  c = ' ' || c = '\t'

end SceneScript.Yaml
