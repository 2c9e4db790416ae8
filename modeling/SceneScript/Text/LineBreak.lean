/-!
# Line breaks in stored texts

A stored text has no line breaks: each is written as a backslash and an `n`. A break that an editor writes as carriage return and
line feed counts once. A backslash is not written in any special way, so a text that holds a backslash before an `n` reads back
with a break there.
-/

namespace SceneScript.LineBreak

/-- Turns each carriage return and line feed into a line feed. -/
def normalizeChars : List Char → List Char
  | '\r' :: '\n' :: rest => '\n' :: normalizeChars rest
  | c :: rest => c :: normalizeChars rest
  | [] => []

/-- Writes each line feed as a backslash and an `n`. -/
def encodeChars : List Char → List Char
  | [] => []
  | c :: rest => if c = '\n' then '\\' :: 'n' :: encodeChars rest else c :: encodeChars rest

/-- Reads each backslash and `n` as a line feed. -/
def unescapeChars : List Char → List Char
  | '\\' :: 'n' :: rest => '\n' :: unescapeChars rest
  | c :: rest => c :: unescapeChars rest
  | [] => []

/-- The stored form of an edited text. -/
def escape (text : String) : String :=
  String.ofList (encodeChars (normalizeChars text.toList))

/-- The edited form of a stored text. -/
def unescape (text : String) : String :=
  String.ofList (unescapeChars text.toList)

/-- A text with every carriage return and line feed turned into a line feed. -/
def normalize (text : String) : String :=
  String.ofList (normalizeChars text.toList)

end SceneScript.LineBreak
