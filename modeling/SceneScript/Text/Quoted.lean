import SceneScript.Text.Hex
import SceneScript.Text.Quoted.Ranges

/-!
# Quoted texts

A message that quotes a text shows it between double quotes and on one line: the quote, the backslash and the usual control
characters get a backslash, and a character that cannot be seen on its own is given by its code point.
-/

namespace SceneScript.Quoted

/-- Is the character written by its code point? Marks that join the character before them count, the space does not. -/
def isHidden (c : Char) : Bool :=
  hiddenRanges.any fun (first, last) => first ≤ c.toNat && c.toNat ≤ last

/-- One character of a quoted text. -/
def quoteChar (c : Char) : List Char :=
  if c = '\x00' then ['\\', '0']
  else if c = '\t' then ['\\', 't']
  else if c = '\r' then ['\\', 'r']
  else if c = '\n' then ['\\', 'n']
  else if c = '"' then ['\\', '"']
  else if c = '\\' then ['\\', '\\']
  else if isHidden c then ['\\', 'u', '\x7b'] ++ (Hex.digits c.toNat).map Char.toLower ++ ['\x7d']
  else [c]

/-- A text between double quotes. -/
def quote (text : String) : String :=
  String.ofList ('"' :: text.toList.flatMap quoteChar ++ ['"'])

end SceneScript.Quoted
