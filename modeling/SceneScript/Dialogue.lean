import SceneScript.ShortCode
import SceneScript.Speaker
import SceneScript.SymbolTable
import SceneScript.Text.LineBreak
import SceneScript.VoiceId

/-!
# Dialogue

Spoken lines are symbols like any others. A line is known by the id of its voice file, which is the symbol after it; between the
two there may be other voice ids, and a short code.
-/

namespace SceneScript

/-- A spoken line. -/
structure DialogueLine where
  /-- The text with real line breaks. -/
  text : String
  speaker : Speaker
  /-- The position of the stored text. -/
  offset : Nat
  symbolIndex : Nat
  /-- The voice id that marks the symbol as a line. -/
  voice : String
  deriving DecidableEq, Repr

namespace Dialogue

/-- The symbol that a voice id belongs to, out of those before it, the nearest one first: the nearest that is no voice id. Where
this is a short code, the line is the symbol before it, unless that is a short code as well; a short code directly after a voice
id belongs to the line of that id. -/
def spoken? (before : List (Symbol × Nat)) : Option (Symbol × Nat) :=
  match before.dropWhile fun (symbol, _) => isVoiceId symbol.text with
  | [] => none
  | [nearest] => some nearest
  | nearest :: previous :: _ =>
    if isShortCode nearest.1.text then
      if isVoiceId previous.1.text then none
      else if isShortCode previous.1.text then some nearest
      else some previous
    else some nearest

/-- The line that a symbol marks, if it is a voice id and there is a symbol for it to belong to. -/
def lineOf? (before : List (Symbol × Nat)) (voice : Symbol) : Option DialogueLine := do
  let id ← VoiceId.parse? voice.text
  let (symbol, index) ← spoken? before
  some ⟨LineBreak.unescape symbol.text, .ofCode id.character, symbol.offset, index, voice.text⟩

/-- The lines that symbols mark, in the order of the voice ids. The symbols before them are given with the nearest first. -/
def marked (before : List (Symbol × Nat)) : List (Symbol × Nat) → List DialogueLine
  | [] => []
  | voice :: rest => (lineOf? before voice.1).toList ++ marked (voice :: before) rest

/-- The lines without those whose symbol is among `taken` or belongs to an earlier line. -/
def keepFirst (taken : List Nat) : List DialogueLine → List DialogueLine
  | [] => []
  | line :: rest =>
    if line.symbolIndex ∈ taken then keepFirst taken rest else line :: keepFirst (line.symbolIndex :: taken) rest

/-- The lines among the symbols of a table, in the order of their positions. -/
def extract (symbols : SymbolTable) : List DialogueLine :=
  (keepFirst [] (marked [] symbols.symbols.zipIdx)).mergeSort fun a b => a.offset ≤ b.offset

end Dialogue

end SceneScript
