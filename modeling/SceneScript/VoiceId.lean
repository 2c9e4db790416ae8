import SceneScript.Text.WordCharacter

/-!
# Voice ids

The id of a voice file names a series, the character who speaks and a number: `V01_KYN0012`.
-/

namespace SceneScript

/-- The parts of a voice id. -/
structure VoiceId where
  series : String
  /-- The code of the speaker. -/
  character : String
  number : String
  deriving DecidableEq, Repr

namespace VoiceId

/-- The letters and digits of a character code after the first. -/
def isCodeCharacter (c : Char) : Bool :=
  c.isUpper || c.isDigit

/-- The parts of a voice id: ASCII letters and digits, an underscore, a character code of three capitals and digits that starts
with a capital, and two to four decimal digits of any script. -/
def parse? (text : String) : Option VoiceId :=
  let series := text.toList.takeWhile Char.isAlphanum
  match text.toList.dropWhile Char.isAlphanum with
  | '_' :: a :: b :: c :: number =>
    if series ≠ [] ∧ a.isUpper ∧ isCodeCharacter b ∧ isCodeCharacter c ∧ 2 ≤ number.length ∧ number.length ≤ 4 ∧
        number.all isDecimalDigit then
      some ⟨String.ofList series, String.ofList [a, b, c], String.ofList number⟩
    else none
  | _ => none

end VoiceId

/-- Is a text a voice id? -/
def isVoiceId (text : String) : Bool :=
  (VoiceId.parse? text).isSome

end SceneScript
