import SceneScript.Text.WordCharacter

/-!
# Short codes

A short code is a text like `a1b22`: one or more groups of a word character and one or two digits. A digit is a word character
too, so a run of digits can be grouped in several ways; the reader follows all of them at once.
-/

namespace SceneScript

namespace ShortCode

/-- Where the characters read so far can leave off: between two groups, after the first character of a group, or after its first
digit, where the group may be complete or not. -/
structure Progress where
  between : Bool
  opened : Bool
  oneDigit : Bool
  deriving DecidableEq, Repr

/-- Before the first group. -/
def Progress.start : Progress := ⟨true, false, false⟩

/-- Reads a character. -/
def Progress.step (progress : Progress) (c : Char) : Progress where
  between := progress.oneDigit && isDecimalDigit c
  opened := (progress.between || progress.oneDigit) && isWordCharacter c
  oneDigit := progress.opened && isDecimalDigit c

/-- Can all groups be complete? -/
def Progress.complete (progress : Progress) : Bool :=
  progress.between || progress.oneDigit

/-- Are the characters a short code? -/
def matchesChars (text : List Char) : Bool :=
  !text.isEmpty && (text.foldl Progress.step Progress.start).complete

end ShortCode

/-- Is a text a short code? -/
def isShortCode (text : String) : Bool :=
  ShortCode.matchesChars text.toList

end SceneScript
