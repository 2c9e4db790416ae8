import SceneScript.Text.Gb18030
import SceneScript.Text.ShiftJis
import SceneScript.Text.Utf16
import SceneScript.Text.Utf8

/-!
# Character encodings of scripts

Scripts hold text in one of three encodings. Reading never fails; writing gives every character that the encoding lacks as a
decimal character reference. Each character is written on its own, so the bytes of a text are those of its characters in order.
-/

namespace SceneScript

/-- The encodings a script may use. GB 18030 goes by the name of GBK, which it contains. -/
inductive Encoding where
  | shiftJis
  | gbk
  | utf8
  deriving DecidableEq, Repr

namespace Encoding

/-- The name of the encoding in a project description. -/
def name : Encoding → String
  | .shiftJis => "ShiftJis"
  | .gbk => "Gbk"
  | .utf8 => "Utf8"

/-- The name of the encoding in the encoding standard. -/
def standardName : Encoding → String
  | .shiftJis => "Shift_JIS"
  | .gbk => "gb18030"
  | .utf8 => "UTF-8"

/-- All encodings. -/
def all : List Encoding := [.shiftJis, .gbk, .utf8]

/-- The encoding with a given name in a project description. -/
def ofName? (text : String) : Option Encoding :=
  all.find? fun encoding => encoding.name = text

/-- The encoding that a user means, in any case of the letters. -/
def parse? (text : String) : Option Encoding :=
  match String.ofList (text.toList.map Char.toLower) with
  | "sjis" | "shift_jis" | "shift-jis" => some .shiftJis
  | "gbk" => some .gbk
  | "utf8" | "utf-8" => some .utf8
  | _ => none

/-- The message for a name that no encoding has. -/
def unknownMessage (text : String) : String :=
  s!"unknown NLS: {text}"

/-- The most bytes that one character takes. -/
def maxCharLength : Encoding → Nat
  | .shiftJis => 2
  | .gbk | .utf8 => 4

/-! ## Reading -/

/-- The reader for bytes without a byte order mark. -/
def decoder : Encoding → ByteDecoder
  | .shiftJis => ShiftJis.decoder
  | .gbk => Gb18030.decoder
  | .utf8 => Utf8.decoder

/-- The reader that a byte order mark calls for, and the bytes after the mark. -/
def marked? : List UInt8 → Option (ByteDecoder × List UInt8)
  | 0xEF :: 0xBB :: 0xBF :: rest => some (Utf8.decoder, rest)
  | 0xFE :: 0xFF :: rest => some (Utf16.decoder .bigEndian, rest)
  | 0xFF :: 0xFE :: rest => some (Utf16.decoder .littleEndian, rest)
  | _ => none

/-- The characters of `bytes`. In the two double-byte encodings a byte order mark at the start decides and is dropped; in UTF-8 it
is a character like any other. -/
def decodeChars (encoding : Encoding) (bytes : List UInt8) : List Char :=
  match encoding, marked? bytes with
  | .utf8, _ => Utf8.decoder.decode bytes
  | _, some (decoder, rest) => decoder.decode rest
  | encoding, none => encoding.decoder.decode bytes

/-- The text of `bytes`. -/
def decode (encoding : Encoding) (bytes : List UInt8) : String :=
  String.ofList (encoding.decodeChars bytes)

/-- The text of `bytes` up to the first zero byte. -/
def decodeTerminated (encoding : Encoding) (bytes : List UInt8) : String :=
  encoding.decode (bytes.takeWhile (· ≠ 0))

/-! ## Writing -/

/-- The bytes of a character, if the encoding has it. -/
def encodeChar? : Encoding → Char → Option (List UInt8)
  | .shiftJis, c => ShiftJis.encodeChar? c
  | .gbk, c => Gb18030.encodeChar? c
  | .utf8, c => some (Utf8.encodeChar c)

/-- A decimal character reference, in ASCII. -/
def reference (c : Char) : List UInt8 :=
  s!"&#{c.toNat};".toList.map fun d => UInt8.ofNat d.toNat

/-- The bytes of a character, or its reference. -/
def encodeChar (encoding : Encoding) (c : Char) : List UInt8 :=
  (encoding.encodeChar? c).getD (reference c)

/-- The bytes of a list of characters. -/
def encodeChars (encoding : Encoding) (text : List Char) : List UInt8 :=
  text.flatMap encoding.encodeChar

/-- The bytes of a text. -/
def encode (encoding : Encoding) (text : String) : List UInt8 :=
  encoding.encodeChars text.toList

/-- The characters from the start of `text` whose bytes fit into `room`: it stops at the first one that does not. -/
def fitting (encoding : Encoding) : Nat → List Char → List Char
  | _, [] => []
  | room, c :: rest =>
    let size := (encoding.encodeChar c).length
    if size ≤ room then c :: encoding.fitting (room - size) rest else []

/-- The bytes kept of a text that may have been too long, and how many bytes the whole text takes. -/
structure Capped where
  bytes : List UInt8
  fullLength : Nat
  deriving DecidableEq, Repr

/-- Was something left out? -/
def Capped.truncated (capped : Capped) : Bool :=
  capped.bytes.length < capped.fullLength

/-- The bytes of a text, at most `cap` of them. A character that does not fit is left out whole, with all that follows. -/
def encodeCapped (encoding : Encoding) (text : String) (cap : Nat) : Capped :=
  let full := encoding.encode text
  if full.length ≤ cap then ⟨full, full.length⟩
  else ⟨encoding.encodeChars (encoding.fitting cap text.toList), full.length⟩

end Encoding

end SceneScript
