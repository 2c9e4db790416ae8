/-!
# Decoders that read a byte at a time

A character encoding is read by a machine that keeps a small state between bytes. Each byte yields some characters, most often
none or one, and the state after it; what is unfinished when the bytes end yields characters as well. A malformed sequence yields
the replacement character, so decoding never fails.
-/

namespace SceneScript

/-- What stands for bytes that no character has. -/
def replacement : Char := Char.ofNat 0xFFFD

/-- A machine that turns bytes into characters. -/
structure ByteDecoder where
  /-- What is remembered between two bytes. -/
  State : Type
  /-- The state before the first byte. -/
  initial : State
  /-- The characters a byte yields, and the state after it. -/
  step : State → UInt8 → List Char × State
  /-- The characters that the end of the bytes yields. -/
  finish : State → List Char

namespace ByteDecoder

/-- The characters of `bytes`, read from a given state on. -/
def decodeFrom (d : ByteDecoder) : d.State → List UInt8 → List Char
  | state, [] => d.finish state
  | state, b :: rest => (d.step state b).1 ++ d.decodeFrom (d.step state b).2 rest

/-- The characters of `bytes`. -/
def decode (d : ByteDecoder) (bytes : List UInt8) : List Char :=
  d.decodeFrom d.initial bytes

@[simp] theorem decodeFrom_nil (d : ByteDecoder) (state : d.State) : d.decodeFrom state [] = d.finish state := rfl

@[simp] theorem decodeFrom_cons (d : ByteDecoder) (state : d.State) (b : UInt8) (rest : List UInt8) :
    d.decodeFrom state (b :: rest) = (d.step state b).1 ++ d.decodeFrom (d.step state b).2 rest := rfl

end ByteDecoder

end SceneScript
