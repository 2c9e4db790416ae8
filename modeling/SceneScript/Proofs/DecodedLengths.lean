import SceneScript.Text.Encoding

/-!
# How many bytes a character takes

No decoder reads bytes without end before a character comes. `ByteDecoder.Settles` says so of a machine by what a state holds back:
every byte adds one to that, and a character settles a fixed number of them. So the bytes of a text without a byte order mark are at
most as many as its characters could take (`Encoding.length_le_mul_decodeChars`), well formed or not.
-/

namespace SceneScript

/-- A decoder that gives a character for every `most` bytes, where `Held state count` says that the last `count` bytes before `state`
have given none yet. -/
structure ByteDecoder.Settles (d : ByteDecoder) (most : Nat) (Held : d.State → Nat → Prop) : Prop where
  initial : Held d.initial 0
  step : ∀ {state count}, Held state count → ∀ b,
    ∃ held, Held (d.step state b).2 held ∧ count + 1 ≤ most * (d.step state b).1.length + held
  finish : ∀ {state count}, Held state count → count ≤ most * (d.finish state).length

namespace ByteDecoder.Settles

variable {d : ByteDecoder} {most : Nat} {Held : d.State → Nat → Prop}

theorem add_length_le (h : d.Settles most Held) {state : d.State} {count : Nat} (hheld : Held state count) (bytes : List UInt8) :
    count + bytes.length ≤ most * (d.decodeFrom state bytes).length := by
  induction bytes generalizing state count with
  | nil => exact h.finish hheld
  | cons b rest ih =>
    obtain ⟨held, hnext, hstep⟩ := h.step hheld b
    have hrest := ih hnext
    rw [decodeFrom_cons, List.length_append, List.length_cons, Nat.mul_add]
    omega

theorem length_le (h : d.Settles most Held) (bytes : List UInt8) : bytes.length ≤ most * (d.decode bytes).length := by
  have hlength := h.add_length_le h.initial bytes
  rwa [Nat.zero_add] at hlength

end ByteDecoder.Settles

/-! ## Shift_JIS -/

namespace ShiftJis

/-- A lead byte is held back. -/
def held : Option UInt8 → Nat
  | none => 0
  | some _ => 1

theorem settles : decoder.Settles 2 fun state count => count = held state where
  initial := rfl
  step := by
    rintro (_ | lead) _ rfl b <;> refine ⟨_, rfl, ?_⟩
    · change held none + 1 ≤ 2 * (start b).1.length + held (start b).2
      unfold start
      repeat' split
      all_goals simp [held]
    · change held (some lead) + 1 ≤ 2 * (step (some lead) b).1.length + held (step (some lead) b).2
      unfold step
      dsimp only
      repeat' split
      all_goals simp [held]
  finish := by
    rintro (_ | lead) _ rfl
    · exact Nat.le_refl 0
    · exact Nat.le_succ 1

end ShiftJis

/-! ## GB 18030 -/

namespace Gb18030

/-- The bytes of an unfinished code are held back. -/
def State.held : State → Nat
  | .idle => 0
  | .one _ => 1
  | .two _ _ => 2
  | .three _ _ _ => 3

theorem one_le_start (b : UInt8) : 1 ≤ 4 * (start b).1.length + (start b).2.held := by
  unfold start
  repeat' split
  all_goals simp [State.held]

theorem two_le_second (a b : UInt8) : 2 ≤ 4 * (second a b).1.length + (second a b).2.held := by
  unfold second
  repeat' split
  all_goals simp [State.held]

theorem settles : decoder.Settles 4 fun state count => count = state.held where
  initial := rfl
  step := by
    rintro (_ | a | ⟨a, b⟩ | ⟨a, b, c⟩) _ rfl d <;> refine ⟨_, rfl, ?_⟩
    · exact one_le_start d
    · exact two_le_second a d
    · change 3 ≤ 4 * (step (.two a b) d).1.length + (step (.two a b) d).2.held
      unfold step
      dsimp only
      split
      · exact Nat.le_refl 3
      · rw [List.length_append, List.length_cons, List.length_singleton]
        omega
    · change 4 ≤ 4 * (step (.three a b c) d).1.length + (step (.three a b c) d).2.held
      unfold step
      dsimp only
      split
      · exact Nat.le_refl 4
      · rw [List.length_append, List.length_cons, List.length_singleton]
        omega
  finish := by
    rintro (_ | a | ⟨a, b⟩ | ⟨a, b, c⟩) _ rfl <;> simp [State.held, decoder]

end Gb18030

/-! ## UTF-8 -/

namespace Utf8

/-- The bytes of an unfinished sequence are held back. With those that are missing they are at most four. -/
def Held : Option Pending → Nat → Prop
  | none, count => count = 0
  | some pending, count => 1 ≤ pending.missing ∧ count + pending.missing ≤ 4

theorem Held.le_three {state : Option Pending} {count : Nat} (h : Held state count) : count ≤ 3 := by
  cases state with
  | none => simp only [Held] at h; omega
  | some pending => simp only [Held] at h; omega

theorem held_of_pendingOf? {b : UInt8} {pending : Pending} (h : pendingOf? b = some pending) : Held (some pending) 1 := by
  unfold pendingOf? at h
  repeat' split at h
  -- the last case is that of a byte that announces nothing
  all_goals first | (rw [← Option.some.inj h]; simp [Held]) | cases h

theorem exists_held_start (b : UInt8) : ∃ held, Held (start b).2 held ∧ 1 ≤ 4 * (start b).1.length + held := by
  unfold start
  split
  · exact ⟨0, rfl, by simp⟩
  · split
    next pending hpending => exact ⟨1, held_of_pendingOf? hpending, by simp⟩
    next => exact ⟨0, rfl, by simp⟩

theorem settles : decoder.Settles 4 Held where
  initial := rfl
  step := by
    rintro (_ | pending) count hheld b
    · obtain rfl : count = 0 := hheld
      exact exists_held_start b
    · obtain ⟨hmissing, hcount⟩ := hheld
      change ∃ held, Held (step (some pending) b).2 held ∧ count + 1 ≤ 4 * (step (some pending) b).1.length + held
      unfold step
      dsimp only
      split
      · split
        next hlast => exact ⟨0, rfl, by simp; omega⟩
        next hmore => exact ⟨count + 1, ⟨by dsimp only; omega, by dsimp only; omega⟩, by simp⟩
      · obtain ⟨held, hheld, -⟩ := exists_held_start b
        exact ⟨held, hheld, by rw [List.length_cons]; omega⟩
  finish := by
    rintro (_ | pending) count hheld
    · exact Nat.le_of_eq hheld
    · have hle := Held.le_three hheld
      exact Nat.le_succ_of_le hle

end Utf8

/-! ## Encodings -/

namespace Encoding

theorem length_le_mul_decode (encoding : Encoding) (bytes : List UInt8) :
    bytes.length ≤ encoding.maxCharLength * (encoding.decoder.decode bytes).length := by
  cases encoding with
  | shiftJis => exact ShiftJis.settles.length_le bytes
  | gbk => exact Gb18030.settles.length_le bytes
  | utf8 => exact Utf8.settles.length_le bytes

/-- A byte order mark that decides how a text is read. In UTF-8 none does. -/
def Marked (encoding : Encoding) (bytes : List UInt8) : Prop :=
  encoding ≠ .utf8 ∧ (marked? bytes).isSome

instance (encoding : Encoding) (bytes : List UInt8) : Decidable (encoding.Marked bytes) :=
  inferInstanceAs (Decidable (_ ∧ _))

theorem decodeChars_of_not_marked {encoding : Encoding} {bytes : List UInt8} (h : ¬encoding.Marked bytes) :
    encoding.decodeChars bytes = encoding.decoder.decode bytes := by
  cases hmarked : marked? bytes with
  | none => cases encoding <;> simp only [decodeChars, hmarked, decoder]
  | some => cases encoding <;> first | rfl | exact absurd ⟨by decide, by rw [hmarked]; rfl⟩ h

/-- Bytes that no byte order mark decides about are at most as many as their characters could take. -/
theorem length_le_mul_decodeChars {encoding : Encoding} {bytes : List UInt8} (h : ¬encoding.Marked bytes) :
    bytes.length ≤ encoding.maxCharLength * (encoding.decodeChars bytes).length := by
  rw [decodeChars_of_not_marked h]
  exact length_le_mul_decode encoding bytes

end Encoding

end SceneScript
