import Mathlib.Data.List.Infix
import SceneScript.Text.Encoding

/-!
# Texts with a cap

A text that takes no more bytes than a cap is written whole, and a longer one character by character for as long as there is room. Both
ways keep the longest start of the text that fits (`Encoding.encodeCapped_longest`): the bytes of a text are those of its characters in
order, so a start of the text is written with a start of its bytes, and what does not fit does not fit with more behind it.
-/

namespace SceneScript.Encoding

variable (encoding : Encoding)

theorem encodeChars_append (front rest : List Char) :
    encoding.encodeChars (front ++ rest) = encoding.encodeChars front ++ encoding.encodeChars rest :=
  List.flatMap_append

/-- A start of a text is written with a start of its bytes. -/
theorem encodeChars_prefix {front text : List Char} (h : front <+: text) : encoding.encodeChars front <+: encoding.encodeChars text := by
  obtain ⟨rest, rfl⟩ := h
  rw [encodeChars_append]
  exact List.prefix_append ..

/-! ## The characters that fit -/

/-- The characters that fit take no more room than there is. -/
theorem length_encodeChars_fitting_le (room : Nat) (text : List Char) :
    (encoding.encodeChars (encoding.fitting room text)).length ≤ room := by
  induction text generalizing room with
  | nil => exact Nat.zero_le room
  | cons c rest ih =>
    unfold fitting
    dsimp only
    split
    next hfits =>
      have hrest := ih (room - (encoding.encodeChar c).length)
      rw [encodeChars] at hrest ⊢
      rw [List.flatMap_cons, List.length_append]
      omega
    next => exact Nat.zero_le room

/-- What is kept of a text that is too long is its start. -/
theorem fitting_prefix (room : Nat) (text : List Char) : encoding.fitting room text <+: text := by
  induction text generalizing room with
  | nil => exact List.prefix_rfl
  | cons c rest ih =>
    unfold fitting
    dsimp only
    split
    next => exact List.cons_prefix_cons.2 ⟨rfl, ih _⟩
    next => exact List.nil_prefix

/-- Every start of a text that fits belongs to what is kept. -/
theorem prefix_fitting {front text : List Char} {room : Nat} (h : front <+: text)
    (hfits : (encoding.encodeChars front).length ≤ room) : front <+: encoding.fitting room text := by
  induction text generalizing front room with
  | nil =>
    rw [List.prefix_nil.1 h]
    exact List.nil_prefix
  | cons c rest ih =>
    cases front with
    | nil => exact List.nil_prefix
    | cons first front =>
      obtain ⟨rfl, hfront⟩ := List.cons_prefix_cons.1 h
      rw [encodeChars, List.flatMap_cons, List.length_append] at hfits
      unfold fitting
      dsimp only
      rw [if_pos (by omega)]
      exact List.cons_prefix_cons.2 ⟨rfl, ih hfront (by rw [encodeChars]; omega)⟩

/-- A text that fits is kept whole. -/
theorem fitting_of_length_le {text : List Char} {room : Nat} (h : (encoding.encodeChars text).length ≤ room) :
    encoding.fitting room text = text :=
  (encoding.fitting_prefix room text).eq_of_length_le (encoding.prefix_fitting List.prefix_rfl h).length_le

/-! ## Writing with a cap -/

theorem fullLength_encodeCapped (text : String) (cap : Nat) :
    (encoding.encodeCapped text cap).fullLength = (encoding.encode text).length := by
  unfold encodeCapped
  dsimp only
  split <;> rfl

/-- Whether a text is written whole or character by character, its bytes are those of the characters that fit. -/
theorem bytes_encodeCapped (text : String) (cap : Nat) :
    (encoding.encodeCapped text cap).bytes = encoding.encodeChars (encoding.fitting cap text.toList) := by
  unfold encodeCapped
  dsimp only
  split
  next hfits =>
    rw [encoding.fitting_of_length_le hfits]
    rfl
  next => rfl

theorem length_bytes_encodeCapped_le (text : String) (cap : Nat) : (encoding.encodeCapped text cap).bytes.length ≤ cap := by
  rw [bytes_encodeCapped]
  exact encoding.length_encodeChars_fitting_le cap text.toList

/-- A text that takes no more bytes than the cap is written whole. -/
theorem bytes_encodeCapped_of_length_le {text : String} {cap : Nat} (h : (encoding.encode text).length ≤ cap) :
    (encoding.encodeCapped text cap).bytes = encoding.encode text := by
  rw [bytes_encodeCapped, encoding.fitting_of_length_le h]
  rfl

theorem truncated_encodeCapped_iff (text : String) (cap : Nat) :
    (encoding.encodeCapped text cap).truncated = true ↔ cap < (encoding.encode text).length := by
  rw [Capped.truncated, decide_eq_true_eq, fullLength_encodeCapped]
  constructor
  · intro hshort
    by_contra hfits
    rw [encoding.bytes_encodeCapped_of_length_le (Nat.le_of_not_lt hfits)] at hshort
    exact absurd hshort (Nat.lt_irrefl _)
  · exact Nat.lt_of_le_of_lt (encoding.length_bytes_encodeCapped_le text cap)

/-- The bytes of a text with a cap are those of a start of the text. They are a start of the bytes of the whole text, there is room for
them, and for no more characters of it. Their full length is that of the whole text, and something is left out exactly if this is more
than the cap. -/
theorem encodeCapped_longest (text : String) (cap : Nat) :
    ∃ kept, kept <+: text.toList ∧ (encoding.encodeCapped text cap).bytes = encoding.encodeChars kept ∧
      (encoding.encodeCapped text cap).bytes.length ≤ cap ∧ (encoding.encodeCapped text cap).bytes <+: encoding.encode text ∧
      (∀ longer, longer <+: text.toList → kept.length < longer.length → cap < (encoding.encodeChars longer).length) ∧
      (encoding.encodeCapped text cap).fullLength = (encoding.encode text).length ∧
      ((encoding.encodeCapped text cap).truncated = true ↔ cap < (encoding.encodeCapped text cap).fullLength) := by
  have hkept := encoding.fitting_prefix cap text.toList
  refine ⟨encoding.fitting cap text.toList, hkept, encoding.bytes_encodeCapped text cap,
    encoding.length_bytes_encodeCapped_le text cap, ?_, ?_, encoding.fullLength_encodeCapped text cap, ?_⟩
  · rw [bytes_encodeCapped]
    exact encoding.encodeChars_prefix hkept
  · intro longer hlonger hmore
    by_contra hfits
    exact absurd (encoding.prefix_fitting hlonger (Nat.le_of_not_lt hfits)).length_le (Nat.not_le_of_lt hmore)
  · rw [truncated_encodeCapped_iff, fullLength_encodeCapped]

/-- No character is split. -/
example : utf8.encodeCapped "aé" 2 = ⟨[0x61], 3⟩ := by decide

end SceneScript.Encoding
