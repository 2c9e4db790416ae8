import SceneScript.StoredText

/-!
# What bytes hold

`buf.Holds pos part` says that `part` stands at `pos` in `buf`. Every read succeeds exactly where the bytes that its result is
written as stand, so reading back what was written and writing back what was read are the two directions of one equivalence.
Positions add up (`holds_append`, `Holds.trans`) and move with the bytes in front (`holds_append_right`).
-/

namespace SceneScript

/-! ## Computations that give a result -/

@[simp] theorem bind_eq_ok_iff {ε α β : Type} {x : Except ε α} {f : α → Except ε β} {b : β} :
    (x >>= f) = .ok b ↔ ∃ a, x = .ok a ∧ f a = .ok b := by
  cases x with
  | error e => simp [bind, Except.bind]
  | ok a => simp [bind, Except.bind]

@[simp] theorem pure_eq_ok_iff {ε α : Type} {a b : α} : (pure a : Except ε α) = .ok b ↔ a = b := by
  simp [pure, Except.pure]

@[simp] theorem map_eq_ok_iff {ε α β : Type} {x : Except ε α} {f : α → β} {b : β} :
    f <$> x = .ok b ↔ ∃ a, x = .ok a ∧ f a = b := by
  cases x with
  | error e => simp [Functor.map, Except.map]
  | ok a => simp [Functor.map, Except.map]

@[simp] theorem throw_eq_ok_iff {ε α : Type} {e : ε} {a : α} : (throw e : Except ε α) = .ok a ↔ False :=
  ⟨nofun, nofun⟩

/-- Whether two computations give the same can be decided. -/
instance decidableEqExcept {ε α : Type} [DecidableEq ε] [DecidableEq α] : DecidableEq (Except ε α)
  | .ok a, .ok b => decidable_of_iff (a = b) (by simp)
  | .error a, .error b => decidable_of_iff (a = b) (by simp)
  | .ok _, .error _ => isFalse nofun
  | .error _, .ok _ => isFalse nofun

namespace Bytes

/-- The bytes `part` stand at `pos`. -/
def Holds (buf : Bytes) (pos : Nat) (part : Bytes) : Prop :=
  pos + part.size ≤ buf.size ∧ buf.extract pos (pos + part.size) = part

theorem Holds.le_size {buf part : Bytes} {pos : Nat} (h : buf.Holds pos part) : pos + part.size ≤ buf.size :=
  h.1

theorem Holds.cast {buf part : Bytes} {pos pos' : Nat} (h : buf.Holds pos part) (hpos : pos = pos') : buf.Holds pos' part :=
  hpos ▸ h

theorem holds_self (buf : Bytes) : buf.Holds 0 buf :=
  ⟨by omega, by simp⟩

/-- Two parts of the same size at the same position are equal. -/
theorem Holds.eq {buf a b : Bytes} {pos : Nat} (ha : buf.Holds pos a) (hb : buf.Holds pos b) (hsize : a.size = b.size) :
    a = b := by
  rw [← ha.2, ← hb.2, hsize]

/-- The bytes of a part are those of the file where it stands. -/
theorem Holds.getElem?_part {buf part : Bytes} {start pos : Nat} (h : buf.Holds start part) (hstart : start ≤ pos)
    (hpos : pos < start + part.size) : buf[pos]? = part[pos - start]? := by
  have hle := h.le_size
  have hcut := congrArg (·[pos - start]?) h.2
  simp only [Array.getElem?_extract] at hcut
  rw [if_pos (by omega), Nat.add_sub_cancel' hstart] at hcut
  exact hcut

/-- Where the same part stands in two files, their bytes are the same. -/
theorem Holds.getElem?_eq {buf other part : Bytes} {start pos : Nat} (h : buf.Holds start part) (h' : other.Holds start part)
    (hstart : start ≤ pos) (hpos : pos < start + part.size) : buf[pos]? = other[pos]? := by
  rw [h.getElem?_part hstart hpos, h'.getElem?_part hstart hpos]

/-- Two parts stand one after the other. -/
theorem holds_append {buf a b : Bytes} {pos : Nat} :
    buf.Holds pos (a ++ b) ↔ buf.Holds pos a ∧ buf.Holds (pos + a.size) b := by
  unfold Holds
  rw [Array.size_append]
  constructor
  · rintro ⟨hle, heq⟩
    refine ⟨⟨by omega, ?_⟩, by omega, ?_⟩
    · have h := congrArg (fun c : Bytes => c.extract 0 a.size) heq
      simpa [Array.extract_extract, Nat.min_eq_left, Array.extract_append_left] using h
    · have h := congrArg (fun c : Bytes => c.extract a.size (a.size + b.size)) heq
      rw [Array.extract_extract, Array.extract_append_right, Array.extract_eq_self_of_le (Nat.le_refl _),
        Nat.min_eq_left (by omega)] at h
      rwa [Nat.add_assoc]
  · rintro ⟨⟨ha, hae⟩, hb, hbe⟩
    refine ⟨by omega, ?_⟩
    calc buf.extract pos (pos + (a.size + b.size))
        = buf.extract pos (pos + a.size) ++ buf.extract (pos + a.size) (pos + a.size + b.size) := by
          rw [Array.extract_append_extract]
          congr 1 <;> omega
      _ = a ++ b := by rw [hae, hbe]

/-- What stands in a part stands in the whole. -/
theorem Holds.trans {buf part inner : Bytes} {pos off : Nat} (h : buf.Holds pos part) (hi : part.Holds off inner) :
    buf.Holds (pos + off) inner := by
  obtain ⟨hle, heq⟩ := h
  obtain ⟨hle', heq'⟩ := hi
  refine ⟨by omega, ?_⟩
  rw [← heq, Array.extract_extract] at heq'
  rw [Nat.min_eq_left (by omega)] at heq'
  rwa [Nat.add_assoc]

/-- What stands in a file where a part stands, and fits into it, stands in the part. -/
theorem Holds.inner {buf part inner : Bytes} {pos off : Nat} (h : buf.Holds pos part) (hinner : buf.Holds (pos + off) inner)
    (hfit : off + inner.size ≤ part.size) : part.Holds off inner := by
  refine ⟨hfit, ?_⟩
  rw [← h.2, Array.extract_extract, Nat.min_eq_left (by omega), ← Nat.add_assoc]
  exact hinner.2

/-- Bytes in front move everything behind them. -/
theorem holds_append_right {front rest part : Bytes} {pos : Nat} :
    (front ++ rest).Holds (front.size + pos) part ↔ rest.Holds pos part := by
  unfold Holds
  rw [Array.size_append, Nat.add_assoc, Array.extract_append]
  have hfront : front.extract (front.size + pos) (front.size + (pos + part.size)) = #[] :=
    Array.extract_eq_empty_of_le (by omega)
  rw [hfront, Array.empty_append, Nat.add_sub_cancel_left, Nat.add_sub_cancel_left]
  constructor <;> rintro ⟨h, heq⟩ <;> exact ⟨by omega, heq⟩

/-- Bytes behind move nothing. -/
theorem Holds.append_left {front part : Bytes} {pos : Nat} (rest : Bytes) (h : front.Holds pos part) :
    (front ++ rest).Holds pos part := by
  have hwhole : (front ++ rest).Holds 0 front := (holds_append.1 (holds_self (front ++ rest))).1
  simpa using hwhole.trans h

/-- A part stands between what is in front of it and what is behind. -/
theorem holds_middle (front part rest : Bytes) : (front ++ part ++ rest).Holds front.size part := by
  rw [Array.append_assoc]
  exact holds_append_right.2 ((holds_self part).append_left rest)

/-- What stands at the start leaves a rest. -/
theorem Holds.eq_append {buf part : Bytes} (h : buf.Holds 0 part) : buf = part ++ buf.extract part.size buf.size := by
  have hcut : buf.extract 0 part.size = part := by simpa using h.2
  have hle : part.size ≤ buf.size := by simpa using h.1
  have hjoin : buf.extract 0 part.size ++ buf.extract part.size buf.size = buf := by
    rw [Array.extract_append_extract, Nat.min_eq_left (Nat.zero_le _), Nat.max_eq_right hle]
    exact Array.extract_size
  rw [hcut] at hjoin
  exact hjoin.symm

/-- Nothing stands at every position inside. -/
theorem holds_empty {buf : Bytes} {pos : Nat} : buf.Holds pos #[] ↔ pos ≤ buf.size :=
  ⟨fun h => h.1, fun h => ⟨h, Array.extract_eq_empty_of_le (Nat.min_le_left ..)⟩⟩

/-! ## Several parts -/

/-- Several parts one after another. -/
def concat (parts : List Bytes) : Bytes :=
  parts.foldr (· ++ ·) #[]

@[simp] theorem concat_nil : concat [] = #[] := rfl

@[simp] theorem concat_cons (part : Bytes) (rest : List Bytes) : concat (part :: rest) = part ++ concat rest := rfl

@[simp] theorem concat_append (a b : List Bytes) : concat (a ++ b) = concat a ++ concat b := by
  induction a with
  | nil => simp
  | cons part rest ih => simp [ih, Array.append_assoc]

/-- Every part fits into all of them. -/
theorem size_le_concat {part : Bytes} {parts : List Bytes} (h : part ∈ parts) : part.size ≤ (concat parts).size := by
  induction parts with
  | nil => simp at h
  | cons first rest ih =>
    rw [concat_cons, Array.size_append]
    rcases List.mem_cons.1 h with rfl | h
    · omega
    · exact Nat.le_trans (ih h) (Nat.le_add_left ..)

/-- A fold that appends the bytes of each element gives them one after another. -/
theorem foldl_append_eq_concat {α : Type} (write : α → Bytes) (list : List α) (out : Bytes) :
    list.foldl (fun out a => out ++ write a) out = out ++ concat (list.map write) := by
  induction list generalizing out with
  | nil => simp
  | cons a rest ih => simp [ih, Array.append_assoc]

/-! ## Reads -/

theorem slice_eq_ok_iff {buf part : Bytes} {pos count : Nat} :
    buf.slice pos count = .ok part ↔ part.size = count ∧ buf.Holds pos part := by
  unfold slice ensure Holds
  split
  next h =>
    simp only [bind_eq_ok_iff, pure_eq_ok_iff]
    constructor
    · rintro ⟨_, _, rfl⟩
      have hsize : (buf.extract pos (pos + count)).size = count := by simp; omega
      exact ⟨hsize, by rw [hsize]; exact h, by rw [hsize]⟩
    · rintro ⟨rfl, _, heq⟩
      exact ⟨(), trivial, heq⟩
  next h =>
    simp only [bind_eq_ok_iff]
    constructor
    · rintro ⟨_, h', _⟩
      nomatch h'
    · rintro ⟨rfl, hle, _⟩
      exact absurd hle h

theorem ensure_eq_ok_iff {buf : Bytes} {pos count : Nat} {u : Unit} :
    buf.ensure pos count = .ok u ↔ pos + count ≤ buf.size := by
  unfold ensure
  split <;> simp_all

@[simp] theorem size_ofUInt16 (x : UInt16) : (ofUInt16 x).size = 2 := rfl

@[simp] theorem size_ofUInt32 (x : UInt32) : (ofUInt32 x).size = 4 := rfl

@[simp] theorem size_ofInt16 (x : Int16) : (ofInt16 x).size = 2 := rfl

/-- Two bytes are the word that they spell. -/
theorem ofUInt16_bigEndian {bytes : Bytes} (h : bytes.size = 2) : ofUInt16 (UInt16.ofNat (bigEndian bytes)) = bytes := by
  obtain ⟨list⟩ := bytes
  match list, h with
  | [a, b], _ =>
    have ha := a.toNat_lt
    have hb := b.toNat_lt
    have hn : bigEndian ⟨[a, b]⟩ = 256 * a.toNat + b.toNat := by simp [bigEndian]
    rw [hn]
    simp only [ofUInt16, UInt16.toNat_ofNat', Array.mk.injEq, List.cons.injEq, and_true]
    refine ⟨UInt8.toNat_inj.1 ?_, UInt8.toNat_inj.1 ?_⟩ <;> rw [UInt8.toNat_ofNat'] <;> omega

/-- A word is the number that its two bytes spell. -/
theorem bigEndian_ofUInt16 (x : UInt16) : bigEndian (ofUInt16 x) = x.toNat := by
  have hx := x.toNat_lt
  simp [bigEndian, ofUInt16]
  omega

/-- Four bytes are the word that they spell. -/
theorem ofUInt32_bigEndian {bytes : Bytes} (h : bytes.size = 4) : ofUInt32 (UInt32.ofNat (bigEndian bytes)) = bytes := by
  obtain ⟨list⟩ := bytes
  match list, h with
  | [a, b, c, d], _ =>
    have ha := a.toNat_lt
    have hb := b.toNat_lt
    have hc := c.toNat_lt
    have hd := d.toNat_lt
    have hn : bigEndian ⟨[a, b, c, d]⟩ = 256 * (256 * (256 * a.toNat + b.toNat) + c.toNat) + d.toNat := by simp [bigEndian]
    rw [hn]
    simp only [ofUInt32, UInt32.toNat_ofNat', Array.mk.injEq, List.cons.injEq, and_true]
    refine ⟨UInt8.toNat_inj.1 ?_, UInt8.toNat_inj.1 ?_, UInt8.toNat_inj.1 ?_, UInt8.toNat_inj.1 ?_⟩ <;>
      rw [UInt8.toNat_ofNat'] <;> omega

/-- A word is the number that its four bytes spell. -/
theorem bigEndian_ofUInt32 (x : UInt32) : bigEndian (ofUInt32 x) = x.toNat := by
  have hx := x.toNat_lt
  simp [bigEndian, ofUInt32]
  omega

theorem ofUInt16_inj {x y : UInt16} (h : ofUInt16 x = ofUInt16 y) : x = y := by
  rw [← UInt16.toNat_inj, ← bigEndian_ofUInt16 x, h, bigEndian_ofUInt16]

theorem ofUInt32_inj {x y : UInt32} (h : ofUInt32 x = ofUInt32 y) : x = y := by
  rw [← UInt32.toNat_inj, ← bigEndian_ofUInt32 x, h, bigEndian_ofUInt32]

theorem readUInt16_eq_ok_iff {buf : Bytes} {pos : Nat} {x : UInt16} :
    buf.readUInt16 pos = .ok x ↔ buf.Holds pos (ofUInt16 x) := by
  simp only [readUInt16, bind_eq_ok_iff, pure_eq_ok_iff, slice_eq_ok_iff]
  constructor
  · rintro ⟨part, ⟨hsize, hpart⟩, rfl⟩
    rwa [ofUInt16_bigEndian hsize]
  · intro h
    exact ⟨_, ⟨rfl, h⟩, by rw [bigEndian_ofUInt16]; simp⟩

theorem readUInt32_eq_ok_iff {buf : Bytes} {pos : Nat} {x : UInt32} :
    buf.readUInt32 pos = .ok x ↔ buf.Holds pos (ofUInt32 x) := by
  simp only [readUInt32, bind_eq_ok_iff, pure_eq_ok_iff, slice_eq_ok_iff]
  constructor
  · rintro ⟨part, ⟨hsize, hpart⟩, rfl⟩
    rwa [ofUInt32_bigEndian hsize]
  · intro h
    exact ⟨_, ⟨rfl, h⟩, by rw [bigEndian_ofUInt32]; simp⟩

theorem readInt16_eq_ok_iff {buf : Bytes} {pos : Nat} {x : Int16} :
    buf.readInt16 pos = .ok x ↔ buf.Holds pos (ofInt16 x) := by
  simp only [readInt16, bind_eq_ok_iff, pure_eq_ok_iff, readUInt16_eq_ok_iff, ofInt16]
  constructor
  · rintro ⟨word, h, rfl⟩
    simpa using h
  · intro h
    exact ⟨_, h, by simp⟩

theorem readInt32_eq_ok_iff {buf : Bytes} {pos : Nat} {x : Int32} :
    buf.readInt32 pos = .ok x ↔ buf.Holds pos (ofInt32 x) := by
  simp only [readInt32, bind_eq_ok_iff, pure_eq_ok_iff, readUInt32_eq_ok_iff, ofInt32]
  constructor
  · rintro ⟨word, h, rfl⟩
    simpa using h
  · intro h
    exact ⟨_, h, by simp⟩

end Bytes

end SceneScript
