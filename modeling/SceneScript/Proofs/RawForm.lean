import Mathlib.Algebra.Group.Nat.Defs
import Mathlib.Data.List.Basic
import SceneScript.Rendering
import SceneScript.Proofs.Contents

/-!
# What the raw form tells

The raw form of an instruction gives its flag, if that is set, and its parameters byte by byte. Parameters are joined by a comma and a
space, and the bytes of a payload by a space. No comma stands in a parameter and no space in a byte, so what has been joined can be told
apart again (`intercalate_inj`). Nothing is lost: two instructions of the same name have the same raw form exactly if they have the same
flag, or none, and the same parameters (`Invocation.renderRaw_eq_iff`).
-/

namespace SceneScript

/-! ## Joined parts -/

section

variable {α : Type} {a : α} {separator : List α}

theorem intercalate_cons_eq (part : List α) (rest : List (List α)) :
    separator.intercalate (part :: rest) = part ++ rest.flatMap (separator ++ ·) := by
  induction rest generalizing part with
  | nil => simp
  | cons next rest ih => rw [List.intercalate_cons_cons, ih, List.flatMap_cons, List.append_assoc, List.append_assoc]

/-- A list is cut at the first place of an element in one way. -/
theorem append_cons_inj {front front' back back' : List α} (hfront : a ∉ front) (hfront' : a ∉ front')
    (h : front ++ a :: back = front' ++ a :: back') : front = front' ∧ back = back' := by
  induction front generalizing front' with
  | nil =>
    cases front' with
    | nil => exact ⟨rfl, (List.cons.inj h).2⟩
    | cons c front' => exact absurd ((List.cons.inj h).1 ▸ List.mem_cons_self ..) hfront'
  | cons b front ih =>
    cases front' with
    | nil => exact absurd ((List.cons.inj h).1 ▸ List.mem_cons_self ..) hfront
    | cons c front' =>
      obtain ⟨rfl, htail⟩ := List.cons.inj h
      obtain ⟨rfl, rfl⟩ := ih (List.not_mem_of_not_mem_cons hfront) (List.not_mem_of_not_mem_cons hfront') htail
      exact ⟨rfl, rfl⟩

/-- Where a part ends, either all ends or the separator starts. -/
theorem append_flatMap_inj {part other : List α} {rest others : List (List α)} (hpart : a ∉ part) (hrest : ∀ next ∈ rest, a ∉ next)
    (hother : a ∉ other) (hothers : ∀ next ∈ others, a ∉ next)
    (h : part ++ rest.flatMap ((a :: separator) ++ ·) = other ++ others.flatMap ((a :: separator) ++ ·)) :
    part = other ∧ rest = others := by
  induction rest generalizing part other others with
  | nil =>
    cases others with
    | nil => exact ⟨by simpa using h, rfl⟩
    | cons => exact absurd (by simpa using congrArg (a ∈ ·) h) hpart
  | cons next rest ih =>
    cases others with
    | nil => exact absurd (by simpa using congrArg (a ∈ ·) h.symm) hother
    | cons next' others =>
      obtain ⟨hnext, hrest⟩ := List.forall_mem_cons.1 hrest
      obtain ⟨hnext', hothers⟩ := List.forall_mem_cons.1 hothers
      simp only [List.flatMap_cons, List.cons_append, List.append_assoc] at h
      obtain ⟨rfl, htail⟩ := append_cons_inj hpart hother h
      obtain ⟨rfl, rfl⟩ := ih hnext hrest hnext' hothers (List.append_cancel_left htail)
      exact ⟨rfl, rfl⟩

/-- Parts that are joined by a separator can be told apart if none of them is empty or has the character that the separator starts with. -/
theorem intercalate_inj {parts others : List (List α)} (hparts : ∀ part ∈ parts, part ≠ [] ∧ a ∉ part)
    (hothers : ∀ part ∈ others, part ≠ [] ∧ a ∉ part)
    (h : (a :: separator).intercalate parts = (a :: separator).intercalate others) : parts = others := by
  cases parts with
  | nil =>
    cases others with
    | nil => rfl
    | cons other others =>
      rw [List.intercalate_nil, intercalate_cons_eq] at h
      exact absurd (List.append_eq_nil_iff.1 h.symm).1 (hothers other (List.mem_cons_self ..)).1
  | cons part rest =>
    cases others with
    | nil =>
      rw [List.intercalate_nil, intercalate_cons_eq] at h
      exact absurd (List.append_eq_nil_iff.1 h).1 (hparts part (List.mem_cons_self ..)).1
    | cons other others =>
      obtain ⟨⟨-, hpart⟩, hrest⟩ := List.forall_mem_cons.1 hparts
      obtain ⟨⟨-, hother⟩, hothers⟩ := List.forall_mem_cons.1 hothers
      rw [intercalate_cons_eq, intercalate_cons_eq] at h
      have hrest : ∀ next ∈ rest, a ∉ next := fun next hnext => (hrest next hnext).2
      have hothers : ∀ next ∈ others, a ∉ next := fun next hnext => (hothers next hnext).2
      obtain ⟨rfl, rfl⟩ := append_flatMap_inj hpart hrest hother hothers h
      rfl

/-- What stands in joined parts stands in a part or in the separator. -/
theorem notMem_intercalate {c : α} {parts : List (List α)} (hseparator : c ∉ separator) (hparts : ∀ part ∈ parts, c ∉ part) :
    c ∉ separator.intercalate parts := by
  cases parts with
  | nil => exact List.not_mem_nil
  | cons part rest =>
    obtain ⟨hpart, hrest⟩ := List.forall_mem_cons.1 hparts
    rw [intercalate_cons_eq, List.mem_append, not_or, List.mem_flatMap]
    refine ⟨hpart, ?_⟩
    rintro ⟨next, hnext, hmem⟩
    exact (List.mem_append.1 hmem).elim hseparator (hrest next hnext)

end

/-! ## Digits -/

namespace Hex

theorem digit_inj {m n : Nat} (hm : m < 16) (hn : n < 16) (h : digit m = digit n) : m = n := by
  have hall : ∀ m < 16, ∀ n < 16, digit m = digit n → m = n := by decide
  exact hall m hm n hn h

/-- A fixed number of digits tells every number that it is enough for. -/
theorem fixedDigits_inj {width m n : Nat} (hm : m < 16 ^ width) (hn : n < 16 ^ width) (h : fixedDigits width m = fixedDigits width n) :
    m = n := by
  induction width generalizing m n with
  | zero => omega
  | succ width ih =>
    rw [Nat.pow_succ] at hm hn
    obtain ⟨hfront, hlast⟩ := List.append_inj' h rfl
    have hquotient : m / 16 = n / 16 := ih (by omega) (by omega) hfront
    have hremainder : m % 16 = n % 16 := digit_inj (by omega) (by omega) (List.cons.inj hlast).1
    omega

theorem notMem_fixedDigits {c : Char} (h : ∀ k < 16, c ≠ digit k) (width n : Nat) : c ∉ fixedDigits width n := by
  induction width generalizing n with
  | zero => exact List.not_mem_nil
  | succ width ih =>
    rw [fixedDigits, List.mem_append, List.mem_singleton, not_or]
    exact ⟨ih (n / 16), h _ (Nat.mod_lt _ (by decide))⟩

end Hex

/-! ## Parameters -/

/-- The bytes of a payload as digits. -/
def payloadDigits (payload : Bytes) : List (List Char) :=
  payload.toList.map fun b => Hex.fixedDigits 2 b.toNat

/-- A payload is told by its digits. -/
theorem payloadDigits_injective : Function.Injective payloadDigits := by
  have hbyte : Function.Injective fun b : UInt8 => Hex.fixedDigits 2 b.toNat := fun b c h =>
    UInt8.toNat_inj.1 (Hex.fixedDigits_inj b.toNat_lt c.toNat_lt h)
  exact fun payload other h => Array.toList_inj.1 (List.map_injective_iff.2 hbyte h)

theorem space_notMem_payloadDigits (payload : Bytes) : ∀ digits ∈ payloadDigits payload, digits ≠ [] ∧ ' ' ∉ digits := by
  have hspace : ∀ k < 16, ' ' ≠ Hex.digit k := by decide
  refine List.forall_mem_map.2 fun b _ => ⟨?_, Hex.notMem_fixedDigits hspace 2 b.toNat⟩
  exact List.ne_nil_of_length_pos (by rw [Hex.length_fixedDigits]; decide)

/-- The characters of a parameter with given contents. -/
def parameterText (contents : Int16 × Bytes) : List Char :=
  Hex.fixedDigits 4 contents.1.toUInt16.toNat ++ ' ' :: [' '].intercalate (payloadDigits contents.2)

theorem toList_rawParameter (parameter : Parameter) : (Invocation.rawParameter parameter).toList = parameterText parameter.contents := by
  simp [Invocation.rawParameter, parameterText, Parameter.contents, payloadDigits, Hex.fixed, Hex.byte, Function.comp_def]

/-- A parameter is told by its characters: the tag by the first four, and the payload by what comes after the space. -/
theorem parameterText_injective : Function.Injective parameterText := by
  intro contents other h
  obtain ⟨htag, hrest⟩ := List.append_inj h (by rw [Hex.length_fixedDigits, Hex.length_fixedDigits])
  have hword : contents.1.toUInt16 = other.1.toUInt16 :=
    UInt16.toNat_inj.1 (Hex.fixedDigits_inj contents.1.toUInt16.toNat_lt other.1.toUInt16.toNat_lt htag)
  have htag : contents.1 = other.1 := by rw [← Int16.toInt16_toUInt16 contents.1, hword, Int16.toInt16_toUInt16]
  have hdigits : payloadDigits contents.2 = payloadDigits other.2 :=
    intercalate_inj (space_notMem_payloadDigits contents.2) (space_notMem_payloadDigits other.2) (List.cons.inj hrest).2
  exact Prod.ext htag (payloadDigits_injective hdigits)

theorem comma_notMem_parameterText (contents : Int16 × Bytes) : parameterText contents ≠ [] ∧ ',' ∉ parameterText contents := by
  have hcomma : ∀ k < 16, ',' ≠ Hex.digit k := by decide
  refine ⟨by simp [parameterText], ?_⟩
  rw [parameterText, List.mem_append, not_or, List.mem_cons, not_or]
  refine ⟨Hex.notMem_fixedDigits hcomma 4 _, by decide, notMem_intercalate (by decide) ?_⟩
  exact List.forall_mem_map.2 fun b _ => Hex.notMem_fixedDigits hcomma 2 b.toNat

/-- The characters of parameters, with a comma and a space between them. -/
def parametersText (parameters : List (Int16 × Bytes)) : List Char :=
  [',', ' '].intercalate (parameters.map parameterText)

theorem parametersText_injective : Function.Injective parametersText := fun _ _ h =>
  List.map_injective_iff.2 parameterText_injective (intercalate_inj
    (List.forall_mem_map.2 fun contents _ => comma_notMem_parameterText contents)
    (List.forall_mem_map.2 fun contents _ => comma_notMem_parameterText contents) h)

/-! ## The flag -/

/-- The characters of a flag. A negative one has none. -/
def flagText (unknown : Int16) : List Char :=
  if 0 ≤ unknown then '<' :: (Nat.toDigits 10 unknown.toInt.toNat ++ ['>']) else []

theorem flagText_of_neg {unknown : Int16} (h : unknown < 0) : flagText unknown = [] :=
  if_neg (Int16.not_le.2 h)

theorem flagText_of_nonneg {unknown : Int16} (h : 0 ≤ unknown) :
    flagText unknown = '<' :: (Nat.toDigits 10 unknown.toInt.toNat ++ ['>']) :=
  if_pos h

theorem toDigits_inj {m n : Nat} (h : Nat.toDigits 10 m = Nat.toDigits 10 n) : m = n := by
  rw [← Nat.ofDigitChars_ten_toDigits (n := m), h, Nat.ofDigitChars_ten_toDigits]

theorem angle_notMem_toDigits (n : Nat) : '>' ∉ Nat.toDigits 10 n := fun hmem =>
  absurd (Nat.isDigit_of_mem_toDigits (by decide) (by decide) hmem) (by decide)

/-- Where the parameters start is known, whether a flag stands in front of them or not. -/
theorem flagText_append_inj {unknown other : Int16} {text others : List Char}
    (h : flagText unknown ++ '(' :: text = flagText other ++ '(' :: others) :
    (unknown = other ∨ unknown < 0 ∧ other < 0) ∧ text = others := by
  rcases Int16.lt_or_le unknown 0 with hneg | hnonneg <;> rcases Int16.lt_or_le other 0 with hneg' | hnonneg'
  · rw [flagText_of_neg hneg, flagText_of_neg hneg'] at h
    exact ⟨.inr ⟨hneg, hneg'⟩, (List.cons.inj h).2⟩
  · rw [flagText_of_neg hneg, flagText_of_nonneg hnonneg'] at h
    exact absurd (List.cons.inj h).1 (by decide)
  · rw [flagText_of_nonneg hnonneg, flagText_of_neg hneg'] at h
    exact absurd (List.cons.inj h).1 (by decide)
  · rw [flagText_of_nonneg hnonneg, flagText_of_nonneg hnonneg'] at h
    simp only [List.cons_append, List.append_assoc, List.nil_append] at h
    obtain ⟨hdigits, htail⟩ := append_cons_inj (angle_notMem_toDigits _) (angle_notMem_toDigits _) (List.cons.inj h).2
    have hunknown : unknown = other := by
      have hnat := toDigits_inj hdigits
      have hle := Int16.le_iff_toInt_le.1 hnonneg
      have hle' := Int16.le_iff_toInt_le.1 hnonneg'
      rw [Int16.toInt_zero] at hle hle'
      exact Int16.toInt_inj.1 (by omega)
    exact ⟨.inl hunknown, (List.cons.inj htail).2⟩

/-! ## Instructions -/

namespace Invocation

theorem toList_head (invocation : Invocation) :
    invocation.head.toList = invocation.command.name.toList ++ flagText invocation.unknown := by
  rcases Int16.lt_or_le invocation.unknown 0 with hneg | hnonneg
  · rw [head, if_neg (Int16.not_le.2 hneg), flagText_of_neg hneg, List.append_nil]
  · have hle := Int16.le_iff_toInt_le.1 hnonneg
    rw [Int16.toInt_zero] at hle
    obtain ⟨n, hn⟩ := Int.eq_ofNat_of_zero_le hle
    have hrepr : toString (n : Int) = Nat.repr n := rfl
    have htext (text : String) : toString text = text := rfl
    rw [head, if_pos hnonneg, flagText_of_nonneg hnonneg, hn, hrepr]
    simp [htext]

theorem toList_renderRaw (invocation : Invocation) : invocation.renderRaw.toList = invocation.command.name.toList ++
    (flagText invocation.unknown ++ '(' :: (parametersText (invocation.parameters.map Parameter.contents) ++ [')'])) := by
  have hparameters : (invocation.parameters.map rawParameter).map String.toList =
      (invocation.parameters.map Parameter.contents).map parameterText := by
    rw [List.map_map, List.map_map]
    exact List.map_congr_left fun parameter _ => toList_rawParameter parameter
  simp [renderRaw, toList_head, String.toList_intercalate, parametersText, hparameters]

/-- Two instructions of one name have the same raw form exactly if they have the same flag, or none, and the same parameters. -/
theorem renderRaw_eq_iff {a b : Invocation} (hname : a.command.name = b.command.name) :
    a.renderRaw = b.renderRaw ↔ (a.unknown = b.unknown ∨ a.unknown < 0 ∧ b.unknown < 0) ∧
      a.parameters.map Parameter.contents = b.parameters.map Parameter.contents := by
  rw [← String.toList_inj, toList_renderRaw, toList_renderRaw, hname, List.append_cancel_left_eq]
  constructor
  · intro h
    obtain ⟨hunknown, htext⟩ := flagText_append_inj h
    exact ⟨hunknown, parametersText_injective (List.append_cancel_right htext)⟩
  · rintro ⟨hunknown | ⟨hneg, hneg'⟩, hparameters⟩
    · rw [hunknown, hparameters]
    · rw [flagText_of_neg hneg, flagText_of_neg hneg', hparameters]

/-- A jump with a given flag and parameters, at a given place. -/
def sampleRaw (address : Nat) (unknown : Int16) (parameters : List (Int16 × Bytes)) : Invocation :=
  ⟨address, address, 1, unknown, 1, ⟨1, "JUMP", [0x00, 0x02]⟩, parameters.map fun contents => ⟨contents.1, address, contents.2⟩⟩

/-- Place and unset flag have no part in the raw form, and a parameter with no bytes is not taken for none or for one with a byte. -/
theorem renderRaw_sampleRaw :
    (sampleRaw 0 (-1) [(0x02, #[]), (0x00, #[7])]).renderRaw = (sampleRaw 9 (-2) [(0x02, #[]), (0x00, #[7])]).renderRaw ∧
    (sampleRaw 0 (-1) [(0x02, #[])]).renderRaw ≠ (sampleRaw 0 (-1) []).renderRaw ∧
    (sampleRaw 0 (-1) [(0x02, #[])]).renderRaw ≠ (sampleRaw 0 (-1) [(0x02, #[0])]).renderRaw ∧
    (sampleRaw 0 0 []).renderRaw ≠ (sampleRaw 0 (-1) []).renderRaw := by
  have hflag : ((-1 : Int16) = -2 ∨ (-1 : Int16) < 0 ∧ (-2 : Int16) < 0) := by decide
  refine ⟨(renderRaw_eq_iff (by rfl)).2 ⟨hflag, rfl⟩, ?_, ?_, ?_⟩ <;> intro h
  · exact absurd ((renderRaw_eq_iff (by rfl)).1 h).2 (by decide)
  · exact absurd ((renderRaw_eq_iff (by rfl)).1 h).2 (by decide)
  · exact absurd ((renderRaw_eq_iff (by rfl)).1 h).1 (by decide)

end Invocation

end SceneScript
