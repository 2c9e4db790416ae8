import Mathlib.Computability.Language
import Mathlib.Data.List.TakeWhile
import SceneScript.ShortCode

/-!
# Short codes as a language

The short codes are a regular language, `ShortCode.pattern`: groups of a word character and one or two digits, at least one of them. A
digit is a word character, so a run of digits can be grouped in several ways, and the reader remembers where the groups can leave off in
what it has read (`Progress.tracks_foldl`). Which ways there are does not matter in the end: once a digit has followed the first
character, all that counts is that every character which is no digit has a digit behind it (`Progress.complete_foldl`). So a short code
can be told in one pass over its characters (`isShortCode_iff`).
-/

namespace SceneScript

open scoped Computability

/-! ## Digits are word characters -/

namespace WordCharacter

/-- Does each of some ranges lie in one of others? Both are gone through in ascending order. -/
def covers : List (Nat × Nat) → List (Nat × Nat) → Bool
  | [], inner => inner.isEmpty
  | other :: outer, inner => covers outer (inner.dropWhile fun range => other.1 ≤ range.1 && range.2 ≤ other.2)

theorem exists_of_covers {outer inner : List (Nat × Nat)} (h : covers outer inner = true) :
    ∀ range ∈ inner, ∃ other ∈ outer, other.1 ≤ range.1 ∧ range.2 ≤ other.2 := by
  induction outer generalizing inner with
  | nil =>
    intro range hrange
    rw [List.isEmpty_iff.1 h] at hrange
    nomatch hrange
  | cons other outer ih =>
    intro range hrange
    rw [← List.takeWhile_append_dropWhile (p := fun range => other.1 ≤ range.1 && range.2 ≤ other.2) (l := inner),
      List.mem_append] at hrange
    rcases hrange with hcovered | hlater
    · have hin := List.mem_takeWhile_imp hcovered
      rw [Bool.and_eq_true, decide_eq_true_eq, decide_eq_true_eq] at hin
      exact ⟨other, List.mem_cons_self, hin⟩
    · obtain ⟨found, hfound, hin⟩ := ih h range hlater
      exact ⟨found, List.mem_cons_of_mem other hfound, hin⟩

theorem inRanges_of_covers {outer inner : List (Nat × Nat)} {n : Nat} (hcovers : covers outer inner = true)
    (h : inRanges inner n = true) : inRanges outer n = true := by
  simp only [inRanges, List.any_eq_true, Bool.and_eq_true, decide_eq_true_eq] at h ⊢
  obtain ⟨range, hrange, hfirst, hlast⟩ := h
  obtain ⟨other, hother, hle, hge⟩ := exists_of_covers hcovers range hrange
  exact ⟨other, hother, Nat.le_trans hle hfirst, Nat.le_trans hlast hge⟩

theorem covers_digitRanges : covers wordRanges digitRanges = true := by
  decide +kernel

end WordCharacter

theorem isWordCharacter_of_isDecimalDigit {c : Char} (h : isDecimalDigit c = true) : isWordCharacter c = true := by
  unfold isDecimalDigit at h
  unfold isWordCharacter
  split at h
  next hascii => simp [hascii, Char.isAlphanum, h]
  next hwide =>
    rw [if_neg hwide]
    exact WordCharacter.inRanges_of_covers WordCharacter.covers_digitRanges h

namespace ShortCode

/-! ## The language -/

/-- The texts of one character of a kind. -/
def single (kind : Char → Bool) : Language Char :=
  {text | ∃ c, kind c = true ∧ text = [c]}

/-- A word character and one or two digits. -/
def group : Language Char :=
  single isWordCharacter * (single isDecimalDigit + single isDecimalDigit * single isDecimalDigit)

/-- One or more groups. -/
def pattern : Language Char :=
  group * group∗

section

variable {language : Language Char} {kind : Char → Bool} {text : List Char} {c : Char}

/-- A text that ends in a character of a kind is told by that character and what stands before it. -/
theorem concat_mem_mul_single : text ++ [c] ∈ language * single kind ↔ text ∈ language ∧ kind c = true := by
  rw [Language.mem_mul]
  constructor
  · rintro ⟨front, hfront, last, ⟨d, hd, rfl⟩, heq⟩
    obtain ⟨rfl, hlast⟩ := List.append_inj' heq rfl
    cases hlast
    exact ⟨hfront, hd⟩
  · rintro ⟨hfront, hkind⟩
    exact ⟨text, hfront, [c], ⟨c, hkind, rfl⟩, rfl⟩

theorem nil_notMem_mul_single : [] ∉ language * single kind := by
  rintro ⟨front, -, last, ⟨d, -, rfl⟩, heq⟩
  simp at heq

end

theorem kstar_mul_group : group∗ * group = group∗ * single isWordCharacter * single isDecimalDigit +
    group∗ * single isWordCharacter * single isDecimalDigit * single isDecimalDigit := by
  calc group∗ * group
      = group∗ * (single isWordCharacter * (single isDecimalDigit + single isDecimalDigit * single isDecimalDigit)) := by
        rw [← group]
    _ = _ := by simp only [mul_add, mul_assoc]

/-- Some groups end with a group of one digit or of two, if there are any. -/
theorem mem_kstar_group_iff {text : List Char} : text ∈ group∗ ↔ text = [] ∨
    text ∈ group∗ * single isWordCharacter * single isDecimalDigit ∨
    text ∈ group∗ * single isWordCharacter * single isDecimalDigit * single isDecimalDigit := by
  conv_lhs => rw [← Language.one_add_kstar_mul_self_eq_kstar group, kstar_mul_group]
  rw [Language.mem_add, Language.mem_add, Language.mem_one]

/-- A text that is not empty is one or more groups if it is some groups. -/
theorem mem_pattern_iff {text : List Char} : text ∈ pattern ↔ text ≠ [] ∧ text ∈ group∗ := by
  rw [pattern, ← Language.mul_self_kstar_comm, kstar_mul_group, Language.mem_add, mem_kstar_group_iff]
  constructor
  · intro h
    refine ⟨?_, .inr h⟩
    rintro rfl
    rcases h with h | h <;> exact nil_notMem_mul_single h
  · rintro ⟨hne, rfl | h⟩
    · exact absurd rfl hne
    · exact h

/-! ## What the reader remembers -/

namespace Progress

/-- What is remembered after a text says which parts of a group can stand at its end, behind some groups. -/
structure Tracks (progress : Progress) (text : List Char) : Prop where
  between : progress.between = true ↔
    text = [] ∨ text ∈ group∗ * single isWordCharacter * single isDecimalDigit * single isDecimalDigit
  opened : progress.opened = true ↔ text ∈ group∗ * single isWordCharacter
  oneDigit : progress.oneDigit = true ↔ text ∈ group∗ * single isWordCharacter * single isDecimalDigit

variable {progress : Progress} {text : List Char}

theorem tracks_start : start.Tracks [] where
  between := by simp [start]
  opened := by simp [start, nil_notMem_mul_single]
  oneDigit := by simp [start, nil_notMem_mul_single]

theorem Tracks.complete_iff (h : progress.Tracks text) : progress.complete = true ↔ text ∈ group∗ := by
  rw [complete, Bool.or_eq_true, h.between, h.oneDigit, mem_kstar_group_iff]
  tauto

theorem Tracks.step (h : progress.Tracks text) (c : Char) : (progress.step c).Tracks (text ++ [c]) where
  between := by
    simp [Progress.step, concat_mem_mul_single, ← h.oneDigit]
  opened := by
    rw [concat_mem_mul_single, ← h.complete_iff]
    simp [Progress.step, complete]
  oneDigit := by
    simp [Progress.step, concat_mem_mul_single, ← h.opened]

theorem tracks_foldl (text : List Char) : (text.foldl step start).Tracks text := by
  induction text using List.reverseRecOn with
  | nil => exact tracks_start
  | append_singleton text c ih =>
    rw [List.foldl_append]
    exact ih.step c

end Progress

theorem matchesChars_iff_mem_pattern {text : List Char} : matchesChars text = true ↔ text ∈ pattern := by
  rw [matchesChars, Bool.and_eq_true, (Progress.tracks_foldl text).complete_iff, mem_pattern_iff]
  simp

/-! ## One pass over the characters -/

/-- A text that starts with a digit. -/
def DigitFirst (text : List Char) : Prop :=
  ∃ d, text[0]? = some d ∧ isDecimalDigit d = true

/-- Word characters, with a digit directly behind every one that is no digit. -/
structure Backed (text : List Char) : Prop where
  isWordCharacter : ∀ c ∈ text, isWordCharacter c = true
  digit_behind : ∀ place c, text[place]? = some c → isDecimalDigit c = false →
    ∃ d, text[place + 1]? = some d ∧ isDecimalDigit d = true

/-- Backed word characters, at least one of them. If the first one is a digit, there is a second one, and it is a digit too. -/
structure Spelled (text : List Char) : Prop extends Backed text where
  ne_nil : text ≠ []
  second_digit : ∀ c, text[0]? = some c → isDecimalDigit c = true → ∃ d, text[1]? = some d ∧ isDecimalDigit d = true

theorem not_digitFirst_nil : ¬DigitFirst [] := by
  rintro ⟨d, hd, -⟩
  nomatch hd

theorem digitFirst_cons_iff {c : Char} {rest : List Char} : DigitFirst (c :: rest) ↔ isDecimalDigit c = true := by
  simp [DigitFirst]

theorem backed_nil : Backed [] where
  isWordCharacter := by simp
  digit_behind := by simp

theorem backed_cons_iff {c : Char} {rest : List Char} :
    Backed (c :: rest) ↔ isWordCharacter c = true ∧ (isDecimalDigit c = false → DigitFirst rest) ∧ Backed rest := by
  constructor
  · rintro ⟨hword, hbehind⟩
    refine ⟨hword c List.mem_cons_self, fun hc => ?_, fun other hother => hword other (List.mem_cons_of_mem c hother), ?_⟩
    · exact hbehind 0 c rfl hc
    · intro place other hother hdigit
      exact hbehind (place + 1) other hother hdigit
  · rintro ⟨hc, hfirst, hrest⟩
    refine ⟨fun other hother => ?_, fun place other hother hdigit => ?_⟩
    · rcases List.mem_cons.1 hother with rfl | hother
      · exact hc
      · exact hrest.isWordCharacter other hother
    · cases place with
      | zero =>
        cases hother
        exact hfirst hdigit
      | succ place => exact hrest.digit_behind place other hother hdigit

/-- Whatever the first character is, a digit comes behind it. -/
theorem spelled_cons_iff {c : Char} {rest : List Char} :
    Spelled (c :: rest) ↔ isWordCharacter c = true ∧ DigitFirst rest ∧ Backed rest := by
  constructor
  · rintro ⟨hbacked, -, hsecond⟩
    obtain ⟨hc, hfirst, hrest⟩ := backed_cons_iff.1 hbacked
    refine ⟨hc, ?_, hrest⟩
    by_cases hdigit : isDecimalDigit c = true
    · exact hsecond c rfl hdigit
    · exact hfirst (Bool.eq_false_iff.2 hdigit)
  · rintro ⟨hc, hfirst, hrest⟩
    exact ⟨backed_cons_iff.2 ⟨hc, fun _ => hfirst, hrest⟩, List.cons_ne_nil c rest, fun _ _ _ => hfirst⟩

namespace Progress

/-- After the first character of a group. -/
def inGroup : Progress := ⟨false, true, false⟩

/-- After characters that no groups start with. -/
def stuck : Progress := ⟨false, false, false⟩

/-- All groups can be complete, and still are if a digit follows. -/
def Settled (progress : Progress) : Prop :=
  progress.complete = true ∧ (progress.opened || progress.oneDigit) = true

variable {progress : Progress} {c : Char}

theorem complete_foldl_stuck (text : List Char) : (text.foldl step stuck).complete = false := by
  induction text with
  | nil => rfl
  | cons c rest ih => exact ih

theorem step_start_of_isWordCharacter (h : isWordCharacter c = true) : start.step c = inGroup := by
  simp [step, start, inGroup, h]

theorem settled_step_inGroup (h : isDecimalDigit c = true) : (inGroup.step c).Settled := by
  simp [Settled, complete, step, inGroup, h]

theorem step_inGroup_of_not_isDecimalDigit (h : isDecimalDigit c = false) : inGroup.step c = stuck := by
  simp [step, inGroup, stuck, h]

theorem Settled.step (h : progress.Settled) (hc : isDecimalDigit c = true) : (progress.step c).Settled := by
  obtain ⟨hcomplete, hmore⟩ := h
  unfold complete at hcomplete
  rw [Bool.or_comm] at hmore
  refine ⟨?_, ?_⟩
  · simpa [complete, Progress.step, hc] using hmore
  · simp [Progress.step, hc, hcomplete, isWordCharacter_of_isDecimalDigit hc]

theorem Settled.step_of_isWordCharacter (h : progress.Settled) (hword : isWordCharacter c = true) (hc : isDecimalDigit c = false) :
    progress.step c = inGroup := by
  have hcomplete := h.1
  unfold complete at hcomplete
  simp [Progress.step, inGroup, hc, hword, hcomplete]

theorem step_of_not_isWordCharacter (hword : isWordCharacter c = false) : progress.step c = stuck := by
  have hc : isDecimalDigit c = false := by
    refine Bool.eq_false_iff.2 fun hdigit => ?_
    rw [isWordCharacter_of_isDecimalDigit hdigit] at hword
    nomatch hword
  simp [Progress.step, stuck, hc, hword]

/-- How the digits before a settled place are grouped does not matter to what follows. Behind the first character of a group the same may
follow if it starts with a digit. -/
theorem complete_foldl (text : List Char) :
    (∀ progress : Progress, progress.Settled → ((text.foldl step progress).complete = true ↔ Backed text)) ∧
      ((text.foldl step inGroup).complete = true ↔ DigitFirst text ∧ Backed text) := by
  induction text with
  | nil =>
    refine ⟨fun progress hsettled => iff_of_true hsettled.1 backed_nil, ?_⟩
    exact iff_of_false nofun fun h => not_digitFirst_nil h.1
  | cons c rest ih =>
    obtain ⟨ihSettled, ihInGroup⟩ := ih
    simp only [List.foldl_cons, digitFirst_cons_iff, backed_cons_iff]
    refine ⟨fun progress hsettled => ?_, ?_⟩
    · by_cases hc : isDecimalDigit c = true
      · rw [ihSettled _ (hsettled.step hc)]
        simp [hc, isWordCharacter_of_isDecimalDigit hc]
      · rw [Bool.not_eq_true] at hc
        by_cases hword : isWordCharacter c = true
        · rw [hsettled.step_of_isWordCharacter hword hc, ihInGroup]
          simp [hc, hword]
        · rw [Bool.not_eq_true] at hword
          rw [step_of_not_isWordCharacter hword, complete_foldl_stuck]
          simp [hword]
    · by_cases hc : isDecimalDigit c = true
      · rw [ihSettled _ (settled_step_inGroup hc)]
        simp [hc, isWordCharacter_of_isDecimalDigit hc]
      · rw [Bool.not_eq_true] at hc
        rw [step_inGroup_of_not_isDecimalDigit hc, complete_foldl_stuck]
        simp [hc]

end Progress

theorem matchesChars_iff_spelled {text : List Char} : matchesChars text = true ↔ Spelled text := by
  cases text with
  | nil => exact iff_of_false nofun fun h => h.ne_nil rfl
  | cons c rest =>
    have hmatches : matchesChars (c :: rest) = (rest.foldl Progress.step (Progress.start.step c)).complete := by
      simp [matchesChars]
    rw [hmatches, spelled_cons_iff]
    by_cases hword : isWordCharacter c = true
    · rw [Progress.step_start_of_isWordCharacter hword, (Progress.complete_foldl rest).2]
      simp [hword]
    · rw [Bool.not_eq_true] at hword
      rw [Progress.step_of_not_isWordCharacter hword, Progress.complete_foldl_stuck]
      simp [hword]

end ShortCode

/-- The short codes are the texts of the pattern, and these are the texts of word characters that have a digit behind every character
which is no digit, and behind a digit at their start. -/
theorem isShortCode_iff (text : String) : (isShortCode text = true ↔ text.toList ∈ ShortCode.pattern) ∧
    (text.toList ∈ ShortCode.pattern ↔ ShortCode.Spelled text.toList) :=
  ⟨ShortCode.matchesChars_iff_mem_pattern, ShortCode.matchesChars_iff_mem_pattern.symm.trans ShortCode.matchesChars_iff_spelled⟩

/-- The first group of `a123b4` has to leave two digits to the next one. A single digit in front of a group is none. -/
example : isShortCode "a123b4" = true ∧ isShortCode "1b4" = false := by decide +kernel

end SceneScript
