import SceneScript.Proofs.EditFaults

/-!
# Patches are made whole or not at all

A change fits a file of some size, or it does not (`Change.FitsIn`). The changes of a patch refer to what the changes in front of them
leave, so whether they fit is asked of one after another (`FitFrom`), and a patch that cannot be made has a first change that does not
fit (`FirstMisfit`). The check before a patch follows only the size of the file, and making the changes follows its bytes.
`Patch.apply_whole_or_nothing` says that the two agree for every list of changes.
-/

namespace SceneScript

open Bytes

/-! ## Single changes -/

namespace Change

/-- The change lies within a file of a size. Positions are numbers without a bound, so that the end of a word does not wrap around. -/
def FitsIn (size : Nat) : Change → Prop
  | splice start stop _ => start ≤ stop ∧ stop ≤ size
  | word offset _ => offset + 4 ≤ size

instance (size : Nat) : (change : Change) → Decidable (change.FitsIn size)
  | splice start stop _ => inferInstanceAs (Decidable (start ≤ stop ∧ stop ≤ size))
  | word offset _ => inferInstanceAs (Decidable (offset + 4 ≤ size))

/-- The bytes after a change that fits. -/
def made (buf : Bytes) : Change → Bytes
  | splice start stop content => buf.replaceRange start stop content
  | word offset value => buf.replaceRange offset (offset + 4) (ofUInt32 value)

/-- The position that a fault tells of a change that does not fit: the end of a splice, and the start of a word. -/
def position : Change → Nat
  | splice _ stop _ => stop
  | word offset _ => offset

variable {change : Change} {buf : Bytes}

theorem perform_of_fitsIn (h : change.FitsIn buf.size) : change.perform buf = .ok (change.made buf) := by
  cases change with
  | splice start stop content => exact if_pos h
  | word offset value => exact writeUInt32_eq_ok_iff.2 ⟨h, rfl⟩

/-- The check of a change that fits tells the size of the bytes after the change. -/
theorem check_of_fitsIn (h : change.FitsIn buf.size) : change.check buf.size = .ok (change.made buf).size :=
  check_eq_of_perform_eq (perform_of_fitsIn h)

theorem check_of_not_fitsIn {size : Nat} (h : ¬change.FitsIn size) :
    change.check size = .error (.patchOutOfRange change.position size) := by
  cases change with
  | splice start stop content => exact if_neg h
  | word offset value => exact if_neg h

end Change

/-! ## Changes one after another -/

/-- The bytes after changes that fit, made one after another. -/
def performed (buf : Bytes) (changes : List Change) : Bytes :=
  changes.foldl Change.made buf

/-- Each change fits the bytes that the changes in front of it leave. -/
def FitFrom : Bytes → List Change → Prop
  | _, [] => True
  | buf, change :: rest => change.FitsIn buf.size ∧ FitFrom (change.made buf) rest

/-- The change is the first one that does not fit, and finds a file of this size. -/
def FirstMisfit (buf : Bytes) (changes : List Change) (change : Change) (size : Nat) : Prop :=
  ∃ front rest, changes = front ++ change :: rest ∧ FitFrom buf front ∧ size = (performed buf front).size ∧ ¬change.FitsIn size

instance decidableFitFrom : (buf : Bytes) → (changes : List Change) → Decidable (FitFrom buf changes)
  | _, [] => inferInstanceAs (Decidable True)
  | buf, change :: rest =>
    have := decidableFitFrom (change.made buf) rest
    inferInstanceAs (Decidable (change.FitsIn buf.size ∧ FitFrom (change.made buf) rest))

variable {changes : List Change} {buf : Bytes}

/-- Changes that fit are made. -/
theorem FitFrom.foldlM_perform (h : FitFrom buf changes) : changes.foldlM Change.perform buf = .ok (performed buf changes) := by
  induction changes generalizing buf with
  | nil => rfl
  | cons change rest ih =>
    obtain ⟨hfits, hrest⟩ := h
    rw [foldlM_perform_cons]
    exact ⟨_, Change.perform_of_fitsIn hfits, ih hrest⟩

/-- Changes that fit pass their checks, which tell the size of the bytes after all of them. -/
theorem FitFrom.foldlM_check (h : FitFrom buf changes) :
    changes.foldlM Change.check buf.size = .ok (performed buf changes).size :=
  foldlM_check_of_perform h.foldlM_perform

/-- The first change fits, and the first misfit is among the others; or it is the first change. -/
theorem firstMisfit_cons_iff {first change : Change} {rest : List Change} {size : Nat} :
    FirstMisfit buf (first :: rest) change size ↔
      (first.FitsIn buf.size ∧ FirstMisfit (first.made buf) rest change size) ∨
        (¬first.FitsIn buf.size ∧ change = first ∧ size = buf.size) := by
  constructor
  · rintro ⟨front, others, hchanges, hfront, hsize, hmisfit⟩
    cases front with
    | nil =>
      cases hchanges
      exact .inr ⟨hsize ▸ hmisfit, rfl, hsize⟩
    | cons head front =>
      cases hchanges
      exact .inl ⟨hfront.1, front, others, rfl, hfront.2, hsize, hmisfit⟩
  · rintro (⟨hfits, front, others, rfl, hfront, hsize, hmisfit⟩ | ⟨hmisfit, rfl, rfl⟩)
    · exact ⟨first :: front, others, rfl, ⟨hfits, hfront⟩, hsize, hmisfit⟩
    · exact ⟨[], rest, rfl, trivial, rfl, hmisfit⟩

/-- The checks stop at the first change that does not fit. They have only followed the size, and find the one that the file has
there. -/
theorem foldlM_check_eq_error_iff {e : ScriptError} : changes.foldlM Change.check buf.size = .error e ↔
    ∃ change size, FirstMisfit buf changes change size ∧ e = .patchOutOfRange change.position size := by
  induction changes generalizing buf with
  | nil =>
    constructor
    · intro h
      cases h
    · rintro ⟨change, size, ⟨front, rest, hnil, -⟩, -⟩
      cases front <;> cases hnil
  | cons first rest ih =>
    simp only [firstMisfit_cons_iff, List.foldlM_cons]
    by_cases hfits : first.FitsIn buf.size
    · rw [Change.check_of_fitsIn hfits]
      simp only [hfits, true_and, not_true_eq_false, false_and, or_false]
      exact ih
    · rw [Change.check_of_not_fitsIn hfits]
      simp only [hfits, false_and, not_false_eq_true, true_and, false_or]
      constructor
      · intro h
        cases h
        exact ⟨first, buf.size, ⟨rfl, rfl⟩, rfl⟩
      · rintro ⟨_, _, ⟨rfl, rfl⟩, rfl⟩
        rfl

/-- Changes that pass their checks fit. -/
theorem fitFrom_of_foldlM_check {size : Nat} (h : changes.foldlM Change.check buf.size = .ok size) : FitFrom buf changes := by
  induction changes generalizing buf size with
  | nil => trivial
  | cons first rest ih =>
    by_cases hfits : first.FitsIn buf.size
    · rw [List.foldlM_cons, Change.check_of_fitsIn hfits] at h
      exact ⟨hfits, ih h⟩
    · rw [List.foldlM_cons, Change.check_of_not_fitsIn hfits] at h
      cases h

/-! ## Patches -/

namespace Patch

variable {patch : Patch}

theorem apply_of_fitFrom (h : FitFrom buf patch.changes) : patch.apply buf = .ok (performed buf patch.changes) :=
  apply_eq_ok_iff.2 h.foldlM_perform

/-- A patch fails where its checks do. -/
theorem apply_eq_error_iff {e : ScriptError} :
    patch.apply buf = .error e ↔ patch.changes.foldlM Change.check buf.size = .error e := by
  rw [apply]
  cases hcheck : patch.changes.foldlM Change.check buf.size with
  | error fault => simp only [bind, Except.bind, Except.error.injEq]
  | ok size =>
    simp only [bind, Except.bind, (fitFrom_of_foldlM_check hcheck).foldlM_perform, reduceCtorEq]

/-- A patch is applied exactly if each of its changes fits the bytes that the changes in front of it leave. The result are the bytes
after all changes, and their size is the one that the checks tell. Otherwise the buffer stays as it was, and the fault tells the first
change that does not fit and the size that it finds; a word whose end is no 64-bit position fits no file. Once all checks are passed,
no change fails. -/
theorem apply_whole_or_nothing (patch : Patch) (buf : Bytes) :
    ((∃ out, patch.apply buf = .ok out) ↔ FitFrom buf patch.changes) ∧
    (FitFrom buf patch.changes → patch.apply buf = .ok (performed buf patch.changes) ∧
      patch.applyInPlace buf = (performed buf patch.changes, .ok ()) ∧
      patch.changes.foldlM Change.check buf.size = .ok (performed buf patch.changes).size) ∧
    (∀ e, patch.apply buf = .error e ↔
      ∃ change size, FirstMisfit buf patch.changes change size ∧ e = .patchOutOfRange change.position size) ∧
    (∀ e, patch.apply buf = .error e → patch.applyInPlace buf = (buf, .error e)) ∧
    (∀ front rest offset value, patch.changes = front ++ .word offset value :: rest → FitFrom buf front →
      (performed buf front).size < UInt64.size → UInt64.size ≤ offset + 4 →
        patch.apply buf = .error (.patchOutOfRange offset (performed buf front).size)) ∧
    (∀ size, patch.changes.foldlM Change.check buf.size = .ok size →
      performInPlace buf patch.changes = (performed buf patch.changes, .ok ())) := by
  have herror : ∀ e, patch.apply buf = .error e ↔
      ∃ change size, FirstMisfit buf patch.changes change size ∧ e = .patchOutOfRange change.position size := by
    intro e
    rw [apply_eq_error_iff, foldlM_check_eq_error_iff]
  refine ⟨⟨?_, ?_⟩, ?_, herror, ?_, ?_, ?_⟩
  · rintro ⟨out, hout⟩
    exact fitFrom_of_foldlM_check (foldlM_check_of_perform (apply_eq_ok_iff.1 hout))
  · intro hfit
    exact ⟨_, apply_of_fitFrom hfit⟩
  · intro hfit
    have happly := apply_of_fitFrom hfit
    refine ⟨happly, ?_, hfit.foldlM_check⟩
    rw [applyInPlace_eq, happly]
  · intro e he
    rw [applyInPlace_eq, he]
  · intro front rest offset value hchanges hfront hsize hoffset
    refine (herror _).2 ⟨_, _, ⟨front, rest, hchanges, hfront, rfl, ?_⟩, rfl⟩
    rw [Change.FitsIn]
    omega
  · intro size hcheck
    exact performInPlace_of_perform (fitFrom_of_foldlM_check hcheck).foldlM_perform

/-- A splice that adds two bytes makes room for the word behind it, and the last splice takes away more than there was. -/
example : (⟨0, 0, 0, #[], 0, [.splice 1 2 #[7, 8, 9], .word 2 5, .splice 0 6 #[1]], none⟩ : Patch).applyInPlace #[1, 2, 3, 4] =
    (#[1], .ok ()) := by decide

/-- Without the splice in front there is no room, and a splice that could be made is not. -/
example : (⟨0, 0, 0, #[], 0, [.splice 0 3 #[], .word 18446744073709551614 5], none⟩ : Patch).applyInPlace #[1, 2, 3, 4] =
    (#[1, 2, 3, 4], .error (.patchOutOfRange 18446744073709551614 1)) := by decide

end Patch

end SceneScript
