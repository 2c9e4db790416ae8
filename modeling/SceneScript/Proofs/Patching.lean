import SceneScript.Patch
import SceneScript.Proofs.BlockTable

/-!
# What patches do to bytes

The checks before a patch refuse nothing that its changes could do: `Patch.apply_eq_ok_iff` reduces a patch to its changes made one
after another. A change in the middle of bytes leaves what is in front and behind (`Change.perform_splice_middle`,
`Change.perform_word_middle`), writes leave every byte beside them (`getElem?_foldlM_perform`), and the writes for a block table
rewrite its positions (`perform_entryWrites`). `Patch.moved_of_lt` says where the bytes behind a replaced text are found again.
-/

namespace SceneScript

open Bytes

theorem foldlM_perform_cons {change : Change} {rest : List Change} {buf out : Bytes} :
    (change :: rest).foldlM Change.perform buf = .ok out ↔
      ∃ next, change.perform buf = .ok next ∧ rest.foldlM Change.perform next = .ok out := by
  rw [List.foldlM_cons, bind_eq_ok_iff]

/-! ## Single changes -/

theorem Bytes.size_replaceRange {buf content : Bytes} {start stop : Nat} (h : start ≤ stop) (hstop : stop ≤ buf.size) :
    (buf.replaceRange start stop content).size = buf.size - (stop - start) + content.size := by
  simp only [replaceRange, Array.size_append, Array.size_extract]
  omega

/-- Replacing a part leaves what is in front of it and behind. -/
theorem Bytes.replaceRange_middle (front old rest content : Bytes) :
    (front ++ (old ++ rest)).replaceRange front.size (front.size + old.size) content = front ++ (content ++ rest) := by
  have hfront : (front ++ (old ++ rest)).extract 0 front.size = front := by
    rw [Array.extract_append_left, Array.extract_size]
  have hrest : (front ++ (old ++ rest)).extract (front.size + old.size) (front ++ (old ++ rest)).size = rest := by
    have hsize : (front ++ old ++ rest).size - (front ++ old).size = rest.size := by
      rw [Array.size_append, Nat.add_sub_cancel_left]
    rw [← Array.append_assoc, Array.extract_append, ← Array.size_append, hsize, Nat.sub_self, Array.extract_size,
      Array.extract_eq_empty_of_le (by omega), Array.empty_append]
  rw [replaceRange, hfront, hrest, Array.append_assoc]

theorem Bytes.getElem?_replaceRange_of_lt {buf content : Bytes} {start stop pos : Nat} (h : pos < start) (hstart : start ≤ buf.size) :
    (buf.replaceRange start stop content)[pos]? = buf[pos]? := by
  have hfront : pos < (buf.extract 0 start).size := by
    rw [Array.size_extract]
    omega
  rw [replaceRange, Array.append_assoc, Array.getElem?_append_left hfront, Array.getElem?_extract, if_pos (by omega), Nat.zero_add]

/-- What lies behind a part that is replaced moves by the difference in size. -/
theorem Bytes.getElem?_replaceRange_of_le {buf content : Bytes} {start stop pos : Nat} (h : stop ≤ pos) (hstart : start ≤ stop)
    (hstop : stop ≤ buf.size) :
    (buf.replaceRange start stop content)[pos - (stop - start) + content.size]? = buf[pos]? := by
  have hfront : (buf.extract 0 start ++ content).size = start + content.size := by
    rw [Array.size_append, Array.size_extract]
    omega
  rw [replaceRange, Array.getElem?_append_right (by omega), hfront, Array.getElem?_extract]
  by_cases hpos : pos < buf.size
  · rw [if_pos (by omega)]
    congr 1
    omega
  · rw [if_neg (by omega), Array.getElem?_eq_none (by omega)]

theorem Bytes.writeUInt32_eq_ok_iff {buf out : Bytes} {pos : Nat} {value : UInt32} :
    buf.writeUInt32 pos value = .ok out ↔ pos + 4 ≤ buf.size ∧ out = buf.replaceRange pos (pos + 4) (ofUInt32 value) := by
  simp only [writeUInt32, bind_eq_ok_iff, pure_eq_ok_iff, ensure_eq_ok_iff]
  constructor
  · rintro ⟨_, h, rfl⟩
    exact ⟨h, rfl⟩
  · rintro ⟨h, rfl⟩
    exact ⟨(), h, rfl⟩

/-- The byte at `pos` belongs to no word at `offset`. -/
def OutsideWord (offset pos : Nat) : Prop :=
  pos < offset ∨ offset + 4 ≤ pos

namespace Change

theorem perform_splice_middle (front old rest content : Bytes) :
    (splice front.size (front.size + old.size) content).perform (front ++ (old ++ rest)) = .ok (front ++ (content ++ rest)) := by
  have hfits : front.size ≤ front.size + old.size ∧ front.size + old.size ≤ (front ++ (old ++ rest)).size := by
    simp only [Array.size_append]
    omega
  rw [perform, if_pos hfits, replaceRange_middle]

theorem perform_word_middle (front rest : Bytes) (old value : UInt32) :
    (word front.size value).perform (front ++ (ofUInt32 old ++ rest)) = .ok (front ++ (ofUInt32 value ++ rest)) := by
  refine writeUInt32_eq_ok_iff.2 ⟨?_, (replaceRange_middle front (ofUInt32 old) rest _).symm⟩
  simp only [Array.size_append, size_ofUInt32]
  omega

theorem perform_splice_eq_ok_iff {buf out content : Bytes} {start stop : Nat} :
    (splice start stop content).perform buf = .ok out ↔
      (start ≤ stop ∧ stop ≤ buf.size) ∧ out = buf.replaceRange start stop content := by
  rw [perform]
  split
  next hfits => exact ⟨fun h => ⟨hfits, (Except.ok.inj h).symm⟩, fun h => congrArg Except.ok h.2.symm⟩
  next hfits => exact ⟨nofun, fun h => absurd h.1 hfits⟩

/-- A change that can be made passes its check, which tells the new size. -/
theorem check_eq_of_perform_eq {change : Change} {buf out : Bytes} (h : change.perform buf = .ok out) :
    change.check buf.size = .ok out.size := by
  cases change with
  | splice start stop content =>
    rw [perform] at h
    split at h
    next hfits =>
      cases h
      rw [check, if_pos hfits, size_replaceRange hfits.1 hfits.2]
    next => nomatch h
  | word offset value =>
    obtain ⟨hfits, rfl⟩ := writeUInt32_eq_ok_iff.1 h
    rw [check, if_pos hfits, size_replaceRange (by omega) hfits, size_ofUInt32]
    congr 1
    omega

/-- A write that fits can be made, and keeps the size. -/
theorem exists_perform_word {buf : Bytes} {offset : Nat} (value : UInt32) (h : offset + 4 ≤ buf.size) :
    ∃ out, (word offset value).perform buf = .ok out ∧ out.size = buf.size := by
  refine ⟨_, writeUInt32_eq_ok_iff.2 ⟨h, rfl⟩, ?_⟩
  rw [size_replaceRange (by omega) h, size_ofUInt32]
  omega

/-- The change is a write that leaves the byte at a position. -/
def IsWriteBeside (pos : Nat) : Change → Prop
  | splice _ _ _ => False
  | word offset _ => OutsideWord offset pos

/-- A write leaves the bytes beside it. -/
theorem getElem?_perform {change : Change} {buf out : Bytes} {pos : Nat} (h : change.IsWriteBeside pos)
    (hout : change.perform buf = .ok out) : out[pos]? = buf[pos]? := by
  cases change with
  | splice start stop content => exact h.elim
  | word offset value =>
    obtain ⟨hfits, rfl⟩ := writeUInt32_eq_ok_iff.1 hout
    rcases h with hfront | hbehind
    · exact getElem?_replaceRange_of_lt hfront (by omega)
    · have hmoved := @getElem?_replaceRange_of_le buf (ofUInt32 value) offset (offset + 4) pos hbehind (by omega) hfits
      rw [size_ofUInt32] at hmoved
      rwa [show pos - (offset + 4 - offset) + 4 = pos by omega] at hmoved

/-- The change is a write to bytes of a size. -/
def IsWriteWithin (size : Nat) : Change → Prop
  | splice _ _ _ => False
  | word offset _ => offset + 4 ≤ size

end Change

/-! ## Patches -/

/-- Writes that fit can be made one after another, and keep the size. -/
theorem exists_foldlM_perform {changes : List Change} {buf : Bytes} (h : ∀ change ∈ changes, change.IsWriteWithin buf.size) :
    ∃ out, changes.foldlM Change.perform buf = .ok out ∧ out.size = buf.size := by
  induction changes generalizing buf with
  | nil => exact ⟨buf, rfl, rfl⟩
  | cons change rest ih =>
    have hfirst := h change (List.mem_cons_self ..)
    match change with
    | .word offset value =>
      obtain ⟨next, hnext, hsize⟩ := Change.exists_perform_word value hfirst
      obtain ⟨out, hout, hsize'⟩ := @ih next fun change hchange => hsize ▸ h change (List.mem_cons_of_mem _ hchange)
      exact ⟨out, foldlM_perform_cons.2 ⟨next, hnext, hout⟩, hsize'.trans hsize⟩

/-- Writes leave the bytes beside them. -/
theorem getElem?_foldlM_perform {changes : List Change} {buf out : Bytes} {pos : Nat}
    (h : ∀ change ∈ changes, change.IsWriteBeside pos) (hout : changes.foldlM Change.perform buf = .ok out) :
    out[pos]? = buf[pos]? := by
  induction changes generalizing buf with
  | nil =>
    cases hout
    rfl
  | cons change rest ih =>
    obtain ⟨next, hnext, hrest⟩ := foldlM_perform_cons.1 hout
    rw [ih (fun other hother => h other (List.mem_cons_of_mem _ hother)) hrest]
    exact Change.getElem?_perform (h change (List.mem_cons_self ..)) hnext

/-- Writes keep the size. -/
theorem size_foldlM_perform {changes : List Change} {buf out : Bytes}
    (h : ∀ change ∈ changes, ∃ offset value, change = .word offset value) (hout : changes.foldlM Change.perform buf = .ok out) :
    out.size = buf.size := by
  induction changes generalizing buf with
  | nil =>
    cases hout
    rfl
  | cons change rest ih =>
    obtain ⟨next, hnext, hrest⟩ := foldlM_perform_cons.1 hout
    obtain ⟨offset, value, rfl⟩ := h change (List.mem_cons_self ..)
    obtain ⟨hfits, rfl⟩ := writeUInt32_eq_ok_iff.1 hnext
    rw [ih (fun other hother => h other (List.mem_cons_of_mem _ hother)) hrest, size_replaceRange (by omega) hfits, size_ofUInt32]
    omega

/-- Changes that can be made pass their checks. -/
theorem foldlM_check_of_perform {changes : List Change} {buf out : Bytes} (h : changes.foldlM Change.perform buf = .ok out) :
    changes.foldlM Change.check buf.size = .ok out.size := by
  induction changes generalizing buf with
  | nil =>
    cases h
    rfl
  | cons change rest ih =>
    obtain ⟨next, hnext, hrest⟩ := foldlM_perform_cons.1 h
    rw [List.foldlM_cons, bind_eq_ok_iff]
    exact ⟨next.size, Change.check_eq_of_perform_eq hnext, ih hrest⟩

/-- A patch is its changes, one after another. -/
theorem Patch.apply_eq_ok_iff {patch : Patch} {buf out : Bytes} :
    patch.apply buf = .ok out ↔ patch.changes.foldlM Change.perform buf = .ok out := by
  rw [apply, bind_eq_ok_iff]
  exact ⟨fun ⟨_, _, h⟩ => h, fun h => ⟨out.size, foldlM_check_of_perform h, h⟩⟩

/-- What does not lie behind the start of the replaced text stays. -/
theorem Patch.moved_of_le {patch : Patch} {pos : Nat} (h : pos ≤ patch.offset) : patch.moved pos = pos :=
  if_neg (by omega)

/-- What lies behind the replaced text moves with the length of the text, as long as positions fit a 64-bit word. -/
theorem Patch.moved_of_lt {patch : Patch} {pos pos' : Nat} (h : patch.offset < pos) (hpos : (pos' : Int) = pos + patch.lengthDelta)
    (hlt : pos' < UInt64.size) : patch.moved pos = pos' := by
  simp only [UInt64.size] at hlt
  rw [moved, if_pos h, ← hpos, UInt64.size]
  omega

/-- A position behind the replaced text is never found too far off, whatever its size. -/
theorem Patch.moved_le {patch : Patch} {pos pos' : Nat} (h : patch.offset < pos) (hpos : (pos' : Int) = pos + patch.lengthDelta) :
    patch.moved pos ≤ pos' := by
  rw [moved, if_pos h, ← hpos, UInt64.size]
  omega

/-! ## The block table -/

/-- The writes that make the entries of a block table at `address` give the positions `start`. -/
def entryWrites (start : BlockEntry → UInt32) : Nat → List BlockEntry → List Change
  | _, [] => []
  | address, entry :: rest => .word (address + 4) (start entry) :: entryWrites start (address + Header.blockEntrySize) rest

/-- The writes for a block table change the positions in it and nothing else. -/
theorem perform_entryWrites (front rest : Bytes) (old start : BlockEntry → UInt32) (entries : List BlockEntry) :
    (entryWrites start front.size entries).foldlM Change.perform (front ++ (tableBytesWith old entries ++ rest)) =
      .ok (front ++ (tableBytesWith start entries ++ rest)) := by
  induction entries generalizing front with
  | nil => simp [entryWrites, tableBytesWith, pure, Except.pure]
  | cons entry entries ih =>
    rw [entryWrites, foldlM_perform_cons]
    let names := ofUInt16 entry.nameIndex ++ ofUInt16 entry.recordedCount
    have hsplit : ∀ (position : BlockEntry → UInt32) (others : Bytes),
        front ++ (entry.bytesWith (position entry) ++ others ++ rest) =
          (front ++ names) ++ (ofUInt32 (position entry) ++ (others ++ rest)) := by
      intro position others
      simp only [BlockEntry.bytesWith, names, Array.append_assoc]
    have hword := Change.perform_word_middle (front ++ names) (tableBytesWith old entries ++ rest) (old entry) (start entry)
    rw [← hsplit old] at hword
    refine ⟨_, (by simpa [names, tableBytesWith, Nat.add_assoc] using hword), ?_⟩
    have hrest := ih (front ++ entry.bytesWith (start entry))
    simp only [Array.size_append, BlockEntry.size_bytesWith, Array.append_assoc] at hrest
    simpa [names, tableBytesWith, BlockEntry.bytesWith, Header.blockEntrySize, Array.append_assoc] using hrest

end SceneScript
