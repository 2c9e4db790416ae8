import SceneScript.Proofs.Alignment

/-!
# How edits fail

There are two reasons to refuse an edit: the script has no such line, or the line has no terminator (`Script.RefusesEdit`). In scripts
that edits have led to there is no other: no read runs past the end of the file and no change falls outside of it
(`Script.ExactTables.edit_fails_iff`).

An edit works on the file of the script as it stands, and only brings the other parts in line when the file is patched.
`Script.editInPlace` follows the buffer through the changes of a patch, so that what a fault leaves behind can be told. It is `Script.edit`
with the script as it was in the case of a fault (`Script.editInPlace_eq`), and an import that fails leaves what the entries in front
of the fault make (`Script.importEntries_eq_error_iff`).
-/

namespace SceneScript

open Bytes

/-! ## Patches in place -/

/-- Makes changes one after another in a buffer, and tells what is left of it. The first change that cannot be made ends this. -/
def performInPlace (buf : Bytes) : List Change → Bytes × Except ScriptError Unit
  | [] => (buf, .ok ())
  | change :: rest =>
    match change.perform buf with
    | .error e => (buf, .error e)
    | .ok next => performInPlace next rest

/-- Checks a patch against a buffer, and makes its changes there. -/
def Patch.applyInPlace (patch : Patch) (buf : Bytes) : Bytes × Except ScriptError Unit :=
  match patch.changes.foldlM Change.check buf.size with
  | .error e => (buf, .error e)
  | .ok _ => performInPlace buf patch.changes

theorem performInPlace_of_perform {changes : List Change} {buf out : Bytes} (h : changes.foldlM Change.perform buf = .ok out) :
    performInPlace buf changes = (out, .ok ()) := by
  induction changes generalizing buf with
  | nil =>
    cases h
    rfl
  | cons change rest ih =>
    obtain ⟨next, hnext, hrest⟩ := foldlM_perform_cons.1 h
    rw [performInPlace, hnext]
    exact ih hrest

/-- A change that passes its check can be made. -/
theorem Change.exists_perform_of_check {change : Change} {buf : Bytes} {size : Nat} (h : change.check buf.size = .ok size) :
    ∃ out, change.perform buf = .ok out := by
  cases change with
  | splice start stop content =>
    rw [check] at h
    split at h
    next hfits => exact ⟨_, if_pos hfits⟩
    next => cases h
  | word offset value =>
    rw [check] at h
    split at h
    next hfits =>
      obtain ⟨out, hout, -⟩ := exists_perform_word value hfits
      exact ⟨out, hout⟩
    next => cases h

/-- Changes that pass their checks can be made. -/
theorem exists_perform_of_check {changes : List Change} {buf : Bytes} {size : Nat}
    (h : changes.foldlM Change.check buf.size = .ok size) : ∃ out, changes.foldlM Change.perform buf = .ok out := by
  induction changes generalizing buf with
  | nil => exact ⟨buf, rfl⟩
  | cons change rest ih =>
    rw [List.foldlM_cons, bind_eq_ok_iff] at h
    obtain ⟨next, hcheck, hrest⟩ := h
    obtain ⟨made, hmade⟩ := change.exists_perform_of_check hcheck
    rw [Change.check_eq_of_perform_eq hmade, Except.ok.injEq] at hcheck
    subst hcheck
    obtain ⟨out, hout⟩ := ih hrest
    exact ⟨out, foldlM_perform_cons.2 ⟨made, hmade, hout⟩⟩

/-- A patch is made whole, or leaves the buffer as it was. -/
theorem Patch.applyInPlace_eq (patch : Patch) (buf : Bytes) :
    patch.applyInPlace buf =
      match patch.apply buf with
      | .ok out => (out, .ok ())
      | .error e => (buf, .error e) := by
  rw [applyInPlace, apply]
  cases hcheck : patch.changes.foldlM Change.check buf.size with
  | error e => rfl
  | ok size =>
    obtain ⟨out, hout⟩ := exists_perform_of_check hcheck
    simp only [bind, Except.bind, hout]
    exact performInPlace_of_perform hout

/-! ## Edits in place -/

namespace Script

/-- Replaces the text of a line in the file as it stands, and tells what is left of the script: the parts are brought in line once the
file is patched. -/
def editInPlace (script : Script) (index : Nat) (text : String) (cap : Nat) : Script × Except ScriptError EditOutcome :=
  match script.line index with
  | .error e => (script, .error e)
  | .ok line =>
    if line.text = text then (script, .ok ⟨index, 0, none⟩)
    else
      match script.planEdit index text cap with
      | .error e => (script, .error e)
      | .ok patch =>
        match patch.applyInPlace script.bytes with
        | (bytes, .error e) => ({ script with bytes }, .error e)
        | (bytes, .ok ()) => (script.rebase patch bytes, .ok ⟨index, patch.lengthDelta, patch.truncation⟩)

/-- An edit is made whole, or leaves the script as it was. -/
theorem editInPlace_eq (script : Script) (index : Nat) (text : String) (cap : Nat) :
    script.editInPlace index text cap =
      match script.edit index text cap with
      | .ok (edited, outcome) => (edited, .ok outcome)
      | .error e => (script, .error e) := by
  rw [editInPlace, edit]
  cases script.line index with
  | error e => rfl
  | ok line =>
    simp only [bind, Except.bind]
    by_cases hnew : line.text = text
    · rw [if_pos hnew, if_pos hnew]
      rfl
    · rw [if_neg hnew, if_neg hnew]
      cases script.planEdit index text cap with
      | error e => rfl
      | ok patch =>
        simp only [patch.applyInPlace_eq]
        cases patch.apply script.bytes <;> rfl

/-- What a failed edit leaves is the script as it was. -/
theorem editInPlace_eq_error_iff {script left : Script} {index cap : Nat} {text : String} {e : ScriptError} :
    script.editInPlace index text cap = (left, .error e) ↔ script.edit index text cap = .error e ∧ left = script := by
  rw [editInPlace_eq]
  cases script.edit index text cap with
  | error fault =>
    simp only [Prod.mk.injEq, Except.error.injEq]
    exact ⟨fun ⟨hleft, he⟩ => ⟨he, hleft.symm⟩, fun ⟨he, hleft⟩ => ⟨hleft.symm, he⟩⟩
  | ok result => simp only [Prod.mk.injEq, reduceCtorEq, and_false, false_and]

/-! ## Imports in place -/

/-- Edits the lines that the keys mean in place, one after another, and tells what is left of the script. -/
def importInPlace (script : Script) (cap : Nat) : List (String × String) → Script × Except ScriptError (List EditOutcome)
  | [] => (script, .ok [])
  | (key, text) :: rest =>
    match ImportKey.index key with
    | .error e => (script, .error e)
    | .ok index =>
      match script.editInPlace index text cap with
      | (left, .error e) => (left, .error e)
      | (edited, .ok outcome) =>
        let (final, outcomes) := edited.importInPlace cap rest
        (final, outcomes.map (outcome :: ·))

theorem importInPlace_eq (script : Script) (cap : Nat) (entries : List (String × String)) :
    script.importInPlace cap entries = script.importEntries cap entries := by
  induction entries generalizing script with
  | nil => rfl
  | cons entry rest ih =>
    obtain ⟨key, text⟩ := entry
    rw [importInPlace, importEntries, importEntry]
    cases ImportKey.index key with
    | error e => rfl
    | ok index =>
      simp only [bind, Except.bind, editInPlace_eq]
      cases script.edit index text cap with
      | error e => rfl
      | ok result => simp only [ih]

section

variable {script left : Script} {cap : Nat} {key text : String} {rest : List (String × String)} {e : ScriptError}

/-- An entry fails because of its key or because of the edit. -/
theorem importEntry_eq_error_iff : script.importEntry key text cap = .error e ↔
    ImportKey.index key = .error e ∨ ∃ index, ImportKey.index key = .ok index ∧ script.edit index text cap = .error e := by
  rw [importEntry]
  cases ImportKey.index key <;> simp [bind, Except.bind]

/-- The first entry is imported, and then the others are. -/
theorem importEntries_cons_eq_ok_iff {outcomes : List EditOutcome} :
    script.importEntries cap ((key, text) :: rest) = (left, .ok outcomes) ↔
      ∃ edited outcome others, script.importEntry key text cap = .ok (edited, outcome) ∧
        edited.importEntries cap rest = (left, .ok others) ∧ outcomes = outcome :: others := by
  rw [importEntries]
  cases script.importEntry key text cap with
  | error fault => simp
  | ok result =>
    obtain ⟨edited, outcome⟩ := result
    rcases hrest : edited.importEntries cap rest with ⟨final, _ | others⟩ <;> simp [hrest, Except.map, and_assoc, eq_comm]

/-- The first entry fails, or it is imported and one of the others fails. -/
theorem importEntries_cons_eq_error_iff :
    script.importEntries cap ((key, text) :: rest) = (left, .error e) ↔
      (script.importEntry key text cap = .error e ∧ left = script) ∨
      ∃ edited outcome, script.importEntry key text cap = .ok (edited, outcome) ∧ edited.importEntries cap rest = (left, .error e) := by
  rw [importEntries]
  cases script.importEntry key text cap with
  | error fault => simp [and_comm, eq_comm]
  | ok result =>
    obtain ⟨edited, outcome⟩ := result
    rcases hrest : edited.importEntries cap rest with ⟨final, _ | others⟩ <;> simp [hrest, Except.map]

end

/-- An import that fails does so at one of the entries, and leaves the script that the entries in front of it make. -/
theorem importEntries_eq_error_iff {script left : Script} {cap : Nat} {entries : List (String × String)} {e : ScriptError} :
    script.importEntries cap entries = (left, .error e) ↔
      ∃ front key text rest outcomes, entries = front ++ (key, text) :: rest ∧
        script.importEntries cap front = (left, .ok outcomes) ∧ left.importEntry key text cap = .error e := by
  induction entries generalizing script with
  | nil => simp [importEntries]
  | cons entry entries ih =>
    obtain ⟨key, text⟩ := entry
    rw [importEntries_cons_eq_error_iff]
    constructor
    · rintro (⟨hfault, rfl⟩ | ⟨edited, outcome, hfirst, hrest⟩)
      · exact ⟨[], key, text, entries, [], rfl, rfl, hfault⟩
      · obtain ⟨front, key', text', rest, outcomes, rfl, hfront, hfault⟩ := ih.1 hrest
        exact ⟨(key, text) :: front, key', text', rest, outcome :: outcomes, rfl,
          importEntries_cons_eq_ok_iff.2 ⟨edited, outcome, outcomes, hfirst, hfront, rfl⟩, hfault⟩
    · rintro ⟨front, key', text', rest, outcomes, hentries, hfront, hfault⟩
      cases front with
      | nil =>
        cases hentries
        cases hfront
        exact .inl ⟨hfault, rfl⟩
      | cons first front =>
        cases hentries
        obtain ⟨edited, outcome, others, hfirst, hothers, -⟩ := importEntries_cons_eq_ok_iff.1 hfront
        exact .inr ⟨edited, outcome, hfirst, ih.2 ⟨front, key', text', rest, others, rfl, hothers, hfault⟩⟩

/-! ## The two reasons -/

/-- Why an edit is refused: there is no such line, or the line has no terminator and is to have another text. -/
inductive RefusesEdit (script : Script) (index : Nat) (text : String) : ScriptError → Prop where
  | outOfRange (h : script.dialogue.length ≤ index) :
    RefusesEdit script index text (.dialogueOutOfRange index script.dialogue.length)
  | noTerminator {line : DialogueLine} (hline : script.dialogue[index]? = some line) (hnew : line.text ≠ text)
    (hempty : script.bytes.readUInt32 line.offset = .ok 0) :
    RefusesEdit script index text (.malformedHeader (.noTerminator index line.offset))

namespace LaidOut

variable {script : Script} {image : Image} {start : BlockEntry → UInt32} {line : DialogueLine}

/-- The symbol of a line stands at the position of the line. -/
theorem holds_line (h : script.LaidOut image start) (hline : line ∈ script.dialogue) :
    script.bytes.Holds line.offset (StoredText.written (image.texts.stored line.symbolIndex)) := by
  obtain ⟨hlt, hoffset⟩ := h.lines line hline
  rw [h.bytes, hoffset]
  exact image.holds_symbol _ _ start hlt

theorem size_stored_lt (h : script.LaidOut image start) (hsize : script.bytes.size < sizeLimit) (hline : line ∈ script.dialogue) :
    (image.texts.stored line.symbolIndex).size < sizeLimit := by
  have hle := (h.holds_line hline).le_size
  rw [StoredText.size_written] at hle
  omega

/-- The length of a line is read at its position. -/
theorem readUInt32_line (h : script.LaidOut image start) (hline : line ∈ script.dialogue) :
    script.bytes.readUInt32 line.offset = .ok (UInt32.ofNat (image.texts.stored line.symbolIndex).size) := by
  have hholds := h.holds_line hline
  rw [StoredText.written, holds_append] at hholds
  exact readUInt32_eq_ok_iff.2 hholds.1

/-- A line has no terminator exactly if its length is zero. -/
theorem readUInt32_line_eq_zero_iff (h : script.LaidOut image start) (hsize : script.bytes.size < sizeLimit)
    (hline : line ∈ script.dialogue) :
    script.bytes.readUInt32 line.offset = .ok 0 ↔ (image.texts.stored line.symbolIndex).size = 0 := by
  have hstored := h.size_stored_lt hsize hline
  rw [h.readUInt32_line hline, Except.ok.injEq, ← UInt32.toNat_inj, toNat_ofNat_of_lt hstored, UInt32.toNat_zero]

/-- The repairs fit the file, however long the new text is. -/
theorem isWriteWithin_repairs (h : script.LaidOut image start) {patch : Patch} {number : Nat} {bytes : Bytes}
    (hstores : patch.Stores image number bytes) :
    ∀ change ∈ script.repairs patch, change.IsWriteWithin (image.retext number bytes).toBytes.size := by
  have hsize := Image.size_toBytes (image.retext number bytes)
  have hbase : (image.retext number bytes).base = (image.texts.retext number bytes).symbolsEnd + 8 * image.entries.length := rfl
  have hstart : image.texts.identityBytes.size + 12 ≤ (image.texts.retext number bytes).symbolsEnd := Nat.le_add_right ..
  have hends := Texts.symbolsEnd_retext bytes hstores.index_lt hstores.size_pos
  have hoffset := hstores.offset_lt
  intro change hchange
  rw [repairs, h.header] at hchange
  simp only [Image.header, Texts.header, List.mem_cons, List.mem_map] at hchange
  rcases hchange with rfl | rfl | ⟨block, hblock, rfl⟩
  · rw [Change.IsWriteWithin, hstores.moved_of_le (by simp only [Texts.symbolsStart]; omega)]
    omega
  · rw [Change.IsWriteWithin, hstores.moved_of_le (by simp only [Texts.symbolsStart]; omega)]
    omega
  · obtain ⟨distance, entry, -, hplace, hle⟩ := exists_of_mem_entryPlaces (h.place_mem hblock)
    have haddress : block.address = image.texts.symbolsEnd + distance := congrArg Prod.fst hplace
    have hmoved : patch.moved block.address ≤ (image.texts.retext number bytes).symbolsEnd + distance := by
      refine Patch.moved_le (by omega) ?_
      rw [hstores.lengthDelta, haddress]
      omega
    have hmod := Nat.mod_le (patch.moved block.address + 4) UInt64.size
    rw [Change.IsWriteWithin]
    simp only [Header.blockEntrySize] at hle
    omega

/-- A line without a terminator gets no patch. -/
theorem planEdit_of_size_eq_zero (h : script.LaidOut image start) {index : Nat} (hline : script.line index = .ok line)
    (hempty : (image.texts.stored line.symbolIndex).size = 0) (text : String) (cap : Nat) :
    script.planEdit index text cap = .error (.malformedHeader (.noTerminator index line.offset)) := by
  have hterminated : (UInt32.ofNat 0).toInt32 < 1 := by decide
  rw [planEdit, hline]
  simp only [bind, Except.bind, readInt32, h.readUInt32_line (mem_of_line hline), hempty, pure, Except.pure, if_pos hterminated, throw,
    throwThe, MonadExceptOf.throw]

/-- A line with a terminator gets a patch that fits the file. -/
theorem exists_patch (h : script.LaidOut image start) (hsize : script.bytes.size < sizeLimit) {index : Nat}
    (hline : script.line index = .ok line) (hpos : 0 < (image.texts.stored line.symbolIndex).size) (text : String) (cap : Nat) :
    ∃ patch bytes, script.planEdit index text cap = .ok patch ∧ patch.apply script.bytes = .ok bytes := by
  obtain ⟨hlt, hoffset⟩ := h.lines line (mem_of_line hline)
  have hstored := h.size_stored_lt hsize (mem_of_line hline)
  have hread := StoredText.readBytes_eq_ok_iff.2 ⟨_, hstored, h.holds_line (mem_of_line hline), rfl, rfl⟩
  have hterminated : ¬ (UInt32.ofNat (image.texts.stored line.symbolIndex).size).toInt32 < 1 := by
    rw [toInt32_ofNat_lt_one_iff hstored]
    omega
  obtain ⟨patch, hplan, hstores, hchanges⟩ : ∃ patch, script.planEdit index text cap = .ok patch ∧
      patch.Stores image line.symbolIndex (script.encoding.capLine text cap).bytes.toArray ∧
      patch.changes = image.storing line.symbolIndex (script.encoding.capLine text cap).bytes.toArray :: script.repairs patch := by
    rw [planEdit, hline, Encoding.capLine]
    generalize script.encoding.encodeCapped (LineBreak.escape text) cap = capped
    simp only [bind, Except.bind, readInt32, h.readUInt32_line (mem_of_line hline), pure, Except.pure, if_neg hterminated, hread]
    refine ⟨_, rfl, ⟨hlt, hpos, hoffset, rfl, rfl⟩, ?_⟩
    rw [hoffset]
    exact congrArg (_ :: ·) (script.repairs_congr rfl rfl)
  have hwrites := h.isWriteWithin_repairs hstores
  rw [← Image.size_bytesWith _ (UInt32.ofNat image.texts.symbolsEnd) (UInt32.ofNat image.base) start] at hwrites
  obtain ⟨bytes, hbytes, -⟩ := exists_foldlM_perform hwrites
  refine ⟨patch, bytes, hplan, Patch.apply_eq_ok_iff.2 ?_⟩
  rw [hchanges, h.bytes]
  exact foldlM_perform_cons.2 ⟨_, Image.perform_storing _ hlt hpos _ _ _, hbytes⟩

/-- An edit fails for one of the two reasons, and for no other. -/
theorem edit_eq_error_iff (h : script.LaidOut image start) (hsize : script.bytes.size < sizeLimit) (index : Nat) (text : String)
    (cap : Nat) (e : ScriptError) : script.edit index text cap = .error e ↔ script.RefusesEdit index text e := by
  cases hread : script.dialogue[index]? with
  | none =>
    have hline : script.line index = .error (.dialogueOutOfRange index script.dialogue.length) := by rw [Script.line, hread]
    have hedit : script.edit index text cap = .error (.dialogueOutOfRange index script.dialogue.length) := by
      rw [edit, hline]
      rfl
    rw [hedit, Except.error.injEq]
    constructor
    · rintro rfl
      exact .outOfRange (List.getElem?_eq_none_iff.1 hread)
    · rintro (_ | ⟨hline, -, -⟩)
      · rfl
      · rw [hread] at hline
        cases hline
  | some line =>
    have hline := line_eq_ok_iff.2 hread
    have hmem := List.mem_of_getElem? hread
    have hrefused : script.RefusesEdit index text e ↔ line.text ≠ text ∧ (image.texts.stored line.symbolIndex).size = 0 ∧
        e = .malformedHeader (.noTerminator index line.offset) := by
      constructor
      · rintro (hout | ⟨hother, hnew, hempty⟩)
        · rw [List.getElem?_eq_none hout] at hread
          cases hread
        · rw [hread, Option.some.injEq] at hother
          subst hother
          exact ⟨hnew, (h.readUInt32_line_eq_zero_iff hsize hmem).1 hempty, rfl⟩
      · rintro ⟨hnew, hempty, rfl⟩
        exact .noTerminator hread hnew ((h.readUInt32_line_eq_zero_iff hsize hmem).2 hempty)
    rw [hrefused, edit, hline]
    simp only [bind, Except.bind]
    by_cases hnew : line.text = text
    · rw [if_pos hnew]
      simp only [pure, Except.pure, reduceCtorEq, hnew, ne_eq, not_true_eq_false, false_and]
    · rw [if_neg hnew]
      by_cases hempty : (image.texts.stored line.symbolIndex).size = 0
      · rw [h.planEdit_of_size_eq_zero hline hempty]
        simp only [Except.error.injEq, ne_eq, hnew, not_false_eq_true, hempty, true_and, eq_comm]
      · obtain ⟨patch, bytes, hplan, hbytes⟩ := h.exists_patch hsize hline (Nat.pos_of_ne_zero hempty) text cap
        simp only [hplan, hbytes, pure, Except.pure, reduceCtorEq, hempty, false_and, and_false]

end LaidOut

/-- An edit of a script that edits have led to fails exactly if there is no such line, or if the line has no terminator and is to have
another text. A failed edit leaves the script as it was, and a failed import leaves what the entries in front of the fault make. -/
theorem ExactTables.edit_fails_iff {catalog : Catalog} {script state : Script} (h : script.ExactTables catalog)
    (hstate : script.Reaches state) :
    (∀ index text cap e, state.edit index text cap = .error e ↔ state.RefusesEdit index text e) ∧
    (∀ index text cap left e, state.editInPlace index text cap = (left, .error e) ↔ state.RefusesEdit index text e ∧ left = state) ∧
    ∀ cap entries left e, state.importInPlace cap entries = (left, .error e) ↔
      ∃ front key text rest outcomes, entries = front ++ (key, text) :: rest ∧ state.importInPlace cap front = (left, .ok outcomes) ∧
        (ImportKey.index key = .error e ∨ ∃ index, ImportKey.index key = .ok index ∧ left.edit index text cap = .error e) := by
  obtain ⟨-, hsize, image, start, hlaid⟩ := Reaches.aligned h hstate
  refine ⟨hlaid.edit_eq_error_iff hsize, ?_, ?_⟩
  · intro index text cap left e
    rw [editInPlace_eq_error_iff, hlaid.edit_eq_error_iff hsize]
  · intro cap entries left e
    simp only [importInPlace_eq, importEntries_eq_error_iff, importEntry_eq_error_iff]

/-- The sample has two lines after its requests, so that an edit of the eighth fails and leaves it as it was. -/
theorem edit_fails_sample : sample.ExactTables Catalog.sample ∧ sample.Reaches (sample.runEdits sampleRequests) ∧
    (sample.runEdits sampleRequests).editInPlace 7 "" 256 =
      (sample.runEdits sampleRequests, .error (.dialogueOutOfRange 7 2)) := by
  have hreaches := exists_edit_sample.1
  have hlength : (sample.runEdits sampleRequests).dialogue.length = 2 := by
    obtain ⟨hrun, -⟩ := Image.runEdits_script Image.valid_sample Image.fits_sample staysSmall_sample
    rw [sample, hrun]
    rfl
  refine ⟨consistent_sample.toExactTables, hreaches, ?_⟩
  refine ((consistent_sample.toExactTables.edit_fails_iff hreaches).2.1 7 "" 256 _ _).2 ⟨?_, rfl⟩
  rw [← hlength]
  exact .outOfRange (by rw [hlength]; decide)

end Script

end SceneScript
