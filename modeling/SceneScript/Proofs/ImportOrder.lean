import SceneScript.Proofs.EditRuns

/-!
# Imports in any order

Entries for different lines can be imported in any order. Two edits of different lines of an image can be swapped
(`Image.edit?_comm`), so that all orders of the entries leave the same image (`Image.import?_perm`), and with it the same script
(`Script.ExactTables.importEntries_perm`). This needs blocks that start at signed positions: a start at the largest word is carried past
it by one order of the entries, and by another one it is not (`Script.importEntries_perm_false`).
-/

namespace SceneScript

/-! ## Edits of two lines -/

/-- Different lines are different symbols if no symbol is two lines. -/
theorem View.symbolIndex_ne {view : View} (hnodup : (view.marks.map (·.symbolIndex)).Nodup) {index other : Nat}
    (hne : index ≠ other) {mark mark' : LineMark} (hmark : view.marks[index]? = some mark)
    (hmark' : view.marks[other]? = some mark') : mark.symbolIndex ≠ mark'.symbolIndex := by
  intro heq
  obtain ⟨hlt, -⟩ := List.getElem?_eq_some_iff.1 hmark
  refine hne ((List.getElem?_inj (by simpa using hlt) hnodup).1 ?_)
  rw [List.getElem?_map, List.getElem?_map, hmark, hmark', Option.map_some, Option.map_some, heq]

/-- No symbol is two lines of a view that has just been read. -/
theorem SymbolTable.nodup_symbolIndex_marks (table : SymbolTable) : (table.marks.map (·.symbolIndex)).Nodup := by
  have hlines := Dialogue.nodup_symbolIndex_extract table
  rw [marks, List.map_map]
  exact hlines

namespace Image

variable {image edited final : Image} {view : View} {index other cap : Nat} {text text' : String}
  {outcome outcome' : EditOutcome}

/-- Another text for a symbol does not matter to the edit of a line that is a different symbol. -/
theorem edit?_retext {mark : LineMark} {number : Nat} (hmark : view.marks[index]? = some mark) (h : number ≠ mark.symbolIndex)
    (bytes : Bytes) :
    (image.retext number bytes).edit? view index text cap =
      (image.edit? view index text cap).map fun result => (result.1.retext number bytes, result.2) := by
  have hline : ((image.texts.retext number bytes).line view.encoding mark).text = (image.texts.line view.encoding mark).text := by
    simp only [Texts.line, Texts.symbolText_retext_of_ne h]
  simp only [edit?, hmark, texts_retext, hline, Texts.stored_retext_of_ne h]
  split
  · rfl
  · split
    · rfl
    · rw [Option.map_some, retext_comm h]

/-- Edits of two different lines can be swapped. -/
theorem edit?_comm (hnodup : (view.marks.map (·.symbolIndex)).Nodup) (hne : index ≠ other)
    (h : image.edit? view index text cap = some (edited, outcome))
    (h' : edited.edit? view other text' cap = some (final, outcome')) :
    ∃ between, image.edit? view other text' cap = some (between, outcome') ∧
      between.edit? view index text cap = some (final, outcome) := by
  obtain ⟨mark, hmark, -, hedited⟩ := exists_mark_of_edit? h
  obtain ⟨mark', hmark', -, hfinal⟩ := exists_mark_of_edit? h'
  have hsymbol : mark.symbolIndex ≠ mark'.symbolIndex := View.symbolIndex_ne hnodup hne hmark hmark'
  rcases hedited with rfl | ⟨bytes, rfl⟩
  · rcases hfinal with rfl | ⟨bytes', rfl⟩
    · exact ⟨_, h', h⟩
    · refine ⟨_, h', ?_⟩
      rw [edit?_retext hmark hsymbol.symm, h, Option.map_some]
  · rw [edit?_retext hmark' hsymbol, Option.map_eq_some_iff] at h'
    obtain ⟨⟨between, _⟩, hbetween, heq⟩ := h'
    cases heq
    refine ⟨between, hbetween, ?_⟩
    obtain ⟨same, hsame, -, hstored⟩ := exists_mark_of_edit? hbetween
    rw [hmark', Option.some.injEq] at hsame
    subst hsame
    rcases hstored with rfl | ⟨bytes', rfl⟩
    · exact h
    · rw [edit?_retext hmark hsymbol.symm, h, Option.map_some, retext_comm hsymbol]

/-! ## Imports into images -/

/-- Replaces the text of the line that a key means in an image. -/
def importEntry? (view : View) (cap : Nat) (image : Image) (entry : String × String) : Option (Image × EditOutcome) :=
  match ImportKey.index entry.1 with
  | .ok index => image.edit? view index entry.2 cap
  | .error _ => none

/-- Replaces the texts of the lines that the keys mean in an image, one after another. -/
def import? (view : View) (cap : Nat) (image : Image) : List (String × String) → Option (Image × List EditOutcome)
  | [] => some (image, [])
  | entry :: rest => do
    let (edited, outcome) ← image.importEntry? view cap entry
    let (final, outcomes) ← edited.import? view cap rest
    some (final, outcome :: outcomes)

theorem importEntry?_eq_some_iff {entry : String × String} :
    image.importEntry? view cap entry = some (edited, outcome) ↔
      ∃ index, ImportKey.index entry.1 = .ok index ∧ image.edit? view index entry.2 cap = some (edited, outcome) := by
  unfold importEntry?
  cases ImportKey.index entry.1 <;> simp

/-- An import starts with the first entry. -/
theorem import?_cons_eq_some_iff {entry : String × String} {rest : List (String × String)} {outcomes : List EditOutcome} :
    image.import? view cap (entry :: rest) = some (final, outcomes) ↔
      ∃ edited outcome outcomes', image.importEntry? view cap entry = some (edited, outcome) ∧
        edited.import? view cap rest = some (final, outcomes') ∧ outcomes = outcome :: outcomes' := by
  simp only [import?, Option.bind_eq_bind, Option.bind_eq_some_iff, Prod.exists, Option.some.injEq, Prod.mk.injEq]
  constructor
  · rintro ⟨edited, outcome, hentry, last, outcomes', hrest, rfl, rfl⟩
    exact ⟨edited, outcome, outcomes', hentry, hrest, rfl⟩
  · rintro ⟨edited, outcome, outcomes', hentry, hrest, rfl⟩
    exact ⟨edited, outcome, hentry, final, outcomes', hrest, rfl, rfl⟩

/-- Entries for two different lines can be swapped. -/
theorem importEntry?_comm (hnodup : (view.marks.map (·.symbolIndex)).Nodup) {first second : String × String}
    (hne : ImportKey.index first.1 ≠ ImportKey.index second.1)
    (h : image.importEntry? view cap first = some (edited, outcome))
    (h' : edited.importEntry? view cap second = some (final, outcome')) :
    ∃ between, image.importEntry? view cap second = some (between, outcome') ∧
      between.importEntry? view cap first = some (final, outcome) := by
  obtain ⟨index, hkey, hedit⟩ := importEntry?_eq_some_iff.1 h
  obtain ⟨other, hkey', hedit'⟩ := importEntry?_eq_some_iff.1 h'
  have hindex : index ≠ other := by
    rintro rfl
    exact hne (hkey.trans hkey'.symm)
  obtain ⟨between, hbetween, hfinal⟩ := edit?_comm hnodup hindex hedit hedit'
  exact ⟨between, importEntry?_eq_some_iff.2 ⟨other, hkey', hbetween⟩, importEntry?_eq_some_iff.2 ⟨index, hkey, hfinal⟩⟩

/-- The outcomes are about the lines that the keys mean, in the order of the entries. -/
theorem map_index_of_import? {entries : List (String × String)} {outcomes : List EditOutcome}
    (h : image.import? view cap entries = some (final, outcomes)) :
    entries.map (fun entry => ImportKey.index entry.1) = outcomes.map fun outcome => .ok outcome.index := by
  induction entries generalizing image outcomes with
  | nil =>
    cases h
    rfl
  | cons entry rest ih =>
    obtain ⟨edited, outcome, outcomes', hentry, hrest, rfl⟩ := import?_cons_eq_some_iff.1 h
    obtain ⟨index, hkey, hedit⟩ := importEntry?_eq_some_iff.1 hentry
    obtain ⟨-, -, hindex, -⟩ := exists_mark_of_edit? hedit
    rw [List.map_cons, List.map_cons, hkey, hindex, ih hrest]

/-- Entries for different lines can be imported in any order. -/
theorem import?_perm (hnodup : (view.marks.map (·.symbolIndex)).Nodup) {entries entries' : List (String × String)}
    (hperm : entries.Perm entries') (hdistinct : entries.Pairwise fun a b => ImportKey.index a.1 ≠ ImportKey.index b.1)
    {outcomes : List EditOutcome} (h : image.import? view cap entries = some (final, outcomes)) :
    ∃ outcomes', image.import? view cap entries' = some (final, outcomes') ∧ outcomes'.Perm outcomes := by
  induction hperm generalizing image outcomes with
  | nil => exact ⟨outcomes, h, .refl _⟩
  | cons entry _ ih =>
    obtain ⟨edited, outcome, rest, hentry, hrest, rfl⟩ := import?_cons_eq_some_iff.1 h
    obtain ⟨rest', hrest', hperm'⟩ := ih (List.pairwise_cons.1 hdistinct).2 hrest
    exact ⟨_, import?_cons_eq_some_iff.2 ⟨edited, outcome, rest', hentry, hrest', rfl⟩, hperm'.cons _⟩
  | swap first second =>
    obtain ⟨edited, outcome, _, hentry, hthen, rfl⟩ := import?_cons_eq_some_iff.1 h
    obtain ⟨edited', outcome', rest, hentry', hrest, rfl⟩ := import?_cons_eq_some_iff.1 hthen
    have hne := (List.pairwise_cons.1 hdistinct).1 first (List.mem_cons_self ..)
    obtain ⟨between, hbetween, hfinal⟩ := importEntry?_comm hnodup hne hentry hentry'
    have hthen' := import?_cons_eq_some_iff.2 ⟨edited', outcome, rest, hfinal, hrest, rfl⟩
    exact ⟨_, import?_cons_eq_some_iff.2 ⟨between, outcome', _, hbetween, hthen', rfl⟩, .swap ..⟩
  | trans hperm₁ _ ih₁ ih₂ =>
    -- That the lines are different carries over to the order in the middle.
    obtain ⟨middle, hmiddle, hfirst⟩ := ih₁ hdistinct h
    have hdistinct' := (hperm₁.pairwise_iff (fun hne => Ne.symm hne)).1 hdistinct
    obtain ⟨last, hlast, hsecond⟩ := ih₂ hdistinct' hmiddle
    exact ⟨last, hlast, hsecond.trans hfirst⟩

end Image

/-! ## Imports into scripts -/

namespace Script

/-- While entries are imported, the file stays small enough for its positions to be signed words. -/
def ImportStaysSmall (script : Script) (cap : Nat) (entries : List (String × String)) : Prop :=
  ∀ front, front <+: entries → (script.importEntries cap front).1.bytes.size < sizeLimit

theorem ImportStaysSmall.size_lt {script : Script} {cap : Nat} {entries : List (String × String)}
    (h : script.ImportStaysSmall cap entries) : script.bytes.size < sizeLimit :=
  h [] List.nil_prefix

theorem importStaysSmall_nil {script : Script} (cap : Nat) (h : script.bytes.size < sizeLimit) : script.ImportStaysSmall cap [] := by
  intro front hfront
  rw [List.prefix_nil.1 hfront]
  exact h

/-- The file stays small if it does after the first entry. -/
theorem importStaysSmall_cons_of_ok {script edited : Script} {cap : Nat} {entry : String × String} {rest : List (String × String)}
    {outcome : EditOutcome} (h : script.bytes.size < sizeLimit) (hedit : script.importEntry entry.1 entry.2 cap = .ok (edited, outcome))
    (hrest : edited.ImportStaysSmall cap rest) : script.ImportStaysSmall cap (entry :: rest) := by
  intro front hfront
  cases front with
  | nil => exact h
  | cons first front =>
    obtain ⟨rfl, hthen⟩ := List.cons_prefix_cons.1 hfront
    simp only [importEntries, hedit]
    exact hrest front hthen

/-- An entry that is refused ends the import. -/
theorem importStaysSmall_cons_of_error {script : Script} {cap : Nat} {entry : String × String} {rest : List (String × String)}
    {e : ScriptError} (h : script.bytes.size < sizeLimit) (hedit : script.importEntry entry.1 entry.2 cap = .error e) :
    script.ImportStaysSmall cap (entry :: rest) := by
  intro front hfront
  cases front with
  | nil => exact h
  | cons first front =>
    obtain ⟨rfl, -⟩ := List.cons_prefix_cons.1 hfront
    simp only [importEntries, hedit]
    exact h

theorem ImportStaysSmall.tail {script edited : Script} {cap : Nat} {entry : String × String} {rest : List (String × String)}
    {outcome : EditOutcome} (h : script.ImportStaysSmall cap (entry :: rest))
    (hedit : script.importEntry entry.1 entry.2 cap = .ok (edited, outcome)) : edited.ImportStaysSmall cap rest := by
  intro front hfront
  have hsize := h (entry :: front) (List.cons_prefix_cons.2 ⟨rfl, hfront⟩)
  simpa only [importEntries, hedit] using hsize

end Script

namespace Image

variable {image : Image} {view : View} {cap : Nat} {entry : String × String} {entries : List (String × String)}

/-- Where an entry is refused by an image, so it is by its script. -/
theorem importEntry_script_of_none (hvalid : image.Valid view.encoding) (hfits : view.Fits image)
    (h : image.importEntry? view cap entry = none) : ∃ e, (image.script view).importEntry entry.1 entry.2 cap = .error e := by
  unfold importEntry? at h
  unfold Script.importEntry
  cases hkey : ImportKey.index entry.1 with
  | error e => exact ⟨e, rfl⟩
  | ok index =>
    rw [hkey] at h
    exact edit_script_of_none hvalid hfits h

/-- An entry that is imported into an image is imported into its script, too. While the file stays small enough, it leaves the
script of the new image. -/
theorem exists_importEntry_script (hvalid : image.Valid view.encoding) (hfits : view.Fits image) {edited : Image}
    {outcome : EditOutcome} (h : image.importEntry? view cap entry = some (edited, outcome)) :
    ∃ script, (image.script view).importEntry entry.1 entry.2 cap = .ok (script, outcome) ∧
      script.bytes.size = edited.toBytes.size ∧ (edited.toBytes.size < sizeLimit →
        script = edited.script view ∧ edited.Valid view.encoding ∧ view.Fits edited) := by
  obtain ⟨index, hkey, hedit⟩ := importEntry?_eq_some_iff.1 h
  obtain ⟨script, hscript, hsize, heq⟩ := exists_edit_script hvalid hfits hedit
  refine ⟨script, ?_, hsize, fun hlt => ⟨heq hlt, hvalid.of_edit? hedit hlt, hfits.of_retexted (retexted_of_edit? hedit)⟩⟩
  simp only [Script.importEntry, hkey, bind, Except.bind, hscript]

/-- While the file stays small enough, an import into an image does the same to its script. -/
theorem importEntries_script (hvalid : image.Valid view.encoding) (hfits : view.Fits image)
    (hsmall : (image.script view).ImportStaysSmall cap entries) {final : Image} {outcomes : List EditOutcome}
    (h : image.import? view cap entries = some (final, outcomes)) :
    (image.script view).importEntries cap entries = (final.script view, .ok outcomes) := by
  induction entries generalizing image outcomes with
  | nil =>
    cases h
    rfl
  | cons entry rest ih =>
    obtain ⟨edited, outcome, outcomes', hentry, hrest, rfl⟩ := import?_cons_eq_some_iff.1 h
    obtain ⟨script, hscript, hsize, hedited⟩ := exists_importEntry_script hvalid hfits hentry
    have hsmall' := hsmall.tail hscript
    obtain ⟨rfl, hvalid', hfits'⟩ := hedited (by rw [← hsize]; exact hsmall'.size_lt)
    simp only [Script.importEntries, hscript, ih hvalid' hfits' hsmall' hrest, Except.map]

/-- Where an import into an image is refused, so is that into its script. -/
theorem importEntries_script_of_none (hvalid : image.Valid view.encoding) (hfits : view.Fits image)
    (hsmall : (image.script view).ImportStaysSmall cap entries) (h : image.import? view cap entries = none) :
    ∃ e, ((image.script view).importEntries cap entries).2 = .error e := by
  induction entries generalizing image with
  | nil => nomatch h
  | cons entry rest ih =>
    cases hentry : image.importEntry? view cap entry with
    | none =>
      obtain ⟨e, he⟩ := importEntry_script_of_none hvalid hfits hentry
      refine ⟨e, ?_⟩
      simp only [Script.importEntries, he]
    | some result =>
      obtain ⟨script, hscript, hsize, hedited⟩ := exists_importEntry_script hvalid hfits hentry
      have hsmall' := hsmall.tail hscript
      obtain ⟨rfl, hvalid', hfits'⟩ := hedited (by rw [← hsize]; exact hsmall'.size_lt)
      have hnone : result.1.import? view cap rest = none := by
        rw [Option.eq_none_iff_forall_ne_some]
        intro last hlast
        have hsome := import?_cons_eq_some_iff.2 ⟨result.1, result.2, last.2, hentry, hlast, rfl⟩
        rw [h] at hsome
        nomatch hsome
      obtain ⟨e, he⟩ := ih hvalid' hfits' hsmall' hnone
      refine ⟨e, ?_⟩
      simp only [Script.importEntries, hscript, he, Except.map]

/-- The file stays small during an import if it would with all the bytes that the entries may add. -/
theorem importStaysSmall_script (hvalid : image.Valid view.encoding) (hfits : view.Fits image)
    (hsize : image.toBytes.size + cap * entries.length < sizeLimit) : (image.script view).ImportStaysSmall cap entries := by
  induction entries generalizing image with
  | nil => exact Script.importStaysSmall_nil cap hsize
  | cons entry rest ih =>
    have hlt : image.toBytes.size < sizeLimit := Nat.lt_of_le_of_lt (Nat.le_add_right ..) hsize
    rw [List.length_cons, Nat.mul_succ] at hsize
    cases hentry : image.importEntry? view cap entry with
    | none =>
      obtain ⟨e, he⟩ := importEntry_script_of_none hvalid hfits hentry
      exact Script.importStaysSmall_cons_of_error hlt he
    | some result =>
      obtain ⟨script, hscript, -, hedited⟩ := exists_importEntry_script hvalid hfits hentry
      obtain ⟨index, -, hedit⟩ := importEntry?_eq_some_iff.1 hentry
      have hgrown := size_toBytes_of_edit? hfits hedit
      obtain ⟨rfl, hvalid', hfits'⟩ := hedited (by omega)
      exact Script.importStaysSmall_cons_of_ok hlt hscript (ih hvalid' hfits' (by omega))

end Image

/-- Entries for different lines can be imported in any order: they leave the same script, and the same is reported of each line. The
blocks start at signed positions, so that no start is carried past the largest word. -/
theorem Script.ExactTables.importEntries_perm {catalog : Catalog} {script : Script} (h : script.ExactTables catalog)
    (hstart : ∀ block ∈ script.blocks, block.start.toNat < sizeLimit) {cap : Nat} {entries entries' : List (String × String)}
    (hperm : entries.Perm entries') (hdistinct : entries.Pairwise fun a b => ImportKey.index a.1 ≠ ImportKey.index b.1)
    (hsmall : script.ImportStaysSmall cap entries) (hsmall' : script.ImportStaysSmall cap entries') {final : Script}
    {outcomes : List EditOutcome} (himport : script.importEntries cap entries = (final, .ok outcomes)) :
    ∃ outcomes', script.importEntries cap entries' = (final, .ok outcomes') ∧ outcomes'.Perm outcomes ∧
      entries'.map (fun entry => ImportKey.index entry.1) = outcomes'.map fun outcome => .ok outcome.index := by
  obtain ⟨image, units, hvalid, hruns, hnamed, hscript⟩ := h.exists_image hsmall.size_lt hstart
  generalize script.encoding = encoding at hvalid hnamed hscript
  subst hscript
  have hfits := Image.fits_freshView hruns hnamed
  cases hedits : image.import? (image.freshView encoding units) cap entries with
  | none =>
    obtain ⟨e, he⟩ := Image.importEntries_script_of_none hvalid hfits hsmall hedits
    rw [himport] at he
    nomatch he
  | some result =>
    have hrun := Image.importEntries_script hvalid hfits hsmall hedits
    rw [himport, Prod.mk.injEq, Except.ok.injEq] at hrun
    obtain ⟨rfl, rfl⟩ := hrun
    have hnodup := SymbolTable.nodup_symbolIndex_marks (image.texts.symbolTable encoding)
    obtain ⟨outcomes', hedits', hperm'⟩ := Image.import?_perm hnodup hperm hdistinct hedits
    exact ⟨outcomes', Image.importEntries_script hvalid hfits hsmall' hedits', hperm', Image.map_index_of_import? hedits'⟩

/-- Entries for both lines of the sample. -/
def Script.sampleEntries : List (String × String) :=
  [("0000_KYN", "Hello there."), ("0001_HRH", "See you.")]

theorem Script.importStaysSmall_sample (entries : List (String × String)) (h : entries.length = 2) :
    sample.ImportStaysSmall 256 entries := by
  refine Image.importStaysSmall_script Image.valid_sample Image.fits_sample ?_
  rw [Image.size_toBytes, h]
  decide

/-- Both lines of the sample are given other texts. -/
theorem Script.importEntries_sample :
    sample.importEntries 256 sampleEntries =
      (((Image.sample.retext 1 #[72, 101, 108, 108, 111, 32, 116, 104, 101, 114, 101, 46]).retext 3
        #[83, 101, 101, 32, 121, 111, 117, 46]).script View.sample, .ok [⟨0, 9, none⟩, ⟨1, 4, none⟩]) :=
  Image.importEntries_script Image.valid_sample Image.fits_sample (importStaysSmall_sample _ rfl) (by rfl)

/-- The entries for the sample can be imported in the other order. -/
theorem Script.importEntries_reverse_sample :
    sample.ExactTables Catalog.sample ∧ (∀ block ∈ sample.blocks, block.start.toNat < sizeLimit) ∧
      (sampleEntries.Pairwise fun a b => ImportKey.index a.1 ≠ ImportKey.index b.1) ∧
      sample.ImportStaysSmall 256 sampleEntries ∧ sample.ImportStaysSmall 256 sampleEntries.reverse ∧
      ∃ final outcomes, sample.importEntries 256 sampleEntries = (final, .ok outcomes) ∧
        ∃ outcomes', sample.importEntries 256 sampleEntries.reverse = (final, .ok outcomes') ∧ outcomes'.Perm outcomes ∧
          sampleEntries.reverse.map (fun entry => ImportKey.index entry.1) = outcomes'.map fun outcome => .ok outcome.index := by
  have hstart : ∀ block ∈ sample.blocks, block.start.toNat < sizeLimit := by decide +kernel
  have hdistinct : sampleEntries.Pairwise fun a b => ImportKey.index a.1 ≠ ImportKey.index b.1 := by decide +kernel
  have hsmall := importStaysSmall_sample sampleEntries rfl
  have hsmall' := importStaysSmall_sample sampleEntries.reverse rfl
  exact ⟨consistent_sample.toExactTables, hstart, hdistinct, hsmall, hsmall', _, _, importEntries_sample,
    consistent_sample.toExactTables.importEntries_perm hstart (List.reverse_perm _).symm hdistinct hsmall hsmall'
      importEntries_sample⟩

/-! ## A start that one order carries further -/

/-- Entries that make the first line of the sample longer by one byte, and the second one shorter. -/
def Script.sampleExchange : List (String × String) :=
  [("0000_KYN", "Hi!!"), ("0001_HRH", "Bye")]

/-- Importing entries in another order may leave another script. The first of these entries carries the start of the block past the
largest word, to the first byte of the file, where the second one leaves it. In the other order the start comes back to where it was. -/
theorem Script.importEntries_perm_false :
    sampleFar.ExactTables Catalog.sample ∧ (sampleExchange.Pairwise fun a b => ImportKey.index a.1 ≠ ImportKey.index b.1) ∧
      sampleFar.ImportStaysSmall 256 sampleExchange ∧ sampleFar.ImportStaysSmall 256 sampleExchange.reverse ∧
      ∃ final other, sampleFar.importEntries 256 sampleExchange = (final, .ok [⟨0, 1, none⟩, ⟨1, -1, none⟩]) ∧
        sampleFar.importEntries 256 sampleExchange.reverse = (other, .ok [⟨1, -1, none⟩, ⟨0, 1, none⟩]) ∧
        final.bytes.readUInt32 95 = .ok 0 ∧ other.bytes.readUInt32 95 = .ok 4294967295 := by
  have hrun : (do
      let (grown, first) ← sampleFar.importEntry "0000_KYN" "Hi!!" 256
      let (final, second) ← grown.importEntry "0001_HRH" "Bye" 256
      return (first, second, grown.bytes.size, final.bytes.size, final.bytes.readUInt32 95)) =
        .ok (⟨0, 1, none⟩, ⟨1, -1, none⟩, 100, 99, .ok 0) := by
    decide +kernel
  have hreverse : (do
      let (shrunk, first) ← sampleFar.importEntry "0001_HRH" "Bye" 256
      let (other, second) ← shrunk.importEntry "0000_KYN" "Hi!!" 256
      return (first, second, shrunk.bytes.size, other.bytes.size, other.bytes.readUInt32 95)) =
        .ok (⟨1, -1, none⟩, ⟨0, 1, none⟩, 98, 99, .ok 4294967295) := by
    decide +kernel
  simp only [bind_eq_ok_iff, pure_eq_ok_iff, Prod.exists, Prod.mk.injEq] at hrun hreverse
  obtain ⟨grown, _, hgrow, final, _, hfinal, rfl, rfl, hgrown, hsize, hstart⟩ := hrun
  obtain ⟨shrunk, _, hshrink, other, _, hother, rfl, rfl, hshrunk, hsize', hstart'⟩ := hreverse
  have hsmall : sampleFar.bytes.size < sizeLimit := by decide +kernel
  have hlimit : 100 < sizeLimit := by decide
  refine ⟨exactTables_sampleFar, by decide +kernel,
    importStaysSmall_cons_of_ok hsmall hgrow (importStaysSmall_cons_of_ok (by omega) hfinal (importStaysSmall_nil 256 (by omega))),
    importStaysSmall_cons_of_ok hsmall hshrink (importStaysSmall_cons_of_ok (by omega) hother (importStaysSmall_nil 256 (by omega))),
    final, other, ?_, ?_, hstart, hstart'⟩
  · simp only [sampleExchange, importEntries, hgrow, hfinal, Except.map]
  · simp only [sampleExchange, List.reverse_cons, List.reverse_nil, List.nil_append, List.cons_append, importEntries, hshrink, hother,
      Except.map]

end SceneScript
