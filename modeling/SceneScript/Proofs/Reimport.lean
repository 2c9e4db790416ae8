import SceneScript.Proofs.ImportOrder
import SceneScript.Proofs.Reverting
import SceneScript.Proofs.SameLength
import SceneScript.Proofs.Tiling

/-!
# Imports that are repeated

The second import of the same entries takes other ways than the first. Where a line shows the text of its entry, nothing is done. Where
it does not, because the text was cut or is shown otherwise than it was written, the bytes that stand there are stored once more, and
everything is written as it was (`Script.Steady.rebase_eq`). A line is settled for an entry if it is one of the two
(`Script.Settled`). An edit settles its line and leaves other lines as settled as they were (`Script.Steady.exists_of_edit`), so that
after an import all of its entries are settled (`Script.Steady.exists_of_importEntries`), and importing them again does nothing.
-/

namespace SceneScript

open Bytes

/-- The text that a symbol has already makes no other image. -/
theorem Image.retext_stored {image : Image} {number : Nat} (h : number < image.texts.symbols.length)
    (hpos : 0 < (image.texts.stored number).size) : image.retext number (image.texts.stored number).pop = image := by
  rw [retext, Texts.retext_stored h hpos]

/-! ## Positions -/

theorem Patch.moved_lt (patch : Patch) {pos : Nat} (h : pos < UInt64.size) : patch.moved pos < UInt64.size := by
  unfold moved
  split
  · have hlt := Int.emod_lt_of_pos (pos + patch.lengthDelta) (show (0 : Int) < UInt64.size by decide)
    omega
  · exact h

/-- The instruction and its payloads stand at 64-bit positions. -/
structure Invocation.Placed (invocation : Invocation) : Prop where
  address_lt : invocation.address < UInt64.size
  offset_lt : ∀ parameter ∈ invocation.parameters, parameter.offset < UInt64.size

namespace Invocation.Placed

variable {invocation : Invocation} {patch : Patch}

theorem rebaseInvocation (h : invocation.Placed) (patch : Patch) : (Script.rebaseInvocation patch invocation).Placed := by
  refine ⟨patch.moved_lt h.address_lt, ?_⟩
  intro parameter hparameter
  obtain ⟨other, hother, rfl⟩ := List.mem_map.1 hparameter
  exact patch.moved_lt (h.offset_lt other hother)

/-- Without a difference in length an instruction stays where it is. -/
theorem rebaseInvocation_eq (h : invocation.Placed) (hdelta : patch.lengthDelta = 0) :
    Script.rebaseInvocation patch invocation = invocation := by
  have hparameters : invocation.parameters.map (fun parameter => { parameter with offset := patch.moved parameter.offset }) =
      invocation.parameters := by
    refine (List.map_congr_left fun parameter hparameter => ?_).trans (List.map_id' _)
    rw [Patch.moved_of_lengthDelta_eq_zero hdelta (h.offset_lt parameter hparameter)]
  rw [Script.rebaseInvocation, hparameters, Patch.moved_of_lengthDelta_eq_zero hdelta h.address_lt]

end Invocation.Placed

namespace Script

/-- What edits keep of a small script: it is laid out like an image, its lines are its symbols, and its instructions stand at 64-bit
positions. -/
structure Steady (script : Script) (image : Image) (start : BlockEntry → UInt32) : Prop where
  laidOut : script.LaidOut image start
  aligned : script.Aligned
  size_lt : script.bytes.size < sizeLimit
  placed : ∀ invocation ∈ script.invocations, invocation.Placed

/-- A script with exact tables is steady. -/
theorem ExactTables.exists_steady {catalog : Catalog} {script : Script} (h : script.ExactTables catalog)
    (hsize : script.bytes.size < sizeLimit) : ∃ image start, script.Steady image start := by
  obtain ⟨image, start, hlaid⟩ := h.exists_laidOut hsize
  refine ⟨image, start, hlaid, h.aligned hsize, hsize, ?_⟩
  obtain ⟨header, symbols, blocks, invocations, -, htable, hscript⟩ := parse?_eq_ok_some_iff.1 h.parsed
  obtain ⟨runs, hruns, rfl⟩ := Block.exists_blockRuns_of_readTable htable
  have hlimit : sizeLimit < UInt64.size := by decide
  intro invocation hmem
  rw [hscript] at hmem
  have hwithin := Invocation.within_of_read (hruns.read_of_mem invocation hmem)
  refine ⟨?_, fun parameter hparameter => ?_⟩
  · have hle := hwithin.address_le
    omega
  · have hle := hwithin.offset_le parameter hparameter
    omega

/-- An edit reports the line that it was asked for. -/
theorem index_of_edit {script edited : Script} {index cap : Nat} {text : String} {outcome : EditOutcome}
    (hedit : script.edit index text cap = .ok (edited, outcome)) : outcome.index = index := by
  rw [edit, bind_eq_ok_iff] at hedit
  obtain ⟨line, -, hedit⟩ := hedit
  split at hedit
  · cases hedit
    rfl
  · simp only [bind_eq_ok_iff, pure_eq_ok_iff, Prod.mk.injEq] at hedit
    obtain ⟨patch, -, bytes, -, -, rfl⟩ := hedit
    rfl

/-! ## Texts that are stored once more -/

namespace Steady

variable {script edited : Script} {image : Image} {start : BlockEntry → UInt32} {patch : Patch} {number index cap : Nat}
  {bytes : Bytes} {text : String} {outcome : EditOutcome}

theorem base_lt (h : script.Steady image start) : image.base < UInt64.size :=
  Nat.lt_trans (h.laidOut.base_lt h.size_lt) (by decide)

/-- Without a difference in length the blocks stay where they are. -/
theorem map_rebaseBlock_eq (h : script.Steady image start) (hdelta : patch.lengthDelta = 0) :
    script.blocks.map (rebaseBlock patch) = script.blocks := by
  refine (List.map_congr_left fun block hblock => ?_).trans (List.map_id' _)
  obtain ⟨distance, entry, -, hplace, hle⟩ := exists_of_mem_entryPlaces (h.laidOut.place_mem hblock)
  have haddress : block.address = image.texts.symbolsEnd + distance := congrArg Prod.fst hplace
  have hend : image.base = image.texts.symbolsEnd + Header.blockEntrySize * image.entries.length := rfl
  have hlt := h.base_lt
  rw [rebaseBlock, Patch.moved_of_lengthDelta_eq_zero hdelta (by omega),
    Patch.moved_of_lengthDelta_eq_zero hdelta (Nat.lt_trans block.start.toNat_lt (by decide)), UInt32.ofNat_toNat]

/-- The lines stay what they are if no other image is stored: before and after the patch a line is the same symbol of the same table,
which has its text and its position. -/
theorem map_rebaseLine_eq (h : script.Steady image start) (hstores : patch.Stores image number bytes)
    (himage : image.retext number bytes = image) :
    script.dialogue.map (rebaseLine patch (script.encoding.decode patch.newText.toList)) = script.dialogue := by
  refine (List.map_congr_left fun line hline => ?_).trans (List.map_id' _)
  have hsymbol := h.laidOut.isSymbol_rebaseLine hstores (himage.symm ▸ h.base_lt) hline (h.aligned.isSymbol line hline)
  rw [himage, ← h.laidOut.symbols] at hsymbol
  obtain ⟨symbol', hread', htext', hoffset'⟩ := hsymbol
  obtain ⟨symbol, hread, htext, hoffset⟩ := h.aligned.isSymbol line hline
  have hsame : symbol' = symbol := Option.some.inj (hread'.symm.trans hread)
  rw [hsame, ← hoffset] at hoffset'
  rw [hsame, ← htext] at htext'
  rw [rebaseLine] at hoffset' htext' ⊢
  simp only at hoffset' htext'
  rw [hoffset', htext']

/-- A script that stores what stands there, and is brought in line with it, is the script that it was. -/
theorem rebase_eq (h : script.Steady image start) (hstores : patch.Stores image number (image.texts.stored number).pop) :
    script.rebase patch script.bytes = script := by
  have hdelta : patch.lengthDelta = 0 := by rw [hstores.lengthDelta, Int.sub_self]
  have himage := Image.retext_stored hstores.index_lt hstores.size_pos
  have hbase := h.laidOut.base_lt h.size_lt
  have hheader : rebaseHeader patch script.header = script.header := by
    rw [h.laidOut.header, hstores.rebaseHeader_eq _ h.laidOut.entries_length hbase (himage.symm ▸ hbase), himage]
  have hsymbols : (script.rebase patch script.bytes).symbols = script.symbols := by
    rw [h.laidOut.symbols_rebase hstores (himage.symm ▸ h.base_lt), himage, h.laidOut.symbols]
  have hinvocations : script.invocations.map (rebaseInvocation patch) = script.invocations :=
    (List.map_congr_left fun invocation hmem => (h.placed invocation hmem).rebaseInvocation_eq hdelta).trans (List.map_id' _)
  rw [rebase] at hsymbols ⊢
  simp only at hsymbols
  rw [hheader, hsymbols, h.map_rebaseBlock_eq hdelta, hinvocations, h.map_rebaseLine_eq hstores himage]

/-- An edit that stores what the line is stored as does nothing. -/
theorem edit_of_stored (h : script.Steady image start) {line : DialogueLine} (hline : script.line index = .ok line)
    (hnew : line.text ≠ text) (hpos : 0 < (image.texts.stored line.symbolIndex).size)
    (hstored : (image.texts.stored line.symbolIndex).pop = (script.encoding.capLine text cap).bytes.toArray) :
    ∃ outcome, script.edit index text cap = .ok (script, outcome) ∧ outcome.lengthDelta = 0 := by
  have hread := line_eq_ok_iff.1 hline
  cases hedit : script.edit index text cap with
  | error e =>
    rcases (h.laidOut.edit_eq_error_iff h.size_lt index text cap e).1 hedit with hout | ⟨hother, -, hempty⟩
    · rw [List.getElem?_eq_none hout] at hread
      cases hread
    · rw [hread, Option.some.injEq] at hother
      subst hother
      rw [h.laidOut.readUInt32_line_eq_zero_iff h.size_lt (List.mem_of_getElem? hread)] at hempty
      omega
  | ok result =>
    obtain ⟨edited, outcome⟩ := result
    obtain ⟨patch, hstores, hfile, hedited, houtcome⟩ := h.laidOut.exists_stores h.size_lt hline hnew hedit
    rw [← hstored] at hstores hfile
    have hdelta : patch.lengthDelta = 0 := by rw [hstores.lengthDelta, Int.sub_self]
    have himage := Image.retext_stored hstores.index_lt hstores.size_pos
    have hstart : patch.movedStart start = start := by
      funext entry
      rw [Patch.movedStart, Patch.moved_of_lengthDelta_eq_zero hdelta (Nat.lt_trans (start entry).toNat_lt (by decide)),
        UInt32.ofNat_toNat]
    have hbytes := h.laidOut.bytes_edited hstores (h.laidOut.base_lt h.size_lt) (himage.symm ▸ h.base_lt) hfile
    rw [himage, hstart, ← h.laidOut.bytes] at hbytes
    rw [hbytes, h.rebase_eq hstores] at hedited
    subst hedited
    exact ⟨outcome, rfl, houtcome.trans hdelta⟩

/-- A successful edit keeps a small script steady. A text is stored for the symbol of the line. -/
theorem steady_of_edit (h : script.Steady image start) {line : DialogueLine} (hline : script.line index = .ok line)
    (hnew : line.text ≠ text) (hedit : script.edit index text cap = .ok (edited, outcome)) (hsize : edited.bytes.size < sizeLimit) :
    ∃ patch : Patch, patch.Stores image line.symbolIndex (script.encoding.capLine text cap).bytes.toArray ∧
      edited = script.rebase patch edited.bytes ∧
      edited.Steady (image.retext line.symbolIndex (script.encoding.capLine text cap).bytes.toArray) (patch.movedStart start) := by
  obtain ⟨patch, hstores, hedited, hlt, hlaid⟩ := h.laidOut.laidOut_of_edit h.size_lt hline hnew hedit hsize
  refine ⟨patch, hstores, hedited, hlaid, ?_, hsize, ?_⟩
  · rw [hedited]
    exact h.laidOut.aligned_rebase h.aligned hstores (Nat.lt_trans hlt (by decide)) _
  · rw [hedited]
    intro invocation hmem
    obtain ⟨other, hother, rfl⟩ := List.mem_map.1 hmem
    exact (h.placed other hother).rebaseInvocation patch

end Steady

/-! ## Settled lines -/

/-- The line shows the text, or is stored as the text would be. -/
def Settled (script : Script) (image : Image) (cap index : Nat) (text : String) : Prop :=
  ∃ line, script.line index = .ok line ∧
    (line.text = text ∨ 0 < (image.texts.stored line.symbolIndex).size ∧
      (image.texts.stored line.symbolIndex).pop = (script.encoding.capLine text cap).bytes.toArray)

/-- The line that the key of an entry means shows the text of the entry, or what is read from the bytes that the cap leaves of it. -/
def Shows (script : Script) (cap : Nat) (entry : String × String) : Prop :=
  ∃ index line, ImportKey.index entry.1 = .ok index ∧ script.line index = .ok line ∧
    (line.text = entry.2 ∨ line.text = LineBreak.unescape (script.encoding.decode (script.encoding.capLine entry.2 cap).bytes))

/-- A line has the same number after a patch. -/
theorem line_rebase {script : Script} {index : Nat} {line : DialogueLine} (hline : script.line index = .ok line) (patch : Patch)
    (bytes : Bytes) : (script.rebase patch bytes).line index =
      .ok (rebaseLine patch (script.encoding.decode patch.newText.toList) line) := by
  rw [line_eq_ok_iff] at hline ⊢
  rw [rebase, List.getElem?_map, hline, Option.map_some]

namespace Steady

variable {script edited : Script} {image : Image} {start : BlockEntry → UInt32} {index cap : Nat} {text : String}
  {outcome : EditOutcome}

/-- The edit of a settled line does nothing. -/
theorem edit_of_settled (h : script.Steady image start) (hsettled : script.Settled image cap index text) :
    ∃ outcome, script.edit index text cap = .ok (script, outcome) ∧ outcome.lengthDelta = 0 := by
  obtain ⟨line, hline, hsettled⟩ := hsettled
  by_cases hnew : line.text = text
  · exact ⟨_, edit_of_text_eq hline hnew cap, rfl⟩
  · obtain ⟨hpos, hstored⟩ := hsettled.resolve_left hnew
    exact h.edit_of_stored hline hnew hpos hstored

/-- A successful edit settles its line, and leaves other lines as settled as they were. -/
theorem exists_of_edit (h : script.Steady image start) (hedit : script.edit index text cap = .ok (edited, outcome))
    (hsize : edited.bytes.size < sizeLimit) :
    ∃ image' start', edited.Steady image' start' ∧ edited.Settled image' cap index text ∧
      ∀ other text', other ≠ index → script.Settled image cap other text' → edited.Settled image' cap other text' := by
  obtain ⟨line, hline, ⟨htext, rfl, -⟩ | hnew⟩ := exists_line_of_edit hedit
  · exact ⟨image, start, h, ⟨line, hline, .inl htext⟩, fun _ _ _ hsettled => hsettled⟩
  · obtain ⟨patch, hstores, hedited, hsteady⟩ := h.steady_of_edit hline hnew hedit hsize
    refine ⟨_, _, hsteady, ?_, ?_⟩
    · rw [hedited]
      refine ⟨_, line_rebase hline patch _, .inr ?_⟩
      rw [rebaseLine, Image.texts_retext, Texts.stored_retext_self hstores.index_lt]
      simp only [Array.size_push, Nat.zero_lt_succ, Array.pop_push, true_and]
      rfl
    · rintro other text' hne ⟨spoken, hspoken, hsettled⟩
      have hnumber : line.symbolIndex ≠ spoken.symbolIndex := by
        have hbefore := h.aligned.symbolIndex_lt_iff (line_eq_ok_iff.1 hline) (line_eq_ok_iff.1 hspoken)
        have hbehind := h.aligned.symbolIndex_lt_iff (line_eq_ok_iff.1 hspoken) (line_eq_ok_iff.1 hline)
        omega
      obtain ⟨hlt, hoffset⟩ := h.laidOut.lines spoken (mem_of_line hspoken)
      have hother : spoken.offset ≠ patch.offset := by
        rw [hoffset, hstores.offset, Ne, Texts.symbolOffset_inj hlt hstores.index_lt]
        exact hnumber.symm
      rw [hedited]
      refine ⟨_, line_rebase hspoken patch _, ?_⟩
      rw [rebaseLine, if_neg hother, Image.texts_retext, Texts.stored_retext_of_ne hnumber]
      exact hsettled

end Steady

/-! ## Entries -/

/-- The line that the key of an entry means is settled for the text of the entry. -/
def SettledFor (script : Script) (image : Image) (cap : Nat) (entry : String × String) : Prop :=
  ∃ index, ImportKey.index entry.1 = .ok index ∧ script.Settled image cap index entry.2

namespace Steady

variable {script final : Script} {image : Image} {start : BlockEntry → UInt32} {cap : Nat} {entries : List (String × String)}
  {outcomes : List EditOutcome}

/-- An import settles its entries, and leaves other lines as settled as they were. -/
theorem exists_of_importEntries (h : script.Steady image start) (hsmall : script.ImportStaysSmall cap entries)
    (hdistinct : entries.Pairwise fun a b => ImportKey.index a.1 ≠ ImportKey.index b.1)
    (himport : script.importEntries cap entries = (final, .ok outcomes)) :
    ∃ image' start', final.Steady image' start' ∧ (∀ entry ∈ entries, final.SettledFor image' cap entry) ∧
      ∀ other, (∀ entry ∈ entries, ImportKey.index other.1 ≠ ImportKey.index entry.1) → script.SettledFor image cap other →
        final.SettledFor image' cap other := by
  induction entries generalizing script image start outcomes with
  | nil =>
    cases himport
    exact ⟨image, start, h, by simp, fun _ _ hsettled => hsettled⟩
  | cons entry rest ih =>
    obtain ⟨key, text⟩ := entry
    obtain ⟨edited, outcome, others, hentry, hrest, rfl⟩ := importEntries_cons_eq_ok_iff.1 himport
    have hsmall' := hsmall.tail hentry
    obtain ⟨hfirst, hdistinct'⟩ := List.pairwise_cons.1 hdistinct
    rw [importEntry, bind_eq_ok_iff] at hentry
    obtain ⟨index, hkey, hedit⟩ := hentry
    obtain ⟨image₁, start₁, hsteady, hsettled, hkeep⟩ := h.exists_of_edit hedit hsmall'.size_lt
    obtain ⟨image₂, start₂, hsteady', hsettled', hkeep'⟩ := ih hsteady hsmall' hdistinct' hrest
    refine ⟨image₂, start₂, hsteady', ?_, ?_⟩
    · intro entry hmem
      rcases List.mem_cons.1 hmem with rfl | hmem
      · -- The entries behind it are for other lines.
        exact hkeep' _ hfirst ⟨index, hkey, hsettled⟩
      · exact hsettled' entry hmem
    · rintro other hother ⟨number, hnumber, hold⟩
      have hne : number ≠ index := by
        rintro rfl
        exact hother _ List.mem_cons_self (hnumber.trans hkey.symm)
      exact hkeep' other (fun entry hmem => hother entry (List.mem_cons_of_mem _ hmem)) ⟨number, hnumber, hkeep _ _ hne hold⟩

/-- A line that is settled for an entry shows what is left of its text. -/
theorem shows_of_settledFor (h : script.Steady image start) {entry : String × String} (hsettled : script.SettledFor image cap entry) :
    script.Shows cap entry := by
  obtain ⟨index, hkey, line, hline, hsettled⟩ := hsettled
  refine ⟨index, line, hkey, hline, ?_⟩
  rcases hsettled with htext | ⟨-, hstored⟩
  · exact .inl htext
  · obtain ⟨symbol, hread, htext, -⟩ := h.aligned.isSymbol line (mem_of_line hline)
    obtain ⟨hlt, -⟩ := h.laidOut.lines line (mem_of_line hline)
    rw [h.laidOut.symbols, Texts.symbolTable_getElem? _ hlt, Option.some.injEq] at hread
    subst hread
    refine .inr ?_
    rw [htext, Texts.symbolText, hstored]

/-- The import of settled entries does nothing. -/
theorem importEntries_of_settledFor (h : script.Steady image start)
    (hsettled : ∀ entry ∈ entries, script.SettledFor image cap entry) :
    ∃ outcomes, script.importEntries cap entries = (script, .ok outcomes) ∧ (∀ outcome ∈ outcomes, outcome.lengthDelta = 0) ∧
      entries.map (fun entry => ImportKey.index entry.1) = outcomes.map fun outcome => .ok outcome.index := by
  induction entries with
  | nil => exact ⟨[], rfl, by simp, rfl⟩
  | cons entry rest ih =>
    obtain ⟨key, text⟩ := entry
    obtain ⟨index, hkey, hline⟩ := hsettled _ List.mem_cons_self
    obtain ⟨outcome, hedit, hdelta⟩ := h.edit_of_settled hline
    obtain ⟨outcomes, hrest, hdeltas, hindices⟩ := ih fun entry hmem => hsettled entry (List.mem_cons_of_mem _ hmem)
    have hentry : script.importEntry key text cap = .ok (script, outcome) := by
      rw [importEntry, bind_eq_ok_iff]
      exact ⟨index, hkey, hedit⟩
    refine ⟨outcome :: outcomes, importEntries_cons_eq_ok_iff.2 ⟨script, outcome, outcomes, hentry, hrest, rfl⟩, ?_, ?_⟩
    · simpa using ⟨hdelta, hdeltas⟩
    · rw [List.map_cons, List.map_cons, hindices, hkey, index_of_edit hedit]

end Steady

/-- After an import of entries for different lines, each line shows its text, or what the cap leaves of it. An import that is repeated
does nothing: the entries can be imported again, no text changes its length, and the script is the one that the first import left. -/
theorem ExactTables.importEntries_again {catalog : Catalog} {script final : Script} (h : script.ExactTables catalog) {cap : Nat}
    {entries : List (String × String)} (hdistinct : entries.Pairwise fun a b => ImportKey.index a.1 ≠ ImportKey.index b.1)
    (hsmall : script.ImportStaysSmall cap entries) {outcomes : List EditOutcome}
    (himport : script.importEntries cap entries = (final, .ok outcomes)) :
    (∀ entry ∈ entries, final.Shows cap entry) ∧
      ∃ again, final.importEntries cap entries = (final, .ok again) ∧ (∀ outcome ∈ again, outcome.lengthDelta = 0) ∧
        entries.map (fun entry => ImportKey.index entry.1) = again.map fun outcome => .ok outcome.index := by
  obtain ⟨image, start, hsteady⟩ := h.exists_steady hsmall.size_lt
  obtain ⟨image', start', hsteady', hsettled, -⟩ := hsteady.exists_of_importEntries hsmall hdistinct himport
  constructor
  · intro entry hentry
    exact hsteady'.shows_of_settledFor (hsettled entry hentry)
  · exact hsteady'.importEntries_of_settledFor hsettled

/-- Entries for the sample: the text for its second line takes five bytes, and that for its first line takes nine. -/
def cutEntries : List (String × String) :=
  [("0001_HRH", "Bye!!"), ("0000_KYN", "Hi\r\nthere")]

theorem importStaysSmall_cutEntries : sample.ImportStaysSmall 5 cutEntries := by
  refine Image.importStaysSmall_script Image.valid_sample Image.fits_sample ?_
  rw [Image.size_toBytes]
  decide

/-- With five bytes for a line, the first line of the sample is cut behind the line break and a character. -/
theorem importEntries_cutEntries :
    sample.importEntries 5 cutEntries =
      (((Image.sample.retext 3 #[66, 121, 101, 33, 33]).retext 1 #[72, 105, 92, 110, 116]).script View.sample,
        .ok [⟨1, 1, none⟩, ⟨0, 2, some ⟨0, 5, 9⟩⟩]) :=
  Image.importEntries_script Image.valid_sample Image.fits_sample importStaysSmall_cutEntries (by rfl)

/-- The entries for the sample can be imported once more. The second line shows its text then, and the first line does not. -/
theorem importEntries_again_sample :
    sample.ExactTables Catalog.sample ∧ (cutEntries.Pairwise fun a b => ImportKey.index a.1 ≠ ImportKey.index b.1) ∧
      sample.ImportStaysSmall 5 cutEntries ∧ ∃ final outcomes, sample.importEntries 5 cutEntries = (final, .ok outcomes) ∧
        final.dialogue.map (·.text) = ["Hi\nt", "Bye!!"] ∧ (∀ entry ∈ cutEntries, final.Shows 5 entry) ∧
        ∃ again, final.importEntries 5 cutEntries = (final, .ok again) ∧ (∀ outcome ∈ again, outcome.lengthDelta = 0) ∧
          cutEntries.map (fun entry => ImportKey.index entry.1) = again.map fun outcome => .ok outcome.index := by
  have hdistinct : cutEntries.Pairwise fun a b => ImportKey.index a.1 ≠ ImportKey.index b.1 := by decide +kernel
  exact ⟨consistent_sample.toExactTables, hdistinct, importStaysSmall_cutEntries, _, _, importEntries_cutEntries, by rfl,
    consistent_sample.toExactTables.importEntries_again hdistinct importStaysSmall_cutEntries importEntries_cutEntries⟩

end Script

end SceneScript
