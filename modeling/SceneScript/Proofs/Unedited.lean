import SceneScript.Project.Assembly
import SceneScript.Project.Disassembly
import SceneScript.Proofs.ImportKeys
import SceneScript.Proofs.Reverting

/-!
# Projects that nobody edited

An exported entry holds the text that its line shows, and an edit for this text does nothing, whatever bytes the line is stored with and
however few of them the cap leaves room for. So the entries of a script can be imported in any order, each as often as one likes, and
leave the script as it is (`Script.importEntries_unedited`); a project that holds them is assembled to the file that it was exported
from (`Script.assemble_unedited`). This needs keys that mean their own lines, which those of the first 10000 lines do.
-/

namespace SceneScript

/-! ## Imports -/

namespace Script

/-- An exported entry tells nothing new about its line. -/
theorem importEntry_unedited {script : Script} (hfew : script.dialogue.length ≤ 10000) {index : Nat} {entry : DialogueEntry}
    (hentry : script.dialogueEntries[index]? = some entry) (cap : Nat) :
    script.importEntry entry.key entry.text cap = .ok (script, ⟨index, 0, none⟩) := by
  obtain ⟨line, hline, rfl⟩ := dialogueEntries_getElem?.1 hentry
  obtain ⟨hlt, -⟩ := List.getElem?_eq_some_iff.1 (line_eq_ok_iff.1 hline)
  have hmeant : ImportKey.meant index = index := ImportKey.meant_eq_self_iff.2 (by omega)
  rw [importEntry, ImportKey.index_ofLine (by omega) line, hmeant]
  exact edit_of_text_eq hline rfl cap

/-- An import of exported entries leaves the script as it is, and tells so of each entry. -/
theorem importEntries_unedited {script : Script} (hfew : script.dialogue.length ≤ 10000) {entries : List DialogueEntry}
    (hentries : ∀ entry ∈ entries, entry ∈ script.dialogueEntries) (cap : Nat) :
    ∃ outcomes, script.importEntries cap (entries.map fun entry => (entry.key, entry.text)) = (script, .ok outcomes) ∧
      List.Forall₂ (fun entry outcome => ∃ index, script.dialogueEntries[index]? = some entry ∧ outcome = ⟨index, 0, none⟩)
        entries outcomes := by
  induction entries with
  | nil => exact ⟨[], rfl, .nil⟩
  | cons entry rest ih =>
    obtain ⟨outcomes, hrest, houtcomes⟩ := ih fun other hother => hentries other (List.mem_cons_of_mem _ hother)
    obtain ⟨index, hindex⟩ := List.mem_iff_getElem?.1 (hentries entry (List.mem_cons_self ..))
    exact ⟨⟨index, 0, none⟩ :: outcomes,
      importEntries_cons_eq_ok_iff.2 ⟨_, _, _, importEntry_unedited hfew hindex cap, hrest, rfl⟩, .cons ⟨index, hindex, rfl⟩ houtcomes⟩

end Script

/-! ## Projects -/

/-- What is read from the folder of a project: its description, the file of its script, a catalog, and dialogue entries. -/
structure Project.Holds (project : Project) (read : String → Except ProjectError Bytes) (bytes : Bytes) (catalog : Catalog)
    (entries : List DialogueEntry) : Prop where
  description : ∃ text, readText read descriptionFile = .ok text ∧ ofText? text = .ok project
  script : read project.scriptFile = .ok bytes
  catalog : ∃ catalogBytes, read project.catalogFile = .ok catalogBytes ∧ Catalog.parse catalogBytes = .ok catalog
  dialogue : ∃ text, readText read project.dialogueFile = .ok text ∧ DialogueEntry.ofDocument text = .ok entries

/-- A project is assembled by an import of its entries into its script. -/
theorem Project.Holds.assemble_eq {project : Project} {read : String → Except ProjectError Bytes} {bytes : Bytes} {catalog : Catalog}
    {entries : List DialogueEntry} (h : project.Holds read bytes catalog entries) {script final : Script} {outcomes : List EditOutcome}
    {cap : Nat} (hparsed : Script.parse? bytes catalog project.encoding = .ok (some script))
    (himport : script.importEntries cap (entries.map fun entry => (entry.key, entry.text)) = (final, .ok outcomes)) :
    assemble read cap = .ok final.bytes := by
  obtain ⟨description, hdescription, hproject⟩ := h.description
  obtain ⟨catalogBytes, hcatalogFile, hcatalog⟩ := h.catalog
  obtain ⟨dialogue, hdialogue, hentries⟩ := h.dialogue
  simp only [assemble, scriptOf, bind, Except.bind, hdescription, hproject, h.script, hcatalogFile, hcatalog, hparsed, hdialogue, hentries,
    himport, orFault, pure, Except.pure]

/-- Entries that were exported from a script with at most 10000 lines and that nobody edited, in any number and order, leave it as it
was parsed. Each is reported as a change by no bytes that cut nothing, whatever the cap, and a project with these entries is assembled
to the file of the script. -/
theorem Script.assemble_unedited {bytes : Bytes} {catalog : Catalog} {encoding : Encoding} {script : Script}
    (h : Script.parse? bytes catalog encoding = .ok (some script)) (hfew : script.dialogue.length ≤ 10000)
    {entries : List DialogueEntry} (hentries : ∀ entry ∈ entries, entry ∈ script.dialogueEntries) (cap : Nat) :
    script.bytes = bytes ∧
    (∃ outcomes, script.importEntries cap (entries.map fun entry => (entry.key, entry.text)) = (script, .ok outcomes) ∧
      List.Forall₂ (fun entry outcome => ∃ index, script.dialogueEntries[index]? = some entry ∧ outcome = ⟨index, 0, none⟩)
        entries outcomes) ∧
    ∀ (project : Project) (read : String → Except ProjectError Bytes), project.encoding = encoding →
      project.Holds read bytes catalog entries → Project.assemble read cap = .ok bytes := by
  have hbytes : script.bytes = bytes := by
    obtain ⟨header, symbols, blocks, invocations, -, -, rfl⟩ := Script.parse?_eq_ok_some_iff.1 h
    rfl
  obtain ⟨outcomes, himport, houtcomes⟩ := importEntries_unedited hfew hentries cap
  refine ⟨hbytes, ⟨outcomes, himport, houtcomes⟩, ?_⟩
  rintro project read rfl hholds
  rw [hholds.assemble_eq h himport, hbytes]

/-! ## Exported projects -/

/-- Reads a file from a table of files. -/
def Project.readFrom (files : List (String × Bytes)) (path : String) : Except ProjectError Bytes :=
  match files.lookup path with
  | some bytes => .ok bytes
  | none => .error (.file path .notFound)

/-- A text is read back from its bytes. -/
theorem Utf8.text?_encode (text : String) : text? (Encoding.utf8.encode text) = some text := by
  have hread := decodeChars_encodeChars text.toList
  have hchars : decoder.decode (Encoding.utf8.encode text) = text.toList := hread
  simp only [text?, hchars]
  exact (if_pos rfl).trans (congrArg some String.ofList_toList)

/-- A text is read back from the file that it was written to. -/
theorem Project.readText_of_lookup {files : List (String × Bytes)} {path text : String}
    (h : files.lookup path = some (Disassembly.textBytes text)) : readText (readFrom files) path = .ok text := by
  simp only [readText, bind, Except.bind, readFrom, h, Disassembly.textBytes, Utf8.text?_encode]
  rfl

/-- The files of an exported project hold it, if its description and its entries can be read back from their texts. -/
theorem Disassembly.holds_files {d : Disassembly} {blocks : List ListedBlock} {catalog : Catalog} (hlisting : d.script.listing = .ok blocks)
    (hcatalog : Catalog.parse d.catalogBytes = .ok catalog) (hproject : Project.ofText? d.project.toText = .ok d.project)
    (hentries : DialogueEntry.ofDocument (DialogueEntry.document d.script.dialogueEntries) = .ok d.script.dialogueEntries) :
    d.project.Holds (Project.readFrom d.files.1) d.script.bytes catalog d.script.dialogueEntries := by
  have hfiles : d.files.1 = [("script.bin", d.script.bytes), ("catalog.bin", d.catalogBytes),
      ("script.yaml", textBytes (ListedBlock.document blocks)),
      ("dialogue.yaml", textBytes (DialogueEntry.document d.script.dialogueEntries)), ("project.toml", textBytes d.project.toText)] := by
    rw [files, hlisting]
    rfl
  rw [hfiles]
  exact ⟨⟨_, Project.readText_of_lookup rfl, hproject⟩, rfl, ⟨_, rfl, hcatalog⟩, ⟨_, Project.readText_of_lookup rfl, hentries⟩⟩

/-- The commands of the sample catalog that the sample uses. -/
def Catalog.sampleUsed : Catalog :=
  ⟨[⟨0, "NOP", []⟩, ⟨1, "JUMP", [0x00, 0x02]⟩]⟩

/-- They are enough to read the sample. -/
theorem Script.parse?_sampleUsed : Script.parse? sample.bytes Catalog.sampleUsed sample.encoding = .ok (some sample) := by
  have hruns : Runs Image.sample.body Catalog.sampleUsed Image.sample.entries (View.sample.units.map (·.2)) :=
    .cons (.next (by decide) (by rfl) (by decide) (.next (by decide) (by rfl) (by decide) (.trailer (by decide)))) .nil
  refine Image.valid_sample.toReadable.parse?_eq_ok_some_iff.2 ⟨View.sample.units, hruns, Image.named_sample, ?_⟩
  rw [Image.freshView_sample]
  rfl

/-- The sample, taken apart. -/
def Disassembly.sample : Disassembly :=
  ⟨Script.sample, Catalog.sampleUsed.toBytes⟩

theorem Disassembly.holds_sample : sample.project.Holds (Project.readFrom sample.files.1) Script.sample.bytes Catalog.sampleUsed
    Script.sample.dialogueEntries := by
  have hlisting : ∃ blocks, Script.sample.listing = .ok blocks := ⟨_, by rfl⟩
  have hproject : sample.project = ⟨"S01A", .shiftJis, "script.bin", "catalog.bin", "script.yaml", "dialogue.yaml"⟩ := by rfl
  have hcatalog : Catalog.parse sample.catalogBytes = .ok Catalog.sampleUsed := by decide +kernel
  obtain ⟨blocks, hblocks⟩ := hlisting
  refine holds_files hblocks hcatalog ?_ ?_
  · rw [hproject]
    decide +kernel
  · rw [show sample.script = Script.sample from rfl, Script.dialogueEntries_sample]
    decide +kernel

/-- The sample is assembled from the project that it is exported as, even if a line may take no bytes. Its entries can be imported from
the last to the first, and again. -/
theorem Script.assemble_unedited_sample :
    Script.parse? sample.bytes Catalog.sampleUsed sample.encoding = .ok (some sample) ∧ sample.dialogue.length ≤ 10000 ∧
      Project.assemble (Project.readFrom Disassembly.sample.files.1) 0 = .ok sample.bytes ∧
      ∃ outcomes, sample.importEntries 0 [("0001_HRH", "Bye."), ("0000_KYN", "Hi."), ("0001_HRH", "Bye.")] = (sample, .ok outcomes) := by
  have hfew : sample.dialogue.length ≤ 10000 := by decide
  obtain ⟨-, -, hassemble⟩ := assemble_unedited parse?_sampleUsed hfew (fun _ hentry => hentry) 0
  have hreversed : ∀ entry ∈ [⟨"0001_HRH", "Haruhi", "Bye."⟩, ⟨"0000_KYN", "Kyon", "Hi."⟩, ⟨"0001_HRH", "Haruhi", "Bye."⟩],
      entry ∈ sample.dialogueEntries := by
    rw [dialogueEntries_sample]
    decide
  obtain ⟨-, ⟨outcomes, himport, -⟩, -⟩ := assemble_unedited parse?_sampleUsed hfew hreversed 0
  exact ⟨parse?_sampleUsed, hfew, hassemble _ _ rfl Disassembly.holds_sample, outcomes, himport⟩

end SceneScript
