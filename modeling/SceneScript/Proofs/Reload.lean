import SceneScript.Proofs.EditRuns

/-!
# Reading an edited file again

A script follows its file through every edit: reading the edited file gives the same header, symbols, blocks and invocations
(`Script.Consistent.reload_runEdits`). Two things are known to the script only: the names that its blocks had when it was read,
and where its instructions stood then.
-/

namespace SceneScript

open Bytes

/-! ## What two scripts share -/

/-- The block without its name, which an edit may change in the file. -/
def Block.unnamed (block : Block) : Block :=
  { block with name := "" }

/-- The invocation without the address that it was read at. -/
def Invocation.undated (invocation : Invocation) : Invocation :=
  { invocation with parsedAddress := 0 }

/-- The scripts have the same file, read in the same encoding, and find the same in it: the header, the symbols, the blocks but for
their names, and the invocations but for where they stood when they were read. -/
structure Script.SameFinds (script other : Script) : Prop where
  bytes : script.bytes = other.bytes
  encoding : script.encoding = other.encoding
  header : script.header = other.header
  symbols : script.symbols = other.symbols
  blocks : script.blocks.map Block.unnamed = other.blocks.map Block.unnamed
  invocations : script.invocations.map Invocation.undated = other.invocations.map Invocation.undated

/-! ## Names of blocks -/

/-- Entries that name symbols of a table name symbols of every table of the same size. -/
theorem Named.exists_of_length_eq {table other : SymbolTable} {entries : List BlockEntry}
    {units : List (String × List Invocation)} (h : Named table entries units)
    (hlength : other.symbols.length = table.symbols.length) :
    ∃ renamed, Named other entries renamed ∧ renamed.map (·.2) = units.map (·.2) := by
  induction h with
  | nil => exact ⟨[], .nil, rfl⟩
  | @cons entry entries name run units hname _ ih =>
    obtain ⟨renamed, hrenamed, hruns⟩ := ih
    obtain ⟨symbol, hsymbol, -⟩ := SymbolTable.get_natCast_eq_ok_iff.1 hname
    obtain ⟨hlt, -⟩ := List.getElem?_eq_some_iff.1 hsymbol
    have hother := List.getElem?_eq_getElem (l := other.symbols) (i := entry.nameIndex.toNat) (by omega)
    exact ⟨(_, run) :: renamed, .cons (SymbolTable.get_natCast_eq_ok_iff.2 ⟨_, hother, rfl⟩) hrenamed, by simp [hruns]⟩

/-- Blocks with other names are the same but for their names. -/
theorem map_unnamed_placeBlocks {base address first : Nat} {entries : List BlockEntry}
    {units renamed : List (String × List Invocation)} (h : renamed.map (·.2) = units.map (·.2)) :
    (placeBlocks base address first entries renamed).map Block.unnamed =
      (placeBlocks base address first entries units).map Block.unnamed := by
  induction entries generalizing address first units renamed with
  | nil => cases units <;> cases renamed <;> rfl
  | cons entry entries ih =>
    match units, renamed, h with
    | [], [], _ => rfl
    | (name, run) :: units, (name', run') :: renamed, h =>
      simp only [List.map_cons, List.cons.injEq] at h
      obtain ⟨rfl, h⟩ := h
      rw [placeBlocks, placeBlocks, List.map_cons, List.map_cons, ih h]
      rfl

/-! ## Reading the file of an image again -/

/-- The script of an image with other texts, read again with blocks named anew, finds the same. -/
theorem Image.sameFinds_freshView {image edited : Image} {encoding : Encoding} {units renamed : List (String × List Invocation)}
    (h : renamed.map (·.2) = units.map (·.2)) :
    (edited.script (edited.freshView encoding renamed)).SameFinds (edited.script (image.freshView encoding units)) := by
  refine ⟨rfl, rfl, rfl, rfl, map_unnamed_placeBlocks h, ?_⟩
  simp only [script, freshView, List.flatMap_def, h, List.map_map]
  rfl

/-- A script with exact tables and its edited script are those of two images that differ in their texts, and the file of either is
read with the same instructions. -/
theorem Script.ExactTables.exists_edited {catalog : Catalog} {script : Script} (h : script.ExactTables catalog)
    (hstart : ∀ block ∈ script.blocks, block.start.toNat < sizeLimit) {requests : List EditRequest}
    (hsmall : script.StaysSmall requests) :
    ∃ (image edited : Image) (units renamed : List (String × List Invocation)), image.Valid script.encoding ∧
      edited.Valid script.encoding ∧ edited.entries = image.entries ∧ edited.body = image.body ∧
      renamed.map (·.2) = units.map (·.2) ∧ Runs image.body catalog image.entries (units.map (·.2)) ∧
      Named (image.texts.symbolTable script.encoding) image.entries units ∧
      Named (edited.texts.symbolTable script.encoding) image.entries renamed ∧
      script = image.script (image.freshView script.encoding units) ∧
      script.runEdits requests = edited.script (image.freshView script.encoding units) := by
  obtain ⟨image, units, hvalid, hruns, hnamed, hscript, hedited, hrun⟩ := h.exists_runEdits hstart hsmall
  have hretexted := Image.retexted_runEdits (image.freshView script.encoding units) image requests
  have hlength : ((image.runEdits (image.freshView script.encoding units) requests).texts.symbolTable
      script.encoding).symbols.length = (image.texts.symbolTable script.encoding).symbols.length := by
    rw [Texts.symbolTable, Texts.symbolTable, Texts.length_symbolsFrom, Texts.length_symbolsFrom, hretexted.symbols_length]
  obtain ⟨renamed, hrenamed, hsame⟩ := hnamed.exists_of_length_eq hlength
  exact ⟨image, _, units, renamed, hvalid, hedited, hretexted.entries, hretexted.body, hsame, hruns, hnamed, hrenamed, hscript, hrun⟩

/-- An edited file is a script with exact tables again, and reading it finds what the edited script holds. -/
theorem Script.ExactTables.exists_reloaded {catalog : Catalog} {script : Script} (h : script.ExactTables catalog)
    (hstart : ∀ block ∈ script.blocks, block.start.toNat < sizeLimit) {requests : List EditRequest}
    (hsmall : script.StaysSmall requests) :
    ∃ fresh, parse? (script.runEdits requests).bytes catalog script.encoding = .ok (some fresh) ∧
      fresh.ExactTables catalog ∧ fresh.SameFinds (script.runEdits requests) := by
  obtain ⟨image, edited, units, renamed, hvalid, hedited, hentries, hbody, hsame, hruns, hnamed, hrenamed, hscript, hrun⟩ :=
    h.exists_edited hstart hsmall
  have hruns' : Runs edited.body catalog edited.entries (renamed.map (·.2)) := by
    rw [hbody, hentries, hsame]
    exact hruns
  rw [← hentries] at hrenamed
  rw [hrun]
  exact ⟨_, (Image.parse?_eq_ok_some_iff hedited).2 ⟨renamed, hruns', hrenamed, rfl⟩, Image.exactTables hedited hruns' hrenamed,
    Image.sameFinds_freshView hsame⟩

/-- An edited file is a consistent script again, and reading it finds what the edited script holds. -/
theorem Script.Consistent.reload_runEdits {catalog : Catalog} {script : Script} (h : script.Consistent catalog)
    (requests : List EditRequest) (hsmall : script.StaysSmall requests) :
    ∃ fresh, parse? (script.runEdits requests).bytes catalog script.encoding = .ok (some fresh) ∧
      fresh.Consistent catalog ∧ fresh.SameFinds (script.runEdits requests) := by
  have hstart : ∀ block ∈ script.blocks, block.start.toNat < sizeLimit := fun block hblock =>
    Nat.lt_of_le_of_lt (h.start_le block hblock) hsmall.size_lt
  obtain ⟨image, edited, units, renamed, hvalid, hedited, hentries, hbody, hsame, hruns, hnamed, hrenamed, hscript, hrun⟩ :=
    h.toExactTables.exists_edited hstart hsmall
  have hinside : ∀ entry ∈ image.entries, entry.start ≤ image.body.size := by
    intro entry hentry
    have hle := h.start_le
    rw [hscript] at hle
    have hlast := (Image.forall_start_script_iff (image.freshView script.encoding units) hvalid hnamed (· ≤ _)).1 hle entry hentry
    simp only [Image.script, Image.size_toBytes] at hlast
    omega
  have hruns' : Runs edited.body catalog edited.entries (renamed.map (·.2)) := by
    rw [hbody, hentries, hsame]
    exact hruns
  rw [← hentries] at hrenamed hinside
  rw [← hbody] at hinside
  rw [hrun]
  exact ⟨_, (Image.parse?_eq_ok_some_iff hedited).2 ⟨renamed, hruns', hrenamed, rfl⟩,
    Image.consistent hedited hruns' hrenamed hinside, Image.sameFinds_freshView hsame⟩

/-- The sample is read again after requests. -/
theorem Script.reload_sample :
    sample.Consistent Catalog.sample ∧ sample.StaysSmall sampleRequests ∧
      ∃ fresh, parse? (sample.runEdits sampleRequests).bytes Catalog.sample sample.encoding = .ok (some fresh) ∧
        fresh.Consistent Catalog.sample ∧ fresh.SameFinds (sample.runEdits sampleRequests) :=
  ⟨consistent_sample, staysSmall_sample, consistent_sample.reload_runEdits sampleRequests staysSmall_sample⟩

end SceneScript
