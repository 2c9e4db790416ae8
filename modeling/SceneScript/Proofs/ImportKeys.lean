import Mathlib.Data.List.Forall2
import SceneScript.DialogueEntry
import SceneScript.Proofs.EditFaults

/-!
# The lines that exported keys mean

The key of an exported line starts with its number in four digits or more, and an import reads four of them. A script has at most half
as many lines as symbols (`Dialogue.two_mul_length_extract_le`), which is up to 32767, so a number may have a fifth digit, and then the
key means another line. `ImportKey.meant` is the number that is read, and `Script.importEntries_dialogueEntries` what this does to an
import: up to the first 10000 lines, each exported entry gives its text to its own line, and from there on to a line ten times further
in front (`Script.index_key_false`).
-/

namespace SceneScript

open Bytes

/-! ## Keys -/

namespace ImportKey

/-- The number that the key of a line is read as. A number of five digits loses its last one. -/
def meant (index : Nat) : Nat :=
  if index < 10000 then index else index / 10

/-- The four last digits of a number. -/
def fourDigits (n : Nat) : List Char :=
  [Nat.digitChar (n / 1000), Nat.digitChar (n / 100 % 10), Nat.digitChar (n / 10 % 10), Nat.digitChar (n % 10)]

/-- A number of four digits is spelled by them. -/
theorem toDigits_eq_fourDigits {n : Nat} (hle : 1000 ≤ n) (hlt : n < 10000) : Nat.toDigits 10 n = fourDigits n := by
  have hhundreds : n / 10 / 10 = n / 100 := Nat.div_div_eq_div_mul ..
  have hthousands : n / 100 / 10 = n / 1000 := Nat.div_div_eq_div_mul ..
  rw [Nat.toDigits_of_base_le (by decide) (by omega), Nat.toDigits_of_base_le (by decide) (by omega), hhundreds,
    Nat.toDigits_of_base_le (by decide) (by omega), hthousands, Nat.toDigits_of_lt_base (by omega)]
  rfl

/-- A number of at most four digits is spelled by them and by zeros in front. -/
theorem toList_paddedDecimal {n : Nat} (h : n < 10000) : (paddedDecimal 4 n).toList = fourDigits n := by
  have hhundreds : n / 10 / 10 = n / 100 := Nat.div_div_eq_div_mul ..
  rw [paddedDecimal, String.toList_ofList]
  by_cases hthousands : 1000 ≤ n
  · rw [toDigits_eq_fourDigits hthousands h]
    rfl
  rw [fourDigits, Nat.div_eq_of_lt (Nat.not_le.1 hthousands)]
  by_cases htwo : 100 ≤ n
  · rw [Nat.toDigits_of_base_le (by decide) (by omega), Nat.toDigits_of_base_le (by decide) (by omega), hhundreds,
      Nat.toDigits_of_lt_base (by omega), Nat.mod_eq_of_lt (show n / 100 < 10 by omega)]
    rfl
  rw [Nat.div_eq_of_lt (Nat.not_le.1 htwo)]
  by_cases htens : 10 ≤ n
  · rw [Nat.toDigits_of_base_le (by decide) htens, Nat.toDigits_of_lt_base (by omega), Nat.mod_eq_of_lt (show n / 10 < 10 by omega)]
    rfl
  · rw [Nat.toDigits_of_lt_base (by omega), Nat.div_eq_of_lt (Nat.not_le.1 htens), Nat.mod_eq_of_lt (Nat.not_le.1 htens)]
    rfl

/-- The digit of a number below ten has its value. -/
theorem digitValue_digitChar : ∀ d < 10, (Nat.digitChar d).isDigit = true ∧ digitValue (Nat.digitChar d) = d := by
  decide

/-- A key that starts with four digits is read as their number. -/
theorem index_of_toList_eq {key : String} {n : Nat} {rest : List Char} (h : n < 10000) (hkey : key.toList = fourDigits n ++ rest) :
    index key = .ok n := by
  obtain ⟨hthousands, hthousands'⟩ := digitValue_digitChar (n / 1000) (by omega)
  obtain ⟨hhundreds, hhundreds'⟩ := digitValue_digitChar (n / 100 % 10) (by omega)
  obtain ⟨htens, htens'⟩ := digitValue_digitChar (n / 10 % 10) (by omega)
  obtain ⟨hones, hones'⟩ := digitValue_digitChar (n % 10) (by omega)
  rw [index, hkey]
  simp only [fourDigits, List.cons_append, hthousands, hhundreds, htens, hones, and_self, if_true, hthousands', hhundreds', htens',
    hones', Except.ok.injEq]
  omega

/-- The key of a line is read as its number, as long as that has four digits. -/
theorem index_ofLine {i : Nat} (h : i < 100000) (line : DialogueLine) : index (ofLine i line) = .ok (meant i) := by
  have hkey : (ofLine i line).toList = (paddedDecimal 4 i).toList ++ '_' :: line.speaker.code.toList := by
    show (paddedDecimal 4 i ++ "_" ++ line.speaker.code).toList = _
    rw [String.toList_append, String.toList_append, List.append_assoc]
    rfl
  rw [meant]
  by_cases hshort : i < 10000
  · rw [if_pos hshort]
    rw [toList_paddedDecimal hshort] at hkey
    exact index_of_toList_eq hshort hkey
  · rw [if_neg hshort]
    rw [paddedDecimal, String.toList_ofList, Nat.toDigits_of_base_le (by decide) (by omega),
      toDigits_eq_fourDigits (by omega) (by omega)] at hkey
    exact @index_of_toList_eq _ (i / 10) (Nat.digitChar (i % 10) :: '_' :: line.speaker.code.toList) (by omega) hkey

theorem meant_eq_self_iff {i : Nat} : meant i = i ↔ i < 10000 := by
  rw [meant]
  split <;> omega

end ImportKey

/-! ## How many lines there are -/

namespace Dialogue

/-- Each line is marked by a voice id. -/
theorem length_marked_le (before symbols : List (Symbol × Nat)) :
    (marked before symbols).length ≤ symbols.countP fun symbol => isVoiceId symbol.1.text := by
  induction symbols generalizing before with
  | nil => exact Nat.le_refl _
  | cons voice rest ih =>
    have hrest := ih (voice :: before)
    rw [marked, List.length_append, List.countP_cons]
    cases hline : lineOf? before voice.1 with
    | none =>
      rw [Option.toList_none, List.length_nil]
      omega
    | some line =>
      have hvoice : isVoiceId voice.1.text = true := by
        simp only [lineOf?, Option.bind_eq_bind, Option.bind_eq_some_iff] at hline
        obtain ⟨id, hid, -⟩ := hline
        rw [isVoiceId, hid, Option.isSome_some]
      rw [Option.toList_some, List.length_singleton, if_pos hvoice]
      omega

/-- Numbering symbols does not change how many of them there are. -/
theorem countP_zipIdx (p : Symbol → Bool) (symbols : List Symbol) :
    symbols.zipIdx.countP (fun symbol => p symbol.1) = symbols.countP p := by
  have hmap := List.countP_map (p := p) (f := Prod.fst) (l := symbols.zipIdx)
  rw [List.zipIdx_map_fst] at hmap
  exact hmap.symm

/-- The lines are different symbols that are no voice ids. -/
theorem length_extract_le (table : SymbolTable) :
    (extract table).length ≤ table.symbols.countP fun symbol => !isVoiceId symbol.text := by
  have hsubset : (extract table).map (·.symbolIndex) ⊆
      (table.symbols.zipIdx.filter fun symbol => !isVoiceId symbol.1.text).map (·.2) := by
    intro index hindex
    obtain ⟨line, hline, rfl⟩ := List.mem_map.1 hindex
    obtain ⟨symbol, hsymbol, hvoice, -⟩ := exists_symbol_of_mem_extract hline
    refine List.mem_map.2 ⟨(symbol, line.symbolIndex), List.mem_filter.2 ⟨?_, by simp [hvoice]⟩, rfl⟩
    exact List.mem_zipIdx_iff_getElem?.2 hsymbol
  have hle := (nodup_symbolIndex_extract table).length_le_of_subset hsubset
  rw [List.length_map, List.length_map, ← List.countP_eq_length_filter] at hle
  rwa [countP_zipIdx fun symbol => !isVoiceId symbol.text] at hle

/-- There are at least twice as many symbols as lines. -/
theorem two_mul_length_extract_le (table : SymbolTable) : 2 * (extract table).length ≤ table.symbols.length := by
  have hmarked : (extract table).length ≤ table.symbols.countP fun symbol => isVoiceId symbol.text := by
    calc (extract table).length
        = (keepFirst [] (marked [] table.symbols.zipIdx)).length := (List.mergeSort_perm _ _).length_eq
      _ ≤ (marked [] table.symbols.zipIdx).length := (keepFirst_sublist _ _).length_le
      _ ≤ table.symbols.zipIdx.countP fun symbol => isVoiceId symbol.1.text := length_marked_le _ _
      _ = table.symbols.countP fun symbol => isVoiceId symbol.text := countP_zipIdx (fun symbol => isVoiceId symbol.text) _
  have hspoken := length_extract_le table
  have hsum := List.length_eq_countP_add_countP (fun symbol : Symbol => isVoiceId symbol.text) (l := table.symbols)
  simp only [Bool.not_eq_true, Bool.decide_eq_false] at hsum
  omega

end Dialogue

/-- A script has at most 32767 lines. -/
theorem Script.length_dialogue_le {bytes : Bytes} {catalog : Catalog} {encoding : Encoding} {script : Script}
    (h : Script.parse? bytes catalog encoding = .ok (some script)) : script.dialogue.length ≤ 32767 := by
  obtain ⟨header, symbols, blocks, invocations, hheader, -, rfl⟩ := Script.parse?_eq_ok_some_iff.1 h
  obtain ⟨texts, blockCount, symbolTableEnd, blockTableEnd, hreadable, -, -, rfl⟩ := Header.read?_eq_ok_some_iff.1 hheader
  have htwice := Dialogue.two_mul_length_extract_le (texts.symbolTable encoding)
  have hlength := hreadable.symbols_length
  rw [UInt16.size] at hlength
  have hsymbols : (texts.symbolTable encoding).symbols.length = texts.symbols.length := by
    rw [Texts.symbolTable, Texts.length_symbolsFrom]
  show (Dialogue.extract (texts.symbolTable encoding)).length ≤ 32767
  omega

/-! ## Imports by the number of the line -/

namespace Script

/-- Replaces the texts of lines, which are given by their numbers, one after another. The first fault ends this; the edits before it
stay. -/
def editLines (script : Script) (cap : Nat) : List (Nat × String) → Script × Except ScriptError (List EditOutcome)
  | [] => (script, .ok [])
  | (index, text) :: rest =>
    match script.edit index text cap with
    | .error e => (script, .error e)
    | .ok (edited, outcome) =>
      let (final, outcomes) := edited.editLines cap rest
      (final, outcomes.map (outcome :: ·))

/-- An import edits the lines whose numbers are read from the keys. -/
theorem importEntries_eq_editLines {entries : List (String × String)} {edits : List (Nat × String)}
    (h : List.Forall₂ (fun entry edit => ImportKey.index entry.1 = .ok edit.1 ∧ entry.2 = edit.2) entries edits) (script : Script)
    (cap : Nat) : script.importEntries cap entries = script.editLines cap edits := by
  induction h generalizing script with
  | nil => rfl
  | @cons entry edit entries edits hfirst hrest ih =>
    obtain ⟨key, text⟩ := entry
    obtain ⟨index, text'⟩ := edit
    obtain ⟨hkey, rfl⟩ := hfirst
    rw [importEntries, importEntry, hkey, editLines]
    simp only [bind, Except.bind]
    cases script.edit index text cap with
    | error e => rfl
    | ok result => simp only [ih]

/-- The entry of a line. -/
theorem dialogueEntries_getElem? {script : Script} {index : Nat} {entry : DialogueEntry} :
    script.dialogueEntries[index]? = some entry ↔
      ∃ line, script.line index = .ok line ∧ entry = ⟨ImportKey.ofLine index line, line.speaker.name, line.text⟩ := by
  simp only [dialogueEntries, List.getElem?_mapIdx, Option.map_eq_some_iff, line_eq_ok_iff]
  constructor
  · rintro ⟨line, hline, rfl⟩
    exact ⟨line, hline, rfl⟩
  · rintro ⟨line, hline, rfl⟩
    exact ⟨line, hline, rfl⟩

/-- The key of an exported entry is read as the number of its line if that is below 10000, and otherwise as this number without its
last digit. -/
theorem index_key {bytes : Bytes} {catalog : Catalog} {encoding : Encoding} {script : Script}
    (h : Script.parse? bytes catalog encoding = .ok (some script)) {index : Nat} {entry : DialogueEntry}
    (hentry : script.dialogueEntries[index]? = some entry) : ImportKey.index entry.key = .ok (ImportKey.meant index) := by
  obtain ⟨line, hline, rfl⟩ := dialogueEntries_getElem?.1 hentry
  obtain ⟨hlt, -⟩ := List.getElem?_eq_some_iff.1 (line_eq_ok_iff.1 hline)
  have hle := length_dialogue_le h
  exact ImportKey.index_ofLine (by omega) line

theorem length_dialogueEntries (script : Script) : script.dialogueEntries.length = script.dialogue.length := by
  rw [dialogueEntries, List.length_mapIdx]

/-- A script has at most 32767 lines, and the key of an exported entry is read as the number of its line exactly if that is below
10000. An import of the exported entries with whatever texts edits the lines whose numbers are read, so that of a script with at most
10000 lines each line gets the text of its own entry. -/
theorem importEntries_dialogueEntries {bytes : Bytes} {catalog : Catalog} {encoding : Encoding} {script : Script}
    (h : Script.parse? bytes catalog encoding = .ok (some script)) :
    script.dialogue.length ≤ 32767 ∧
    (∀ index entry, script.dialogueEntries[index]? = some entry →
      ImportKey.index entry.key = .ok (ImportKey.meant index) ∧ (ImportKey.index entry.key = .ok index ↔ index < 10000)) ∧
    ∀ (texts : List String) (cap : Nat), texts.length = script.dialogue.length →
      script.importEntries cap ((script.dialogueEntries.zip texts).map fun edit => (edit.1.key, edit.2)) =
          script.editLines cap (texts.mapIdx fun index text => (ImportKey.meant index, text)) ∧
        (script.dialogue.length ≤ 10000 →
          script.importEntries cap ((script.dialogueEntries.zip texts).map fun edit => (edit.1.key, edit.2)) =
            script.editLines cap (texts.mapIdx fun index text => (index, text))) := by
  have hkeys : ∀ index entry, script.dialogueEntries[index]? = some entry →
      ImportKey.index entry.key = .ok (ImportKey.meant index) := fun index entry hentry => index_key h hentry
  refine ⟨length_dialogue_le h, ?_, ?_⟩
  · intro index entry hentry
    have hkey := hkeys index entry hentry
    refine ⟨hkey, ?_⟩
    rw [hkey, Except.ok.injEq, ImportKey.meant_eq_self_iff]
  · intro texts cap hlength
    have himport : script.importEntries cap ((script.dialogueEntries.zip texts).map fun edit => (edit.1.key, edit.2)) =
        script.editLines cap (texts.mapIdx fun index text => (ImportKey.meant index, text)) := by
      refine importEntries_eq_editLines (List.forall₂_iff_get.2 ⟨?_, ?_⟩) script cap
      · simp [length_dialogueEntries, hlength]
      · intro index hentry hedit
        simp only [List.length_map, List.length_zip, List.length_mapIdx] at hentry hedit
        simp only [List.get_eq_getElem, List.getElem_map, List.getElem_zip, List.getElem_mapIdx, and_true]
        exact hkeys index _ (List.getElem?_eq_getElem (by omega))
    refine ⟨himport, fun hfew => himport.trans ?_⟩
    congr 1
    refine List.mapIdx_eq_mapIdx_iff.2 fun index hindex => ?_
    rw [ImportKey.meant_eq_self_iff.2 (by omega)]

theorem dialogueEntries_sample :
    sample.dialogueEntries = [⟨"0000_KYN", "Kyon", "Hi."⟩, ⟨"0001_HRH", "Haruhi", "Bye."⟩] := by
  decide +kernel

/-- The entries of the sample with other texts. -/
theorem importEntries_dialogueEntries_sample :
    Script.parse? sample.bytes Catalog.sample sample.encoding = .ok (some sample) ∧
      sample.importEntries 256 [("0000_KYN", "Hello there."), ("0001_HRH", "See you.")] =
        sample.editLines 256 [(0, "Hello there."), (1, "See you.")] := by
  have hparsed := consistent_sample.parsed
  obtain ⟨-, -, himport⟩ := importEntries_dialogueEntries hparsed
  have hedits := (himport ["Hello there.", "See you."] 256 (by decide)).2 (by decide)
  rw [dialogueEntries_sample] at hedits
  exact ⟨hparsed, hedits⟩

end Script

/-! ## A script with many lines -/

/-- A line and its voice id, again and again. -/
def Texts.crowdSymbols : Nat → List Bytes
  | 0 => []
  | n + 1 => #[72, 105, 46, 0] :: #[86, 95, 75, 89, 78, 48, 49, 0] :: crowdSymbols n

/-- The file of a script with many lines and no blocks. -/
def Image.crowd (n : Nat) : Image where
  texts := { sample.texts with symbols := Texts.crowdSymbols n }
  entries := []
  body := #[]

/-- What marks the lines. -/
def LineMark.crowd (index : Nat) : LineMark :=
  ⟨.ofCode "KYN", 2 * index, "V_KYN01"⟩

theorem Texts.length_crowdSymbols (n : Nat) : (crowdSymbols n).length = 2 * n := by
  induction n with
  | zero => rfl
  | succ n ih =>
    rw [crowdSymbols, List.length_cons, List.length_cons, ih]
    omega

theorem Texts.crowdSymbols_getElem? {n index : Nat} (h : index < n) : (crowdSymbols n)[2 * index]? = some #[72, 105, 46, 0] := by
  induction n generalizing index with
  | zero => cases h
  | succ n ih =>
    cases index with
    | zero => rfl
    | succ index => exact ih (Nat.lt_of_succ_lt_succ h)

theorem Texts.size_concat_crowdSymbols (n : Nat) : (concat ((crowdSymbols n).map StoredText.written)).size = 20 * n := by
  induction n with
  | zero => rfl
  | succ n ih =>
    rw [crowdSymbols, List.map_cons, List.map_cons, concat_cons, concat_cons, Array.size_append, Array.size_append, ih,
      StoredText.size_written, StoredText.size_written]
    simp only [List.size_toArray, List.length_cons, List.length_nil]
    omega

namespace Dialogue

/-- A symbol that is neither a voice id nor a short code is the line of a voice id behind it. -/
theorem spoken?_cons {found : Symbol × Nat} (before : List (Symbol × Nat)) (hvoice : isVoiceId found.1.text = false)
    (hcode : isShortCode found.1.text = false) : spoken? (found :: before) = some found := by
  rw [spoken?, List.dropWhile_cons_of_neg (by simp [hvoice])]
  cases before with
  | nil => rfl
  | cons previous before => simp only [hcode, Bool.false_eq_true, if_false]

/-- Lines that are different symbols are all kept. -/
theorem keepFirst_of_nodup {taken : List Nat} {lines : List DialogueLine} (hnodup : (lines.map (·.symbolIndex)).Nodup)
    (hfree : ∀ line ∈ lines, line.symbolIndex ∉ taken) : keepFirst taken lines = lines := by
  induction lines generalizing taken with
  | nil => rfl
  | cons line rest ih =>
    rw [List.map_cons, List.nodup_cons] at hnodup
    rw [keepFirst, if_neg (hfree line (List.mem_cons_self ..)), ih hnodup.2]
    intro other hother hmem
    rcases List.mem_cons.1 hmem with heq | hmem
    · exact hnodup.1 (List.mem_map.2 ⟨other, hother, heq⟩)
    · exact hfree other (List.mem_cons_of_mem _ hother) hmem

/-- The lines of the crowd, if its symbols stand from `pos` on and are numbered from `first` on. -/
theorem marked_crowdSymbols (before : List (Symbol × Nat)) (pos first n : Nat) :
    marked before ((Texts.symbolsFrom .shiftJis pos (Texts.crowdSymbols n)).zipIdx first) =
      (List.range n).map fun index => ⟨"Hi.", .ofCode "KYN", pos + 20 * index, first + 2 * index, "V_KYN01"⟩ := by
  induction n generalizing before pos first with
  | zero => rfl
  | succ n ih =>
    have hline : lineOf? before ⟨pos, "Hi."⟩ = none := by
      rw [lineOf?, show VoiceId.parse? "Hi." = none by decide +kernel]
      rfl
    have hid : VoiceId.parse? "V_KYN01" = some ⟨"V", "KYN", "01"⟩ := by decide +kernel
    have hspoken : isVoiceId "Hi." = false ∧ isShortCode "Hi." = false := by decide +kernel
    have htext : LineBreak.unescape "Hi." = "Hi." := by decide +kernel
    have hvoice : lineOf? ((⟨pos, "Hi."⟩, first) :: before) ⟨pos + 8, "V_KYN01"⟩ =
        some ⟨"Hi.", .ofCode "KYN", pos, first, "V_KYN01"⟩ := by
      rw [lineOf?, hid, spoken?_cons before hspoken.1 hspoken.2]
      simp only [Option.bind_eq_bind, Option.bind_some, htext]
    have hsymbols : Texts.symbolsFrom .shiftJis pos (Texts.crowdSymbols (n + 1)) =
        ⟨pos, "Hi."⟩ :: ⟨pos + 8, "V_KYN01"⟩ :: Texts.symbolsFrom .shiftJis (pos + 20) (Texts.crowdSymbols n) := by rfl
    rw [hsymbols, List.zipIdx_cons, List.zipIdx_cons, marked, marked, hline, hvoice, ih, List.range_succ_eq_map, List.map_cons,
      List.map_map]
    simp only [Option.toList_none, Option.toList_some, List.nil_append, List.singleton_append, Nat.mul_zero, Nat.add_zero,
      List.cons.injEq, true_and]
    refine List.map_congr_left fun index _ => ?_
    simp only [Function.comp_apply, DialogueLine.mk.injEq, true_and, and_true]
    omega

end Dialogue

/-- All lines of the crowd are found, in their order. -/
theorem Image.marks_crowd (n : Nat) : ((crowd n).texts.symbolTable .shiftJis).marks = (List.range n).map LineMark.crowd := by
  have hmarked : Dialogue.marked [] ((crowd n).texts.symbolTable .shiftJis).symbols.zipIdx =
      (List.range n).map fun index => ⟨"Hi.", .ofCode "KYN", (crowd n).texts.symbolsStart + 20 * index, 0 + 2 * index, "V_KYN01"⟩ :=
    Dialogue.marked_crowdSymbols [] _ 0 n
  have hnodup : (((List.range n).map fun index : Nat =>
      (⟨"Hi.", .ofCode "KYN", (crowd n).texts.symbolsStart + 20 * index, 0 + 2 * index, "V_KYN01"⟩ : DialogueLine)).map
        (·.symbolIndex)).Nodup := by
    rw [List.map_map, List.Nodup, List.pairwise_map]
    refine List.nodup_range.imp fun hne => ?_
    simp only [Function.comp_apply]
    omega
  rw [SymbolTable.marks, Dialogue.extract, hmarked, Dialogue.keepFirst_of_nodup hnodup (fun _ _ => List.not_mem_nil),
    List.mergeSort_of_pairwise, List.map_map]
  · refine List.map_congr_left fun index _ => ?_
    simp only [Function.comp_apply, DialogueLine.mark, LineMark.crowd, Nat.zero_add]
  · rw [List.pairwise_map]
    refine List.pairwise_lt_range.imp fun h => ?_
    simp only [decide_eq_true_eq]
    omega

/-- What is known of the crowd besides its file. -/
def View.crowd (n : Nat) : View :=
  (Image.crowd n).freshView .shiftJis []

namespace Image

theorem size_crowd (n : Nat) : (crowd n).toBytes.size = 33 + 20 * n := by
  simp only [size_toBytes, base, Texts.symbolsEnd, Texts.symbolsStart, Texts.size_identityBytes, Texts.symbolBytes,
    StoredText.size_written, crowd, sample, Texts.size_concat_crowdSymbols, List.size_toArray, List.length_cons, List.length_nil]
  omega

theorem valid_crowd {n : Nat} (h : n ≤ 32767) : (crowd n).Valid .shiftJis := by
  refine ⟨valid_sample.name, ?_, (by decide : 0 < UInt16.size), fun _ hentry => (nomatch hentry), ?_⟩
  · have hlength := Texts.length_crowdSymbols n
    simp only [crowd, UInt16.size]
    omega
  · rw [size_crowd, sizeLimit]
    omega

theorem marks_getElem?_crowd {n index : Nat} (h : index < n) : (View.crowd n).marks[index]? = some (LineMark.crowd index) := by
  have hmarks : (View.crowd n).marks = (List.range n).map LineMark.crowd := marks_crowd n
  rw [hmarks, List.getElem?_map, List.getElem?_range h, Option.map_some]

/-- Each line shows the same text. -/
theorem text_crowd {n index : Nat} (h : index < n) :
    (crowd n).texts.stored (LineMark.crowd index).symbolIndex = #[72, 105, 46, 0] ∧
      ((crowd n).texts.line .shiftJis (LineMark.crowd index)).text = "Hi." := by
  have hstored : (crowd n).texts.stored (LineMark.crowd index).symbolIndex = #[72, 105, 46, 0] := by
    have hget := Texts.crowdSymbols_getElem? h
    simp only [Texts.stored, crowd, LineMark.crowd, hget, Option.getD_some]
  refine ⟨hstored, ?_⟩
  simp only [Texts.line, Texts.symbolText, hstored]
  decide +kernel

theorem edit?_crowd {n index : Nat} (h : index < n) : (crowd n).edit? (View.crowd n) index "Hello." 256 =
    some ((crowd n).retext (2 * index) #[72, 101, 108, 108, 111, 46], ⟨index, 3, none⟩) := by
  obtain ⟨hstored, htext⟩ := text_crowd h
  have hencoding : (View.crowd n).encoding = .shiftJis := rfl
  have hbytes : (Encoding.shiftJis.capLine "Hello." 256) = ⟨[72, 101, 108, 108, 111, 46], 6⟩ := by decide +kernel
  unfold edit?
  simp only [marks_getElem?_crowd h, hencoding, htext, hstored, hbytes]
  rfl

/-- The edit of a line leaves the others as they are. -/
theorem line_crowd {n index other : Nat} (h : index < n) (hother : other < n) :
    ∃ line, (((crowd n).retext (2 * index) #[72, 101, 108, 108, 111, 46]).script (View.crowd n)).line other = .ok line ∧
      line.text = if index = other then "Hello." else "Hi." := by
  rw [line_script, marks_getElem?_crowd hother]
  refine ⟨_, rfl, ?_⟩
  have hencoding : (View.crowd n).encoding = .shiftJis := rfl
  have hlength := Texts.length_crowdSymbols n
  have hlt : 2 * index < (crowd n).texts.symbols.length := by
    simp only [crowd]
    omega
  simp only [hencoding, Texts.line, texts_retext, LineMark.crowd]
  split
  next heq =>
    rw [← heq, Texts.symbolText_retext_self hlt]
    decide +kernel
  next hne =>
    obtain ⟨-, htext⟩ := text_crowd hother
    rw [Texts.symbolText_retext_of_ne (by omega)]
    exact htext

theorem edit_crowd {n index : Nat} (hn : n ≤ 32767) (h : index < n) :
    ((crowd n).script (View.crowd n)).edit index "Hello." 256 =
      .ok (((crowd n).retext (2 * index) #[72, 101, 108, 108, 111, 46]).script (View.crowd n), ⟨index, 3, none⟩) := by
  have hfits : (View.crowd n).Fits (crowd n) := @fits_freshView _ Catalog.sample _ _ .nil .nil
  have hvalid : (crowd n).Valid (View.crowd n).encoding := valid_crowd hn
  have hlt := hfits.symbolIndex_lt (LineMark.crowd index) (List.mem_of_getElem? (marks_getElem?_crowd h))
  have hstored : ((crowd n).texts.stored (2 * index)).size = 4 := congrArg Array.size (text_crowd h).1
  have hsize := size_toBytes_retext #[72, 101, 108, 108, 111, 46] hlt (by rw [LineMark.crowd, hstored]; decide)
  obtain ⟨edited, hedit, -, hscript⟩ := exists_edit_script hvalid hfits (edit?_crowd h)
  rw [hedit, hscript]
  simp only [LineMark.crowd, size_crowd, Array.size_pop, hstored, List.size_toArray, List.length_cons, List.length_nil] at hsize
  rw [sizeLimit]
  omega

theorem importEntries_crowd {n index : Nat} (hn : n ≤ 32767) (h : index < n) {key : String} (hkey : ImportKey.index key = .ok index) :
    ((crowd n).script (View.crowd n)).importEntries 256 [(key, "Hello.")] =
      (((crowd n).retext (2 * index) #[72, 101, 108, 108, 111, 46]).script (View.crowd n), .ok [⟨index, 3, none⟩]) := by
  rw [Script.importEntries, Script.importEntry, hkey]
  simp only [bind, Except.bind, edit_crowd hn h]
  rfl

theorem length_dialogue_crowd (n : Nat) : ((crowd n).script (View.crowd n)).dialogue.length = n := by
  have hdialogue : ((crowd n).script (View.crowd n)).dialogue.length = ((crowd n).texts.symbolTable .shiftJis).marks.length :=
    List.length_map ..
  rw [hdialogue, marks_crowd, List.length_map, List.length_range]

/-- The entry of a line in an exported project. -/
theorem dialogueEntries_crowd {n index : Nat} (h : index < n) : ((crowd n).script (View.crowd n)).dialogueEntries[index]? =
    some ⟨ImportKey.paddedDecimal 4 index ++ "_KYN", "Kyon", "Hi."⟩ := by
  have hline : ((crowd n).script (View.crowd n)).line index = .ok ((crowd n).texts.line .shiftJis (LineMark.crowd index)) := by
    rw [line_script, marks_getElem?_crowd h]
    rfl
  refine Script.dialogueEntries_getElem?.2 ⟨_, hline, ?_⟩
  have hspeaker : ((crowd n).texts.line .shiftJis (LineMark.crowd index)).speaker = .kyon := by rfl
  rw [ImportKey.ofLine, hspeaker, (text_crowd h).2]
  show _ = (⟨ImportKey.paddedDecimal 4 index ++ "_" ++ "KYN", "Kyon", "Hi."⟩ : DialogueEntry)
  rw [String.append_assoc]
  rfl

theorem parse?_crowd {n : Nat} (h : n ≤ 32767) :
    Script.parse? (crowd n).toBytes Catalog.sample .shiftJis = .ok (some ((crowd n).script (View.crowd n))) :=
  (valid_crowd h).toReadable.parse?_eq_ok_some_iff.2 ⟨[], .nil, .nil, rfl⟩

end Image

/-- The key of an exported entry need not mean its own line. In a script with 10001 lines, the last one is exported with a key that is
read as 1000, and an import of its entry gives the text to the line of that number. -/
theorem Script.index_key_false : ∃ script edited line last,
    Script.parse? (Image.crowd 10001).toBytes Catalog.sample .shiftJis = .ok (some script) ∧ script.dialogue.length = 10001 ∧
      script.dialogueEntries[10000]? = some ⟨"10000_KYN", "Kyon", "Hi."⟩ ∧ ImportKey.index "10000_KYN" = .ok 1000 ∧
      script.importEntries 256 [("10000_KYN", "Hello.")] = (edited, .ok [⟨1000, 3, none⟩]) ∧
      edited.line 1000 = .ok line ∧ line.text = "Hello." ∧ edited.line 10000 = .ok last ∧ last.text = "Hi." := by
  have hkey : ImportKey.index "10000_KYN" = .ok 1000 := by decide +kernel
  have hname : ImportKey.paddedDecimal 4 10000 ++ "_KYN" = "10000_KYN" := by decide +kernel
  have hentry := Image.dialogueEntries_crowd (show 10000 < 10001 by decide)
  rw [hname] at hentry
  obtain ⟨line, hline, htext⟩ := Image.line_crowd (show 1000 < 10001 by decide) (show 1000 < 10001 by decide)
  obtain ⟨last, hlast, htext'⟩ := Image.line_crowd (show 1000 < 10001 by decide) (show 10000 < 10001 by decide)
  exact ⟨_, _, line, last, Image.parse?_crowd (by decide), Image.length_dialogue_crowd _, hentry, hkey,
    Image.importEntries_crowd (by decide) (by decide) hkey, hline, htext, hlast, htext'⟩

end SceneScript
