import SceneScript.Proofs.Alignment
import SceneScript.Proofs.Names
import SceneScript.Proofs.ReadBack

/-!
# What a line shows after an edit

A text passes through four steps before a line shows it: its line breaks are written as a backslash and an `n`, its characters as
bytes, and both are undone. The result is `Encoding.readBack` of the text, if it was not cut and the encoding has all of its characters
(`Script.text_of_edit`). This is the text itself, with every carriage return and line feed turned into a line feed, unless it has a
backslash or a character that shares its code with another one: then a line may show another text (`Script.text_of_edit_false`).
-/

namespace SceneScript

/-! ## Line breaks -/

namespace LineBreak

/-- No character comes from a line break that was not there. -/
theorem mem_of_mem_normalizeChars {c : Char} {text : List Char} (h : c ∈ normalizeChars text) : c ∈ text := by
  fun_induction normalizeChars text with
  | case1 rest ih =>
    rcases List.mem_cons.1 h with rfl | h
    · simp
    · simp [ih h]
  | case2 other rest hother ih =>
    rcases List.mem_cons.1 h with rfl | h
    · simp
    · simp [ih h]
  | case3 => exact h

/-- Writing line breaks adds backslashes and the letter only. -/
theorem mem_of_mem_encodeChars {c : Char} {text : List Char} (h : c ∈ encodeChars text) : c ∈ text ∨ c = '\\' ∨ c = 'n' := by
  induction text with
  | nil => exact .inl h
  | cons other rest ih =>
    rw [encodeChars] at h
    split at h
    · simp only [List.mem_cons] at h ⊢
      rcases h with rfl | rfl | h
      · exact .inr (.inl rfl)
      · exact .inr (.inr rfl)
      · exact (ih h).imp_left .inr
    · simp only [List.mem_cons] at h ⊢
      rcases h with rfl | h
      · exact .inl (.inl rfl)
      · exact (ih h).imp_left .inr

theorem unescapeChars_cons {c : Char} {rest : List Char} (h : ∀ tail, c = '\\' → rest ≠ 'n' :: tail) :
    unescapeChars (c :: rest) = c :: unescapeChars rest := by
  rw [unescapeChars]
  intro tail hc hrest
  exact h tail hc hrest

/-- A text without backslashes has no written line break. -/
theorem unescapeChars_of_notMem {text : List Char} (h : '\\' ∉ text) : unescapeChars text = text := by
  induction text with
  | nil => rfl
  | cons c rest ih =>
    rw [List.mem_cons, not_or] at h
    rw [unescapeChars_cons (fun _ hc => absurd hc.symm h.1), ih h.2]

section

variable {fold : Char → Char}

/-- A written text that starts with the letter did so before its line breaks were written. -/
theorem exists_of_map_encodeChars_eq_cons (hbackslash : fold '\\' = '\\') {text tail : List Char}
    (h : (encodeChars text).map fold = 'n' :: tail) : ∃ rest, text.map fold = 'n' :: rest := by
  cases text with
  | nil => nomatch h
  | cons c rest =>
    rw [encodeChars] at h
    split at h
    · rw [List.map_cons, hbackslash] at h
      exact absurd (List.cons.inj h).1 (by decide)
    · rw [List.map_cons, (List.cons.inj h).1]
      exact ⟨_, rfl⟩

/-- Line breaks that are written are read back, whatever the other characters are read back as. -/
theorem unescapeChars_map_encodeChars (hbackslash : fold '\\' = '\\') (hletter : fold 'n' = 'n') (hbreak : fold '\n' = '\n')
    (text : List Char) : unescapeChars ((encodeChars text).map fold) = unescapeChars (text.map fold) := by
  have hne : ∀ {c : Char}, fold c ≠ '\n' → c ≠ '\n' := by
    rintro _ h rfl
    exact h hbreak
  -- By the text that is read back: a backslash and the letter that arise there are read as a line break on both sides.
  generalize hfolded : text.map fold = folded
  fun_induction unescapeChars folded generalizing text with
  | case1 rest ih =>
    obtain ⟨first, _, rfl, hfirst, hrest⟩ := List.map_eq_cons_iff.1 hfolded
    obtain ⟨second, others, rfl, hsecond, hothers⟩ := List.map_eq_cons_iff.1 hrest
    have hfirst' : first ≠ '\n' := hne (by rw [hfirst]; decide)
    have hsecond' : second ≠ '\n' := hne (by rw [hsecond]; decide)
    rw [encodeChars, if_neg hfirst', encodeChars, if_neg hsecond', List.map_cons, List.map_cons, hfirst, hsecond, unescapeChars,
      ih others hothers]
  | case2 c rest hc ih =>
    obtain ⟨first, others, rfl, hfirst, hothers⟩ := List.map_eq_cons_iff.1 hfolded
    rw [encodeChars]
    split
    next hbreak' =>
      rw [List.map_cons, List.map_cons, hbackslash, hletter, unescapeChars, ih others hothers, ← hfirst, hbreak', hbreak]
    next =>
      rw [List.map_cons, hfirst, unescapeChars_cons, ih others hothers]
      intro tail hbackslash' htail
      obtain ⟨tail', htail'⟩ := exists_of_map_encodeChars_eq_cons hbackslash htail
      exact hc tail' hbackslash' (hothers ▸ htail')
  | case3 =>
    rw [List.map_eq_nil_iff.1 hfolded]
    rfl

end

/-- A backslash and an `n` are written as they are, so they are read as a line break whether it was written for one or not. -/
theorem unescapeChars_encodeChars_eq (text : List Char) : unescapeChars (encodeChars text) = unescapeChars text := by
  have hread := @unescapeChars_map_encodeChars id rfl rfl rfl text
  rwa [List.map_id, List.map_id] at hread

end LineBreak

/-! ## Texts -/

namespace Encoding

variable {encoding : Encoding} {text : String}

/-- What a text is read back as once it is written for a line: its characters as they are read back, and a backslash and an `n` among
them as a line break. -/
def readBack (encoding : Encoding) (text : String) : String :=
  LineBreak.unescape (String.ofList ((LineBreak.normalize text).toList.map encoding.fold))

/-- Every encoding has the characters of a text in ASCII, and they are read back as they are. -/
theorem writes_of_ascii (encoding : Encoding) (text : String) (h : (text.toList.all fun c => c.toNat < 0x80) = true) :
    encoding.Writes text.toList ∧ ∀ c ∈ text.toList, encoding.fold c = c := by
  simp only [List.all_eq_true, decide_eq_true_eq] at h
  constructor
  · intro c hc
    exact encoding.encodeChar?_of_ascii (h c hc)
  · intro c hc
    exact encoding.fold_of_ascii (h c hc)

/-- An encoding that has the characters of a text has those of its stored form, too. -/
theorem Writes.escape (h : encoding.Writes text.toList) : encoding.Writes (LineBreak.escape text).toList := by
  intro c hc
  rw [LineBreak.escape, String.toList_ofList] at hc
  rcases LineBreak.mem_of_mem_encodeChars hc with hc | rfl | rfl
  · exact h c (LineBreak.mem_of_mem_normalizeChars hc)
  · exact encoding.encodeChar?_of_ascii (by decide)
  · exact encoding.encodeChar?_of_ascii (by decide)

/-- A text that is written for a line is read back from the bytes of the line. -/
theorem unescape_decode_encode (h : encoding.Writes text.toList)
    (hmark : encoding = .gbk → marked? (encoding.encode (LineBreak.escape text)) = none) :
    LineBreak.unescape (encoding.decode (encoding.encode (LineBreak.escape text))) = encoding.readBack text := by
  have hunmarked : encoding = .utf8 ∨ marked? (encoding.encodeChars (LineBreak.escape text).toList) = none := by
    cases encoding with
    | shiftJis => exact .inr (ShiftJis.marked?_encodeChars _)
    | gbk => exact .inr (hmark rfl)
    | utf8 => exact .inl rfl
  have hread := decodeChars_encodeChars h.escape hunmarked
  rw [decode, encode, hread, LineBreak.escape, readBack, LineBreak.normalize, LineBreak.unescape, LineBreak.unescape]
  simp only [String.toList_ofList]
  rw [LineBreak.unescapeChars_map_encodeChars (encoding.fold_of_ascii (by decide)) (encoding.fold_of_ascii (by decide))
    (encoding.fold_of_ascii (by decide))]

/-- A text without backslashes whose characters are read back as they are. -/
theorem readBack_eq_normalize (h : '\\' ∉ text.toList) (hfold : ∀ c ∈ text.toList, encoding.fold c = c) :
    encoding.readBack text = LineBreak.normalize text := by
  have hchars : (LineBreak.normalizeChars text.toList).map encoding.fold = LineBreak.normalizeChars text.toList :=
    (List.map_congr_left fun c hc => hfold c (LineBreak.mem_of_mem_normalizeChars hc)).trans (List.map_id _)
  have hbackslash : '\\' ∉ LineBreak.normalizeChars text.toList := fun hmem => h (LineBreak.mem_of_mem_normalizeChars hmem)
  simp only [readBack, LineBreak.normalize, LineBreak.unescape, String.toList_ofList]
  rw [hchars, LineBreak.unescapeChars_of_notMem hbackslash]

/-- A text that is not cut is stored whole. -/
theorem bytes_capLine_of_truncation? {index cap : Nat} (h : (encoding.capLine text cap).truncation? index cap = none) :
    (encoding.capLine text cap).bytes = encoding.encode (LineBreak.escape text) :=
  encoding.bytes_encodeCapped_of_length_le (truncation?_capLine_eq_none_iff.1 h)

end Encoding

/-! ## Lines -/

namespace Script

variable {script edited : Script} {index cap : Nat} {text : String} {line : DialogueLine} {outcome : EditOutcome}

/-- An edit that is not for the text that the line has already leaves the line with what is read from the bytes that are stored, and
tells whether they are cut. -/
theorem exists_shown_of_edit (hline : script.line index = .ok line) (hnew : line.text ≠ text)
    (hedit : script.edit index text cap = .ok (edited, outcome)) :
    ∃ shown, edited.line index = .ok shown ∧
      shown.text = LineBreak.unescape (script.encoding.decode (script.encoding.capLine text cap).bytes) ∧
      outcome.truncation = (script.encoding.capLine text cap).truncation? index cap := by
  obtain ⟨patch, -, -, -, -, -, -, hoffset, htext, -, -, -, hedited, -, htruncation⟩ := exists_patch_of_edit hline hnew hedit
  rw [line_eq_ok_iff] at hline
  have hread : edited.dialogue[index]? = some (rebaseLine patch (script.encoding.decode patch.newText.toList) line) := by
    rw [hedited, Script.rebase, List.getElem?_map, hline]
    rfl
  refine ⟨_, line_eq_ok_iff.2 hread, ?_, htruncation⟩
  rw [rebaseLine, if_pos hoffset.symm, htext]

/-- A successful edit that does not cut the text leaves the line with the text as it is read back, or as it was if the line had the text
already. That is the given text with its line breaks turned into line feeds, if it has no backslash and its characters are read back
as they are. -/
theorem text_of_edit (hedit : script.edit index text cap = .ok (edited, outcome)) (hwhole : outcome.truncation = none)
    (hwrites : script.encoding.Writes text.toList)
    (hmark : script.encoding = .gbk → Encoding.marked? (script.encoding.encode (LineBreak.escape text)) = none) :
    ∃ line shown, script.line index = .ok line ∧ edited.line index = .ok shown ∧
      (line.text = text → shown.text = text) ∧
      (line.text ≠ text → shown.text = script.encoding.readBack text) ∧
      (line.text ≠ text → '\\' ∉ text.toList → (∀ c ∈ text.toList, script.encoding.fold c = c) →
        shown.text = LineBreak.normalize text) := by
  obtain ⟨line, hline, ⟨hsame, rfl, -⟩ | hnew⟩ := exists_line_of_edit hedit
  · exact ⟨line, line, hline, hline, fun _ => hsame, fun hnew => absurd hsame hnew, fun hnew => absurd hsame hnew⟩
  · obtain ⟨shown, hshown, htext, htruncation⟩ := exists_shown_of_edit hline hnew hedit
    rw [hwhole] at htruncation
    rw [Encoding.bytes_capLine_of_truncation? htruncation.symm, Encoding.unescape_decode_encode hwrites hmark] at htext
    refine ⟨line, shown, hline, hshown, fun hsame => absurd hsame hnew, fun _ => htext, ?_⟩
    intro _ hbackslash hfold
    rw [htext, Encoding.readBack_eq_normalize hbackslash hfold]

end Script

theorem Image.edit?_sampleVerse : Image.sample.edit? View.sample 0 "One.\r\nTwo." 256 =
    some (Image.sample.retext 1 #[79, 110, 101, 46, 92, 110, 84, 119, 111, 46], ⟨0, 7, none⟩) := by
  rfl

/-- The sample shows two lines for a text that an editor broke into two. -/
theorem Script.text_of_edit_sample : ∃ edited outcome line shown, sample.edit 0 "One.\r\nTwo." 256 = .ok (edited, outcome) ∧
    outcome.truncation = none ∧ sample.line 0 = .ok line ∧ line.text ≠ "One.\r\nTwo." ∧ edited.line 0 = .ok shown ∧
    shown.text = "One.\nTwo." := by
  obtain ⟨edited, hedit, -, -⟩ := Image.exists_edit_script Image.valid_sample Image.fits_sample Image.edit?_sampleVerse
  obtain ⟨hwrites, hfold⟩ := sample.encoding.writes_of_ascii "One.\r\nTwo." (by simp)
  obtain ⟨line, shown, hline, hshown, -, -, htext⟩ := text_of_edit hedit rfl hwrites (fun h => absurd h (by decide))
  have hnew : line.text ≠ "One.\r\nTwo." := by
    have hfirst : sample.line 0 = .ok (Image.sample.texts.line .shiftJis ⟨.ofCode "KYN", 1, "V01_KYN0001"⟩) := rfl
    rw [Except.ok.inj (hline.symm.trans hfirst)]
    decide
  refine ⟨edited, _, line, shown, hedit, rfl, hline, hnew, hshown, ?_⟩
  rw [htext hnew (by simp) hfold]
  simp [LineBreak.normalize, LineBreak.normalizeChars]

theorem Image.edit?_sampleYen : Image.sample.edit? View.sample 0 "¥5" 256 =
    some (Image.sample.retext 1 #[92, 53], ⟨0, -1, none⟩) := by
  rfl

/-- The file of the sample with a carriage return and a line break as its first line. -/
def Image.sampleReturn : Image :=
  sample.retext 1 #[13, 92, 110]

/-- It as a script. -/
def Script.sampleReturn : Script :=
  Image.sampleReturn.script View.sample

theorem Script.consistent_sampleReturn : sampleReturn.Consistent Catalog.sample := by
  have hsize : Image.sampleReturn.toBytes.size < sizeLimit := by
    rw [Image.size_toBytes]
    decide
  have hnamed : Named (Image.sampleReturn.texts.symbolTable .shiftJis) Image.sampleReturn.entries View.sample.units :=
    .cons (by rfl) .nil
  have hmarks : (Image.sampleReturn.texts.symbolTable .shiftJis).marks = View.sample.marks := by
    rw [SymbolTable.marks, Dialogue.extract, List.mergeSort_of_pairwise (by decide)]
    decide +kernel
  have hview : Image.sampleReturn.freshView .shiftJis View.sample.units = View.sample := by
    rw [Image.freshView, hmarks]
    rfl
  rw [sampleReturn, ← hview]
  exact Image.consistent (Image.valid_sample.retext hsize) Image.runs_sample hnamed (by decide)

/-- A line need not show the text that was written. Shift_JIS has the yen sign, but writes it as a backslash; and a line that has the
text already keeps its carriage returns. -/
theorem Script.text_of_edit_false :
    (sample.Consistent Catalog.sample ∧ '\\' ∉ "¥5".toList ∧ sample.encoding.Writes "¥5".toList ∧
      ∃ edited outcome shown, sample.edit 0 "¥5" 256 = .ok (edited, outcome) ∧ outcome.truncation = none ∧
        edited.line 0 = .ok shown ∧ shown.text = "\\5" ∧ shown.text ≠ LineBreak.normalize "¥5") ∧
    sampleReturn.Consistent Catalog.sample ∧ '\\' ∉ "\r\n".toList ∧ sampleReturn.encoding.Writes "\r\n".toList ∧
      ∃ edited outcome shown, sampleReturn.edit 0 "\r\n" 256 = .ok (edited, outcome) ∧ outcome.truncation = none ∧
        edited.line 0 = .ok shown ∧ shown.text = "\r\n" ∧ shown.text ≠ LineBreak.normalize "\r\n" := by
  constructor
  · have hsize : (Image.sample.retext 1 #[92, 53]).toBytes.size < sizeLimit := by
      rw [Image.size_toBytes]
      decide
    obtain ⟨edited, hedit, -, heq⟩ := Image.exists_edit_script Image.valid_sample Image.fits_sample Image.edit?_sampleYen
    obtain rfl := heq hsize
    have hwrites : sample.encoding.Writes "¥5".toList := by
      intro c hc
      simp only [String.reduceToList, List.mem_cons, List.not_mem_nil, or_false] at hc
      rcases hc with rfl | rfl
      · exact Option.some_ne_none [0x5C]
      · exact Encoding.encodeChar?_of_ascii _ (by decide)
    have htext : ((Image.sample.retext 1 #[92, 53]).texts.line .shiftJis ⟨.ofCode "KYN", 1, "V01_KYN0001"⟩).text = "\\5" := by
      rfl
    have hne : "\\5" ≠ LineBreak.normalize "¥5" := by simp [LineBreak.normalize, LineBreak.normalizeChars]
    exact ⟨consistent_sample, by simp, hwrites, _, _, _, hedit, rfl, rfl, htext, fun heq => hne (htext.symm.trans heq)⟩
  · have hline : sampleReturn.line 0 = .ok (Image.sampleReturn.texts.line .shiftJis ⟨.ofCode "KYN", 1, "V01_KYN0001"⟩) := rfl
    have htext : (Image.sampleReturn.texts.line .shiftJis ⟨.ofCode "KYN", 1, "V01_KYN0001"⟩).text = "\r\n" := by rfl
    obtain ⟨hwrites, -⟩ := sampleReturn.encoding.writes_of_ascii "\r\n" (by simp)
    refine ⟨consistent_sampleReturn, by simp, hwrites, _, _, _, edit_of_text_eq hline htext 256, rfl, hline, htext, ?_⟩
    rw [htext]
    simp [LineBreak.normalize, LineBreak.normalizeChars]

end SceneScript
