import SceneScript.Proofs.EditFaults
import SceneScript.Proofs.ShownText

/-!
# Edits that are taken back

An edit can be taken back by giving the line the text that it showed before. In UTF-8 this restores the script, and its file byte for
byte, if the bytes of the line are those that the shown text is written with (`Utf8.Restorable`): the old bytes are stored again
(`Image.edit?_edit?`), and everything that the first edit moved is where it was (`Script.Consistent.edit_edit`). The cap of the first
edit does not matter, since the second one does not read what the first one stored; that of the second has to leave room for the old
bytes.
-/

namespace SceneScript

open Bytes

/-! ## Line breaks -/

namespace LineBreak

/-- Line breaks that are read from a text without line feeds are written as they were. -/
theorem encodeChars_unescapeChars {text : List Char} (h : '\n' ∉ text) : encodeChars (unescapeChars text) = text := by
  fun_induction unescapeChars text with
  | case1 rest ih =>
    rw [encodeChars, if_pos rfl, ih fun hmem => h (List.mem_cons_of_mem _ (List.mem_cons_of_mem _ hmem))]
  | case2 c rest hc ih =>
    rw [List.mem_cons, not_or] at h
    rw [encodeChars, if_neg (Ne.symm h.1), ih h.2]
  | case3 => rfl

/-- A stored text has no line feeds. -/
theorem notMem_encodeChars (text : List Char) : '\n' ∉ encodeChars text := by
  induction text with
  | nil => exact List.not_mem_nil
  | cons c rest ih =>
    rw [encodeChars]
    split
    next => simpa using ih
    next hc => simpa [Ne.symm hc] using ih

theorem normalizeChars_cons {c : Char} {rest : List Char} (h : ∀ tail, c = '\r' → rest ≠ '\n' :: tail) :
    normalizeChars (c :: rest) = c :: normalizeChars rest := by
  rw [normalizeChars]
  intro tail hc hrest
  exact h tail hc hrest

/-- A text that is read with a line break at its start was written with one. -/
theorem exists_of_unescapeChars_eq_cons {text tail : List Char} (hbreak : '\n' ∉ text) (h : unescapeChars text = '\n' :: tail) :
    ∃ rest, text = '\\' :: 'n' :: rest := by
  fun_cases unescapeChars text with
  | case1 rest => exact ⟨rest, rfl⟩
  | case2 c rest hc =>
    rw [unescapeChars_cons hc] at h
    exact absurd (List.mem_cons.2 (.inl (List.cons.inj h).1.symm)) hbreak
  | case3 => cases h

/-- The line breaks of a stored text are no carriage returns and line feeds, if none is written behind a carriage return. -/
theorem normalizeChars_unescapeChars {text : List Char} (hbreak : '\n' ∉ text) (hreturn : ¬ ['\r', '\\', 'n'] <:+: text) :
    normalizeChars (unescapeChars text) = unescapeChars text := by
  fun_induction unescapeChars text with
  | case1 rest ih =>
    have hrest : '\n' ∉ rest := fun hmem => hbreak (List.mem_cons_of_mem _ (List.mem_cons_of_mem _ hmem))
    have hinfix : rest <:+: '\\' :: 'n' :: rest := (List.suffix_append ['\\', 'n'] rest).isInfix
    rw [normalizeChars_cons (fun _ hc => absurd hc (by decide)), ih hrest fun h => hreturn (h.trans hinfix)]
  | case2 c rest hc ih =>
    have hrest : '\n' ∉ rest := fun hmem => hbreak (List.mem_cons_of_mem _ hmem)
    rw [normalizeChars_cons, ih hrest fun h => hreturn (h.trans (List.suffix_cons c rest).isInfix)]
    rintro tail rfl htail
    obtain ⟨others, rfl⟩ := exists_of_unescapeChars_eq_cons hrest htail
    exact hreturn (List.prefix_append ['\r', '\\', 'n'] others).isInfix
  | case3 => rfl

end LineBreak

/-! ## Bytes that can be restored -/

/-- What is stored for a line is what fits of its written form. -/
theorem Encoding.bytes_capLine (encoding : Encoding) (text : String) (cap : Nat) :
    (encoding.capLine text cap).bytes = encoding.encodeChars (encoding.fitting cap (LineBreak.escape text).toList) :=
  encoding.bytes_encodeCapped _ cap

/-- What is stored for a line are the characters at the start of its written form. -/
theorem Encoding.exists_bytes_capLine (encoding : Encoding) (text : String) (cap : Nat) :
    ∃ kept, '\n' ∉ kept ∧ (encoding.capLine text cap).bytes = encoding.encodeChars kept := by
  refine ⟨_, fun hmem => ?_, encoding.bytes_capLine text cap⟩
  have hwhole := (encoding.fitting_prefix cap _).mem hmem
  rw [LineBreak.escape, String.toList_ofList] at hwhole
  exact LineBreak.notMem_encodeChars _ hwhole

/-- A line that takes no more bytes than its cap is stored whole. -/
theorem Encoding.capLine_of_length_le {encoding : Encoding} {text : String} {cap : Nat}
    (h : (encoding.encode (LineBreak.escape text)).length ≤ cap) :
    (encoding.capLine text cap).bytes = encoding.encode (LineBreak.escape text) ∧
      ∀ index, (encoding.capLine text cap).truncation? index cap = none :=
  ⟨encoding.bytes_encodeCapped_of_length_le h, fun _ => truncation?_capLine_eq_none_iff.2 h⟩

namespace Utf8

/-- The bytes of a line that come back when the text that it shows is written again: they are well-formed, and have no line feed and
no carriage return in front of a written line break. -/
structure Restorable (bytes : List UInt8) : Prop where
  wellFormed : (text? bytes).isSome
  noLineFeed : 0x0A ∉ bytes
  noReturn : ¬ [0x0D, 0x5C, 0x6E] <:+: bytes

instance (bytes : List UInt8) : Decidable (Restorable bytes) :=
  decidable_of_iff ((text? bytes).isSome ∧ 0x0A ∉ bytes ∧ ¬ [0x0D, 0x5C, 0x6E] <:+: bytes)
    ⟨fun ⟨h, hfeed, hreturn⟩ => ⟨h, hfeed, hreturn⟩, fun ⟨h, hfeed, hreturn⟩ => ⟨h, hfeed, hreturn⟩⟩

/-- Well-formed bytes are those of the characters that are read from them. -/
theorem encodeChars_decodeChars {bytes : List UInt8} (h : (text? bytes).isSome) :
    Encoding.utf8.encodeChars (Encoding.utf8.decodeChars bytes) = bytes := by
  simp only [text?, Option.isSome_ite] at h
  exact h

/-- Characters are read back from their bytes. -/
theorem decodeChars_encodeChars (text : List Char) : Encoding.utf8.decodeChars (Encoding.utf8.encodeChars text) = text := by
  have hwrites : Encoding.utf8.Writes text := fun _ _ => Option.some_ne_none _
  exact (Encoding.decodeChars_encodeChars hwrites (.inl rfl)).trans (List.map_id _)

variable {bytes : List UInt8}

/-- The characters of bytes that can be restored: no line feed, and no carriage return in front of a written line break. -/
theorem Restorable.decodeChars (h : Restorable bytes) :
    '\n' ∉ Encoding.utf8.decodeChars bytes ∧ ¬ ['\r', '\\', 'n'] <:+: Encoding.utf8.decodeChars bytes := by
  have hencode := encodeChars_decodeChars h.wellFormed
  constructor
  · intro hmem
    refine h.noLineFeed ?_
    rw [← hencode]
    exact List.mem_flatMap.2 ⟨'\n', hmem, by decide⟩
  · rintro ⟨front, rest, hinfix⟩
    refine h.noReturn ?_
    rw [← hencode, ← hinfix, Encoding.encodeChars_append, Encoding.encodeChars_append]
    exact List.infix_append _ _ _

/-- The text that a line shows is written with the bytes that it is read from. -/
theorem Restorable.encode_escape (h : Restorable bytes) :
    Encoding.utf8.encode (LineBreak.escape (LineBreak.unescape (Encoding.utf8.decode bytes))) = bytes := by
  obtain ⟨hbreak, hreturn⟩ := h.decodeChars
  simp only [Encoding.encode, Encoding.decode, LineBreak.escape, LineBreak.unescape, String.toList_ofList]
  rw [LineBreak.normalizeChars_unescapeChars hbreak hreturn, LineBreak.encodeChars_unescapeChars hbreak,
    encodeChars_decodeChars h.wellFormed]

/-- A line that is stored with other bytes shows another text. -/
theorem Restorable.bytes_capLine_eq (h : Restorable bytes) {text : String} {cap : Nat}
    (hshown : LineBreak.unescape (Encoding.utf8.decode (Encoding.utf8.capLine text cap).bytes) =
      LineBreak.unescape (Encoding.utf8.decode bytes)) : (Encoding.utf8.capLine text cap).bytes = bytes := by
  obtain ⟨kept, hkept, hbytes⟩ := Encoding.utf8.exists_bytes_capLine text cap
  rw [hbytes] at hshown ⊢
  simp only [Encoding.decode, LineBreak.unescape, String.toList_ofList, decodeChars_encodeChars] at hshown
  have hchars : kept = Encoding.utf8.decodeChars bytes :=
    calc kept = LineBreak.encodeChars (LineBreak.unescapeChars kept) := (LineBreak.encodeChars_unescapeChars hkept).symm
      _ = LineBreak.encodeChars (LineBreak.unescapeChars (Encoding.utf8.decodeChars bytes)) := by
        rw [String.ofList_injective hshown]
      _ = Encoding.utf8.decodeChars bytes := LineBreak.encodeChars_unescapeChars h.decodeChars.1
  rw [hchars, encodeChars_decodeChars h.wellFormed]

end Utf8

/-! ## Images -/

namespace Texts

variable {texts : Texts} {index : Nat}

/-- The text that was stored last is the one that counts. -/
theorem retext_retext_self (h : index < texts.symbols.length) (text text' : Bytes) :
    (texts.retext index text).retext index text' = texts.retext index text' := by
  have hterminator : (texts.retext index text).terminator index = texts.terminator index := by
    simp [terminator, stored_retext_self h]
  rw [retext, hterminator]
  simp only [retext, setStored, List.set_set]

/-- The text that a symbol has already changes nothing. -/
theorem retext_stored (h : index < texts.symbols.length) (hpos : 0 < (texts.stored index).size) :
    texts.retext index (texts.stored index).pop = texts := by
  rw [retext, ← stored_eq_push hpos, setStored_stored h]

end Texts

/-- An edit of an image is taken back by the text that the line showed, if its bytes can be restored. -/
theorem Image.edit?_edit? {image edited : Image} {view : View} {mark : LineMark} {index cap cap' : Nat} {text : String}
    {outcome : EditOutcome} (hencoding : view.encoding = .utf8) (hmark : view.marks[index]? = some mark)
    (hindex : mark.symbolIndex < image.texts.symbols.length) (hpos : 0 < (image.texts.stored mark.symbolIndex).size)
    (hold : Utf8.Restorable (image.texts.stored mark.symbolIndex).pop.toList)
    (hcap : (image.texts.stored mark.symbolIndex).pop.size ≤ cap') (hedit : image.edit? view index text cap = some (edited, outcome)) :
    edited.edit? view index (image.texts.line view.encoding mark).text cap' = some (image, ⟨index, -outcome.lengthDelta, none⟩) := by
  have hshown : ∀ texts : Texts, (texts.line .utf8 mark).text =
      LineBreak.unescape (Encoding.utf8.decode (texts.stored mark.symbolIndex).pop.toList) := fun _ => rfl
  unfold edit? at hedit ⊢
  simp only [hmark, hencoding] at hedit ⊢
  split at hedit
  · -- The line has the first text already: neither edit does anything.
    cases hedit
    rw [if_pos rfl, Int.neg_zero]
  split at hedit
  · cases hedit
  cases hedit
  generalize hbytes : (Encoding.utf8.capLine text cap).bytes = bytes
  have hstored := Texts.stored_retext_self hindex bytes.toArray
  have hback : (image.retext mark.symbolIndex bytes.toArray).retext mark.symbolIndex (image.texts.stored mark.symbolIndex).pop =
      image := by
    rw [retext, texts_retext, Texts.retext_retext_self hindex, Texts.retext_stored hindex hpos]
    rfl
  split
  next hsame =>
    -- The first edit has stored what stood there already.
    rw [hshown, hshown, texts_retext, hstored, Array.pop_push, List.toList_toArray, ← hbytes] at hsame
    have hkept : bytes.toArray = (image.texts.stored mark.symbolIndex).pop := by
      rw [← hbytes, hold.bytes_capLine_eq hsame, Array.toArray_toList]
    rw [hkept, Int.sub_self, Int.neg_zero, retext, Texts.retext_stored hindex hpos]
  next =>
    have hterminated : ¬ ((image.retext mark.symbolIndex bytes.toArray).texts.stored mark.symbolIndex).size = 0 := by
      rw [texts_retext, hstored, Array.size_push]
      exact Nat.succ_ne_zero _
    obtain ⟨hwhole, hnote⟩ := @Encoding.capLine_of_length_le .utf8 (image.texts.line .utf8 mark).text cap'
      (by rw [hshown, hold.encode_escape]; exact hcap)
    rw [hshown, hold.encode_escape, ← hshown] at hwhole
    rw [if_neg hterminated, hnote, hwhole, Array.toArray_toList, hback, texts_retext, hstored, Array.pop_push, Int.neg_sub]

/-- A line with a terminator can be given any text. -/
theorem Image.exists_edit? {image : Image} {view : View} {mark : LineMark} {index : Nat} (hmark : view.marks[index]? = some mark)
    (hpos : 0 < (image.texts.stored mark.symbolIndex).size) (text : String) (cap : Nat) :
    ∃ edited outcome, image.edit? view index text cap = some (edited, outcome) := by
  unfold edit?
  simp only [hmark, if_neg (Nat.ne_of_gt hpos)]
  split
  · exact ⟨_, _, rfl⟩
  · exact ⟨_, _, rfl⟩

section

variable {image : Image} {view : View} {index next cap' : Nat} {line : DialogueLine} {stored : Bytes}

/-- A line of the script of an image is a symbol, and what is read at its position is how the symbol is stored. -/
theorem Image.exists_mark_of_line (hvalid : image.Valid view.encoding) (hfits : view.Fits image)
    (hline : (image.script view).line index = .ok line) (hstored : StoredText.readBytes image.toBytes line.offset = .ok (stored, next)) :
    ∃ mark, view.marks[index]? = some mark ∧ line = image.texts.line view.encoding mark ∧
      stored = (image.texts.stored mark.symbolIndex).pop ∧
      (image.toBytes.readUInt32 line.offset ≠ .ok 0 → 0 < (image.texts.stored mark.symbolIndex).size) := by
  rw [line_script] at hline
  split at hline
  next mark hmark =>
    cases hline
    have hindex := hfits.symbolIndex_lt mark (List.mem_of_getElem? hmark)
    obtain ⟨next', hread⟩ := exists_readBytes_stored hvalid hindex
    obtain ⟨hbytes, -⟩ := Prod.mk.inj (Except.ok.inj (hread.symm.trans hstored))
    refine ⟨mark, hmark, rfl, hbytes.symm, fun hterminated => Nat.pos_of_ne_zero fun hempty => hterminated ?_⟩
    have hholds := holds_stored hindex
    rw [StoredText.written, holds_append, hempty] at hholds
    exact readUInt32_eq_ok_iff.2 hholds.1
  next => cases hline

/-- An edit of the script of an image is taken back by the text that the line showed, if its bytes can be restored. -/
theorem Image.exists_edit_edit_script (hencoding : view.encoding = .utf8) (hvalid : image.Valid view.encoding)
    (hfits : view.Fits image) (hline : (image.script view).line index = .ok line)
    (hstored : StoredText.readBytes image.toBytes line.offset = .ok (stored, next))
    (hterminated : image.toBytes.readUInt32 line.offset ≠ .ok 0) (hold : Utf8.Restorable stored.toList) (hcap : stored.size ≤ cap')
    (text : String) (cap : Nat) :
    ∃ edited outcome, (image.script view).edit index text cap = .ok (edited, outcome) ∧
      (edited.bytes.size < sizeLimit →
        edited.edit index line.text cap' = .ok (image.script view, ⟨index, -outcome.lengthDelta, none⟩)) := by
  obtain ⟨mark, hmark, rfl, rfl, hpos⟩ := exists_mark_of_line hvalid hfits hline hstored
  have hindex := hfits.symbolIndex_lt mark (List.mem_of_getElem? hmark)
  obtain ⟨edited, outcome, hedit⟩ := exists_edit? hmark (hpos hterminated) text cap
  have hback := edit?_edit? hencoding hmark hindex (hpos hterminated) hold hcap hedit
  obtain ⟨there, hthere, hsize, hscript⟩ := exists_edit_script hvalid hfits hedit
  refine ⟨there, outcome, hthere, fun hlt => ?_⟩
  rw [hsize] at hlt
  obtain ⟨back, hreturn, -, hscript'⟩ := exists_edit_script (hvalid.of_edit? hedit hlt)
    (hfits.of_retexted (retexted_of_edit? hedit)) hback
  rw [hscript hlt, hreturn, hscript' hvalid.size_lt]

end

/-! ## Scripts -/

/-- A line of a script that edits have led to, in a consistent script in UTF-8, can be given any text, with any cap. The text that it
showed before takes the edit back: it leaves the script as it was, with every byte of its file, if the bytes of the line can be
restored and the second cap has room for them. -/
theorem Script.Consistent.edit_edit {catalog : Catalog} {script state : Script} (h : script.Consistent catalog)
    (hencoding : script.encoding = .utf8) (hstate : script.Reaches state) {index : Nat} {line : DialogueLine}
    (hline : state.line index = .ok line) {stored : Bytes} {next : Nat}
    (hstored : StoredText.readBytes state.bytes line.offset = .ok (stored, next))
    (hterminated : state.bytes.readUInt32 line.offset ≠ .ok 0) (hold : Utf8.Restorable stored.toList) (text : String) (cap : Nat)
    {cap' : Nat} (hcap : stored.size ≤ cap') :
    ∃ edited outcome, state.edit index text cap = .ok (edited, outcome) ∧
      (edited.bytes.size < sizeLimit → edited.edit index line.text cap' = .ok (state, ⟨index, -outcome.lengthDelta, none⟩)) := by
  obtain ⟨requests, hsmall, rfl⟩ := hstate
  have hstart : ∀ block ∈ script.blocks, block.start.toNat < sizeLimit :=
    fun block hblock => Nat.lt_of_le_of_lt (h.start_le block hblock) hsmall.size_lt
  obtain ⟨image, units, -, hruns, hnamed, -, hvalid, hrun⟩ := h.exists_runEdits hstart hsmall
  have hretexted := image.retexted_runEdits (image.freshView script.encoding units) requests
  have hfits := (Image.fits_freshView hruns hnamed).of_retexted hretexted
  rw [hrun] at hline hstored hterminated ⊢
  exact Image.exists_edit_edit_script hencoding hvalid hfits hline hstored hterminated hold hcap text cap

/-! ## A sample in UTF-8 -/

/-- What is known of the sample besides its file, if it is in UTF-8. -/
def View.sampleUtf8 : View :=
  { View.sample with encoding := .utf8 }

/-- The sample as a script in UTF-8. -/
def Script.sampleUtf8 : Script :=
  Image.sample.script View.sampleUtf8

theorem Image.valid_sampleUtf8 : Image.sample.Valid .utf8 := by
  refine ⟨⟨by decide, by decide, by decide⟩, by decide, by decide, by decide, ?_⟩
  rw [size_toBytes]
  decide

theorem Image.fits_sampleUtf8 : View.sampleUtf8.Fits Image.sample :=
  ⟨fits_sample.units_length, fits_sample.within, fits_sample.symbolIndex_lt⟩

theorem Script.consistent_sampleUtf8 : sampleUtf8.Consistent Catalog.sample := by
  have hnamed : Named (Image.sample.texts.symbolTable .utf8) Image.sample.entries View.sampleUtf8.units := .cons (by rfl) .nil
  have hmarks : (Image.sample.texts.symbolTable .utf8).marks = View.sampleUtf8.marks := by
    rw [SymbolTable.marks, Dialogue.extract, List.mergeSort_of_pairwise (by decide)]
    rfl
  have hview : Image.sample.freshView .utf8 View.sampleUtf8.units = View.sampleUtf8 := by
    rw [Image.freshView, hmarks]
    rfl
  rw [sampleUtf8, ← hview]
  exact Image.consistent Image.valid_sampleUtf8 Image.runs_sample hnamed (by decide)

/-- A request to give the first line of the sample a text of two lines. -/
def Script.sampleVerse : List EditRequest :=
  [⟨0, "Ça va ?\nOui.", 256⟩]

theorem Script.staysSmall_sampleVerse : sampleUtf8.StaysSmall sampleVerse := by
  refine Image.staysSmall_script Image.valid_sampleUtf8 Image.fits_sampleUtf8 ?_
  rw [Image.size_toBytes]
  decide

/-- The sample after the request. -/
def Image.sampleVerse : Image :=
  sample.retext 1 #[195, 135, 97, 32, 118, 97, 32, 63, 92, 110, 79, 117, 105, 46]

theorem Image.runEdits_sampleVerse : sample.runEdits View.sampleUtf8 Script.sampleVerse = sampleVerse := by
  rfl

theorem Image.edit?_sampleSilence : sampleVerse.edit? View.sampleUtf8 0 "" 0 =
    some (sampleVerse.retext 1 #[], ⟨0, -14, none⟩) := by
  rfl

/-- After the request, the first line of the sample is taken away and restored. -/
theorem Script.edit_edit_sample :
    sampleUtf8.Consistent Catalog.sample ∧ sampleUtf8.Reaches (sampleUtf8.runEdits sampleVerse) ∧
      ∃ line edited outcome, (sampleUtf8.runEdits sampleVerse).line 0 = .ok line ∧ line.text = "Ça va ?\nOui." ∧
        (sampleUtf8.runEdits sampleVerse).edit 0 "" 0 = .ok (edited, outcome) ∧ outcome.lengthDelta = -14 ∧
        edited.edit 0 line.text 14 = .ok (sampleUtf8.runEdits sampleVerse, ⟨0, -outcome.lengthDelta, none⟩) := by
  have hreaches : sampleUtf8.Reaches (sampleUtf8.runEdits sampleVerse) := ⟨sampleVerse, staysSmall_sampleVerse, rfl⟩
  obtain ⟨hrun, hvalid⟩ := Image.runEdits_script Image.valid_sampleUtf8 Image.fits_sampleUtf8 staysSmall_sampleVerse
  rw [Image.runEdits_sampleVerse] at hrun hvalid
  have hfits : View.sampleUtf8.Fits Image.sampleVerse := Image.fits_sampleUtf8.of_retexted (Image.retexted_retext ..)
  have hscript : sampleUtf8.runEdits sampleVerse = Image.sampleVerse.script View.sampleUtf8 := hrun
  have hindex : (⟨.ofCode "KYN", 1, "V01_KYN0001"⟩ : LineMark).symbolIndex < Image.sampleVerse.texts.symbols.length := by decide
  have hline : (sampleUtf8.runEdits sampleVerse).line 0 =
      .ok (Image.sampleVerse.texts.line .utf8 ⟨.ofCode "KYN", 1, "V01_KYN0001"⟩) := by
    rw [hscript]
    rfl
  have hterminated : Image.sampleVerse.toBytes.readUInt32 (Image.sampleVerse.texts.symbolOffset 1) ≠ .ok 0 := by
    have hholds := Image.holds_stored hindex
    rw [StoredText.written, holds_append] at hholds
    rw [readUInt32_eq_ok_iff.2 hholds.1]
    decide
  obtain ⟨next, hstored⟩ := Image.exists_readBytes_stored hvalid hindex
  obtain ⟨there, hthere, hsize, -⟩ := Image.exists_edit_script hvalid hfits Image.edit?_sampleSilence
  have hbytes : (sampleUtf8.runEdits sampleVerse).bytes = Image.sampleVerse.toBytes := by
    rw [hscript]
    rfl
  rw [← hbytes] at hstored hterminated
  rw [← hscript] at hthere
  have hold : Utf8.Restorable [195, 135, 97, 32, 118, 97, 32, 63, 92, 110, 79, 117, 105, 46] := by decide +kernel
  obtain ⟨edited, outcome, hedit, hback⟩ := consistent_sampleUtf8.edit_edit rfl hreaches hline hstored hterminated hold "" 0
    (show _ ≤ 14 by decide)
  obtain ⟨rfl, rfl⟩ := Prod.mk.inj (Except.ok.inj (hthere.symm.trans hedit))
  have hsmall : there.bytes.size < sizeLimit := by
    rw [hsize, Image.size_toBytes]
    decide
  exact ⟨consistent_sampleUtf8, hreaches, _, there, _, hline, by rfl, hedit, rfl, hback hsmall⟩

end SceneScript
