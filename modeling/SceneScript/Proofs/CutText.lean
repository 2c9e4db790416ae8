import SceneScript.Proofs.Reverting

/-!
# Texts that are cut

A text that is too long for a line is cut behind the last character that fits, but this is a character of the stored text, in which a
line break is two. So what a line shows is the longest start of the text that there is room for, and a backslash more if the cap goes
through a line break (`Utf8.CutsBreak`). For UTF-8, where all other characters are read back as they were written,
`Script.text_of_cut_edit` says so of every edit.
-/

namespace SceneScript

/-! ## Starts of written texts -/

namespace LineBreak

theorem encodeChars_append (front rest : List Char) : encodeChars (front ++ rest) = encodeChars front ++ encodeChars rest := by
  induction front with
  | nil => rfl
  | cons c front ih =>
    rw [List.cons_append, encodeChars, encodeChars, ih]
    split <;> rfl

/-- A start of a text is written as a start of its written form. -/
theorem encodeChars_prefix {front text : List Char} (h : front <+: text) : encodeChars front <+: encodeChars text := by
  obtain ⟨rest, rfl⟩ := h
  rw [encodeChars_append]
  exact List.prefix_append ..

theorem encodeChars_eq_nil_iff {text : List Char} : encodeChars text = [] ↔ text = [] := by
  constructor
  · intro h
    cases text with
    | nil => rfl
    | cons c rest =>
      rw [encodeChars] at h
      split at h <;> cases h
  · rintro rfl
    rfl

/-- The start of a written text is the written form of a start of the text, or ends within a line break behind it. -/
theorem exists_of_prefix_encodeChars {front text : List Char} (h : front <+: encodeChars text) :
    ∃ kept, kept <+: text ∧ (front = encodeChars kept ∨ kept ++ ['\n'] <+: text ∧ front = encodeChars kept ++ ['\\']) := by
  induction text generalizing front with
  | nil => exact ⟨[], List.nil_prefix, .inl (List.prefix_nil.1 h)⟩
  | cons c rest ih =>
    cases front with
    | nil => exact ⟨[], List.nil_prefix, .inl rfl⟩
    | cons first front =>
      rw [encodeChars] at h
      split at h
      next hbreak =>
        subst hbreak
        obtain ⟨rfl, hrest⟩ := List.cons_prefix_cons.1 h
        cases front with
        | nil => exact ⟨[], List.nil_prefix, .inr ⟨List.cons_prefix_cons.2 ⟨rfl, List.nil_prefix⟩, rfl⟩⟩
        | cons second front =>
          obtain ⟨rfl, hfront⟩ := List.cons_prefix_cons.1 hrest
          obtain ⟨kept, hkept, rfl | ⟨hbehind, rfl⟩⟩ := ih hfront
          · exact ⟨'\n' :: kept, List.cons_prefix_cons.2 ⟨rfl, hkept⟩, .inl rfl⟩
          · exact ⟨'\n' :: kept, List.cons_prefix_cons.2 ⟨rfl, hkept⟩, .inr ⟨List.cons_prefix_cons.2 ⟨rfl, hbehind⟩, rfl⟩⟩
      next hother =>
        obtain ⟨rfl, hfront⟩ := List.cons_prefix_cons.1 h
        obtain ⟨kept, hkept, rfl | ⟨hbehind, rfl⟩⟩ := ih hfront
        · exact ⟨first :: kept, List.cons_prefix_cons.2 ⟨rfl, hkept⟩, .inl (by rw [encodeChars, if_neg hother])⟩
        · refine ⟨first :: kept, List.cons_prefix_cons.2 ⟨rfl, hkept⟩, .inr ⟨List.cons_prefix_cons.2 ⟨rfl, hbehind⟩, ?_⟩⟩
          rw [encodeChars, if_neg hother, List.cons_append]

/-- Written line breaks are read back, if the text has no backslashes of its own. -/
theorem unescapeChars_encodeChars {text : List Char} (h : '\\' ∉ text) : unescapeChars (encodeChars text) = text := by
  rw [unescapeChars_encodeChars_eq, unescapeChars_of_notMem h]

/-- A backslash at the end is no line break. -/
theorem unescapeChars_encodeChars_append {text : List Char} (h : '\\' ∉ text) :
    unescapeChars (encodeChars text ++ ['\\']) = text ++ ['\\'] := by
  have hwritten : encodeChars (text ++ ['\\']) = encodeChars text ++ ['\\'] := encodeChars_append ..
  rw [← hwritten, unescapeChars_encodeChars_eq]
  clear hwritten
  induction text with
  | nil => rfl
  | cons c rest ih =>
    rw [List.mem_cons, not_or] at h
    rw [List.cons_append, unescapeChars_cons (fun _ hc => absurd hc.symm h.1), ih h.2]

end LineBreak

/-! ## What fits -/

namespace Utf8

/-- How many bytes the characters take in a line. -/
def lineSize (text : List Char) : Nat :=
  (Encoding.utf8.encodeChars (LineBreak.encodeChars text)).length

/-- The longest start of a text that there is room for in a line. -/
structure IsLongestFit (text : List Char) (cap : Nat) (kept : List Char) : Prop where
  start : kept <+: text
  fits : lineSize kept ≤ cap
  longest : ∀ front, front <+: text → lineSize front ≤ cap → front <+: kept

/-- The cap goes through a line break of the text: there is room for the backslash that it is written with, and not for the letter. -/
def CutsBreak (text : List Char) (cap : Nat) : Prop :=
  ∃ front, front ++ ['\n'] <+: text ∧ lineSize front + 1 = cap

variable {text front kept : List Char} {cap : Nat}

theorem lineSize_append (front rest : List Char) : lineSize (front ++ rest) = lineSize front + lineSize rest := by
  rw [lineSize, LineBreak.encodeChars_append, Encoding.encodeChars_append, List.length_append]
  rfl

theorem lineSize_break : lineSize ['\n'] = 2 := by decide

/-- Two starts of a text go on with the same character. -/
theorem eq_of_prefix {c d : Char} {rest : List Char} (h : front ++ c :: rest <+: text) (h' : front ++ [d] <+: text) : c = d := by
  rcases List.prefix_or_prefix_of_prefix h h' with h | h
  · exact (List.cons_prefix_cons.1 ((List.prefix_append_right_inj front).1 h)).1
  · exact (List.cons_prefix_cons.1 ((List.prefix_append_right_inj front).1 h)).1.symm

/-- A start of a text is the longest that there is room for, if what is kept of the written text has nothing of the next character but
perhaps a part of it. -/
theorem isLongestFit_of_fitting {tail : List Char} (hkept : kept <+: text)
    (hfitting : Encoding.utf8.fitting cap (LineBreak.encodeChars text) = LineBreak.encodeChars kept ++ tail)
    (htail : ∀ c rest, kept ++ c :: rest <+: text → ¬LineBreak.encodeChars (c :: rest) <+: tail) : IsLongestFit text cap kept := by
  have hroom := Encoding.utf8.length_encodeChars_fitting_le cap (LineBreak.encodeChars text)
  rw [hfitting, Encoding.encodeChars_append, List.length_append] at hroom
  refine ⟨hkept, Nat.le_trans (Nat.le_add_right ..) hroom, ?_⟩
  intro front hfront hfits
  rcases List.prefix_or_prefix_of_prefix hfront hkept with hshort | ⟨rest, rfl⟩
  · exact hshort
  · cases rest with
    | nil => rw [List.append_nil]
    | cons c rest =>
      have hmore := Encoding.utf8.prefix_fitting (LineBreak.encodeChars_prefix hfront) hfits
      rw [hfitting, LineBreak.encodeChars_append, List.prefix_append_right_inj] at hmore
      exact absurd hmore (htail c rest hfront)

/-- If whole characters of the text are kept, the cap goes through no line break. There would be room for its backslash, so that the line
break is kept, which does not fit. -/
theorem not_cutsBreak_of_fitting (hlongest : IsLongestFit text cap kept)
    (hfitting : Encoding.utf8.fitting cap (LineBreak.encodeChars text) = LineBreak.encodeChars kept) : ¬CutsBreak text cap := by
  rintro ⟨front, hfront, hsize⟩
  have hbackslash : LineBreak.encodeChars front ++ ['\\'] <+: LineBreak.encodeChars kept := by
    rw [← hfitting]
    refine Encoding.utf8.prefix_fitting (List.IsPrefix.trans ?_ (LineBreak.encodeChars_prefix hfront)) ?_
    · rw [LineBreak.encodeChars_append, List.prefix_append_right_inj]
      exact List.prefix_append ['\\'] ['n']
    · rw [Encoding.encodeChars_append, List.length_append]
      exact Nat.le_of_eq hsize
  obtain ⟨rest, rfl⟩ := hlongest.longest front ((List.prefix_append ..).trans hfront) (by omega)
  rw [LineBreak.encodeChars_append, List.prefix_append_right_inj] at hbackslash
  cases rest with
  | nil => cases List.prefix_nil.1 hbackslash
  | cons c rest =>
    obtain rfl := eq_of_prefix hlongest.start hfront
    have hfits := hlongest.fits
    rw [lineSize_append, ← List.singleton_append, lineSize_append, lineSize_break] at hfits
    omega

/-- If the backslash of a line break is kept behind whole characters of the text, the cap goes through the line break. -/
theorem cutsBreak_of_fitting (hlongest : IsLongestFit text cap kept) (hbreak : kept ++ ['\n'] <+: text)
    (hfitting : Encoding.utf8.fitting cap (LineBreak.encodeChars text) = LineBreak.encodeChars kept ++ ['\\']) :
    CutsBreak text cap := by
  refine ⟨kept, hbreak, ?_⟩
  have hroom := Encoding.utf8.length_encodeChars_fitting_le cap (LineBreak.encodeChars text)
  rw [hfitting, Encoding.encodeChars_append, List.length_append] at hroom
  have hle : lineSize kept + 1 ≤ cap := hroom
  by_contra hne
  have hmore := (hlongest.longest _ hbreak (by rw [lineSize_append, lineSize_break]; omega)).length_le
  rw [List.length_append, List.length_singleton] at hmore
  omega

/-- What fits of a written text is the written form of the longest start that there is room for, and a backslash if the cap goes through
a line break. -/
theorem exists_isLongestFit (text : List Char) (cap : Nat) : ∃ kept, IsLongestFit text cap kept ∧
    (¬CutsBreak text cap ∧ Encoding.utf8.fitting cap (LineBreak.encodeChars text) = LineBreak.encodeChars kept ∨
      CutsBreak text cap ∧ Encoding.utf8.fitting cap (LineBreak.encodeChars text) = LineBreak.encodeChars kept ++ ['\\']) := by
  obtain ⟨kept, hkept, hfitting | ⟨hbreak, hfitting⟩⟩ :=
    LineBreak.exists_of_prefix_encodeChars (Encoding.utf8.fitting_prefix cap (LineBreak.encodeChars text))
  · have hlongest : IsLongestFit text cap kept := by
      refine isLongestFit_of_fitting hkept (hfitting.trans (List.append_nil _).symm) ?_
      intro c rest _ hnothing
      rw [List.prefix_nil, LineBreak.encodeChars_eq_nil_iff] at hnothing
      cases hnothing
    exact ⟨kept, hlongest, .inl ⟨not_cutsBreak_of_fitting hlongest hfitting, hfitting⟩⟩
  · have hlongest : IsLongestFit text cap kept := by
      refine isLongestFit_of_fitting hkept hfitting ?_
      intro c rest hmore hpart
      obtain rfl := eq_of_prefix hmore hbreak
      have hlength := hpart.length_le
      rw [LineBreak.encodeChars, if_pos rfl] at hlength
      simp only [List.length_cons, List.length_nil] at hlength
      omega
    exact ⟨kept, hlongest, .inr ⟨cutsBreak_of_fitting hlongest hbreak hfitting, hfitting⟩⟩

end Utf8

/-! ## Lines -/

/-- The text that an edit of a UTF-8 script leaves the line with is the longest start of the given text that there is room for, with its
line breaks turned into line feeds. If the cap goes through a line break, the line shows a backslash behind it, and only then it shows
something that the text does not start with. -/
theorem Script.text_of_cut_edit {script edited : Script} {index cap : Nat} {text : String} {line : DialogueLine}
    {outcome : EditOutcome} (hencoding : script.encoding = .utf8) (hbackslash : '\\' ∉ text.toList)
    (hline : script.line index = .ok line) (hnew : line.text ≠ text)
    (hedit : script.edit index text cap = .ok (edited, outcome)) :
    ∃ shown kept, edited.line index = .ok shown ∧ Utf8.IsLongestFit (LineBreak.normalize text).toList cap kept ∧
      (¬Utf8.CutsBreak (LineBreak.normalize text).toList cap → shown.text = String.ofList kept) ∧
      (Utf8.CutsBreak (LineBreak.normalize text).toList cap → shown.text = String.ofList (kept ++ ['\\'])) ∧
      (shown.text.toList <+: (LineBreak.normalize text).toList ↔ ¬Utf8.CutsBreak (LineBreak.normalize text).toList cap) := by
  obtain ⟨shown, hshown, htext, -⟩ := exists_shown_of_edit hline hnew hedit
  have hnormal : '\\' ∉ (LineBreak.normalize text).toList := by
    rw [LineBreak.normalize, String.toList_ofList]
    exact fun hmem => hbackslash (LineBreak.mem_of_mem_normalizeChars hmem)
  have hwritten : (LineBreak.escape text).toList = LineBreak.encodeChars (LineBreak.normalize text).toList := by
    rw [LineBreak.escape, LineBreak.normalize, String.toList_ofList, String.toList_ofList]
  rw [hencoding, Encoding.bytes_capLine, hwritten, Encoding.decode, Utf8.decodeChars_encodeChars, LineBreak.unescape,
    String.toList_ofList] at htext
  generalize (LineBreak.normalize text).toList = normal at hnormal htext ⊢
  obtain ⟨kept, hlongest, ⟨hbreak, hfitting⟩ | ⟨hbreak, hfitting⟩⟩ := Utf8.exists_isLongestFit normal cap
  · have hkept : '\\' ∉ kept := fun hmem => hnormal (hlongest.start.mem hmem)
    rw [hfitting, LineBreak.unescapeChars_encodeChars hkept] at htext
    refine ⟨shown, kept, hshown, hlongest, fun _ => htext, fun h => absurd h hbreak, ?_⟩
    rw [htext, String.toList_ofList]
    exact iff_of_true hlongest.start hbreak
  · have hkept : '\\' ∉ kept := fun hmem => hnormal (hlongest.start.mem hmem)
    rw [hfitting, LineBreak.unescapeChars_encodeChars_append hkept] at htext
    refine ⟨shown, kept, hshown, hlongest, fun h => absurd hbreak h, fun _ => htext, ?_⟩
    rw [htext, String.toList_ofList]
    refine iff_of_false (fun hstart => hnormal (hstart.mem ?_)) (not_not_intro hbreak)
    exact List.mem_append_right _ List.mem_cons_self

/-- With four bytes the sample keeps the line break of the text, and nothing behind it. -/
theorem Image.edit?_sampleFour : Image.sample.edit? View.sampleUtf8 0 "Hi\nyou" 4 =
    some (Image.sample.retext 1 #[72, 105, 92, 110], ⟨0, 1, some ⟨0, 4, 7⟩⟩) := by
  rfl

/-- With three bytes it keeps the backslash that the line break is written with. -/
theorem Image.edit?_sampleThree : Image.sample.edit? View.sampleUtf8 0 "Hi\nyou" 3 =
    some (Image.sample.retext 1 #[72, 105, 92], ⟨0, 0, some ⟨0, 3, 7⟩⟩) := by
  rfl

theorem Script.line_sampleUtf8 : ∃ line, sampleUtf8.line 0 = .ok line ∧ line.text ≠ "Hi\nyou" := by
  refine ⟨Image.sample.texts.line .utf8 ⟨.ofCode "KYN", 1, "V01_KYN0001"⟩, rfl, ?_⟩
  decide

/-- A text of two lines is cut for the sample. -/
theorem Script.text_of_cut_edit_sample : ∃ line edited outcome shown kept, sampleUtf8.encoding = .utf8 ∧ '\\' ∉ "Hi\nyou".toList ∧
    sampleUtf8.line 0 = .ok line ∧ line.text ≠ "Hi\nyou" ∧ sampleUtf8.edit 0 "Hi\nyou" 4 = .ok (edited, outcome) ∧
    outcome.truncation = some ⟨0, 4, 7⟩ ∧ edited.line 0 = .ok shown ∧
    Utf8.IsLongestFit (LineBreak.normalize "Hi\nyou").toList 4 kept ∧
    (¬Utf8.CutsBreak (LineBreak.normalize "Hi\nyou").toList 4 → shown.text = String.ofList kept) ∧
    (Utf8.CutsBreak (LineBreak.normalize "Hi\nyou").toList 4 → shown.text = String.ofList (kept ++ ['\\'])) ∧
    (shown.text.toList <+: (LineBreak.normalize "Hi\nyou").toList ↔ ¬Utf8.CutsBreak (LineBreak.normalize "Hi\nyou").toList 4) := by
  obtain ⟨line, hline, hnew⟩ := line_sampleUtf8
  obtain ⟨edited, hedit, -, -⟩ := Image.exists_edit_script Image.valid_sampleUtf8 Image.fits_sampleUtf8 Image.edit?_sampleFour
  have hbackslash : '\\' ∉ "Hi\nyou".toList := by simp
  obtain ⟨shown, kept, hshown, hrest⟩ := text_of_cut_edit rfl hbackslash hline hnew hedit
  exact ⟨line, edited, _, shown, kept, rfl, hbackslash, hline, hnew, hedit, rfl, hshown, hrest⟩

/-- A line need not show a start of the text that was cut for it: with three bytes for a line, the sample shows half of the line break. -/
theorem Script.text_of_cut_edit_false : sampleUtf8.Consistent Catalog.sample ∧ sampleUtf8.encoding = .utf8 ∧
    '\\' ∉ "Hi\nyou".toList ∧ ∃ line edited outcome shown, sampleUtf8.line 0 = .ok line ∧ line.text ≠ "Hi\nyou" ∧
      sampleUtf8.edit 0 "Hi\nyou" 3 = .ok (edited, outcome) ∧ edited.line 0 = .ok shown ∧ shown.text = "Hi\\" ∧
      ¬shown.text.toList <+: (LineBreak.normalize "Hi\nyou").toList := by
  have hsize : (Image.sample.retext 1 #[72, 105, 92]).toBytes.size < sizeLimit := by
    rw [Image.size_toBytes]
    decide
  obtain ⟨line, hline, hnew⟩ := line_sampleUtf8
  obtain ⟨edited, hedit, -, heq⟩ := Image.exists_edit_script Image.valid_sampleUtf8 Image.fits_sampleUtf8 Image.edit?_sampleThree
  obtain rfl := heq hsize
  have htext : ((Image.sample.retext 1 #[72, 105, 92]).texts.line View.sampleUtf8.encoding
      ⟨.ofCode "KYN", 1, "V01_KYN0001"⟩).text = "Hi\\" := by rfl
  refine ⟨consistent_sampleUtf8, rfl, by simp, line, _, _, _, hline, hnew, hedit, rfl, htext, ?_⟩
  rw [htext]
  simp [LineBreak.normalize, LineBreak.normalizeChars]

end SceneScript
