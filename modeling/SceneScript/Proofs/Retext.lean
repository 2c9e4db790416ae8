import SceneScript.Proofs.Image
import SceneScript.Proofs.Patching

/-!
# Images with another text

`Image.retext` gives one symbol of an image another text. All positions behind the symbol move by the difference in length
(`Texts.symbolOffset_retext`, `Image.base_retext`), and new texts for two different symbols do not get in each other's way
(`Image.retext_comm`). `Image.perform_retextChanges` makes the changes that turn the file of an image into that of the other one.
-/

namespace SceneScript

open Bytes

/-! ## Positions of symbols -/

namespace Texts

theorem symbolOffset_zero (texts : Texts) : texts.symbolOffset 0 = texts.symbolsStart := rfl

theorem symbolOffset_succ {texts : Texts} {index : Nat} (h : index < texts.symbols.length) :
    texts.symbolOffset (index + 1) = texts.symbolOffset index + (4 + (texts.stored index).size) := by
  have hstored : texts.stored index = texts.symbols[index] := by rw [stored, List.getElem?_eq_getElem h, Option.getD_some]
  rw [symbolOffset, List.take_add_one, List.getElem?_eq_getElem h, Option.toList_some, List.map_append, concat_append,
    Array.size_append, List.map_singleton, concat_cons, concat_nil, Array.append_empty, StoredText.size_written, ← hstored,
    ← Nat.add_assoc]
  rfl

theorem symbolOffset_length (texts : Texts) : texts.symbolOffset texts.symbols.length = texts.symbolsEnd := by
  rw [symbolOffset, List.take_length, symbolsEnd, symbolBytes]

/-- Symbols stand in their order. -/
theorem symbolOffset_lt {texts : Texts} {index other : Nat} (h : index < other) (hother : other ≤ texts.symbols.length) :
    texts.symbolOffset index < texts.symbolOffset other := by
  induction other with
  | zero => omega
  | succ other ih =>
    rw [symbolOffset_succ (by omega)]
    rcases Nat.lt_or_eq_of_le (Nat.le_of_lt_succ h) with hlt | rfl
    · have := ih hlt (by omega)
      omega
    · omega

/-- No two symbols stand at the same place. -/
theorem symbolOffset_inj {texts : Texts} {index other : Nat} (hindex : index < texts.symbols.length)
    (hother : other < texts.symbols.length) : texts.symbolOffset index = texts.symbolOffset other ↔ index = other := by
  constructor
  · intro heq
    rcases Nat.lt_trichotomy index other with hlt | rfl | hlt
    · exact absurd heq (Nat.ne_of_lt (symbolOffset_lt hlt (Nat.le_of_lt hother)))
    · rfl
    · exact absurd heq.symm (Nat.ne_of_lt (symbolOffset_lt hlt (Nat.le_of_lt hindex)))
  · rintro rfl
    rfl

/-! ## Other texts for symbols -/

/-- The texts with a symbol stored otherwise. -/
def setStored (texts : Texts) (index : Nat) (stored : Bytes) : Texts :=
  { texts with symbols := texts.symbols.set index stored }

/-- The byte at the end of a stored symbol. -/
def terminator (texts : Texts) (index : Nat) : UInt8 :=
  (texts.stored index).back?.getD 0

/-- The texts with another text for a symbol. Its last byte stays, whatever it is. -/
def retext (texts : Texts) (index : Nat) (text : Bytes) : Texts :=
  texts.setStored index (text.push (texts.terminator index))

theorem stored_eq_push {texts : Texts} {index : Nat} (h : 0 < (texts.stored index).size) :
    texts.stored index = (texts.stored index).pop.push (texts.terminator index) := by
  obtain ⟨text, last, hpush⟩ := Array.eq_push_of_size_ne_zero (Nat.ne_of_gt h)
  simp [terminator, hpush]

@[simp] theorem length_symbols_retext (texts : Texts) (index : Nat) (text : Bytes) :
    (texts.retext index text).symbols.length = texts.symbols.length := by
  simp [retext, setStored]

@[simp] theorem symbolsStart_retext (texts : Texts) (index : Nat) (text : Bytes) :
    (texts.retext index text).symbolsStart = texts.symbolsStart := rfl

theorem stored_retext_self {texts : Texts} {index : Nat} (h : index < texts.symbols.length) (text : Bytes) :
    (texts.retext index text).stored index = text.push (texts.terminator index) := by
  simp [retext, setStored, stored, h]

theorem stored_retext_of_ne {texts : Texts} {index other : Nat} (h : index ≠ other) (text : Bytes) :
    (texts.retext index text).stored other = texts.stored other := by
  simp [retext, setStored, stored, List.getElem?_set_ne h]

theorem symbolText_retext_self {texts : Texts} {index : Nat} (h : index < texts.symbols.length) (text : Bytes) (encoding : Encoding) :
    (texts.retext index text).symbolText encoding index = encoding.decode text.toList := by
  rw [symbolText, stored_retext_self h, Array.pop_push]

theorem symbolText_retext_of_ne {texts : Texts} {index other : Nat} (h : index ≠ other) (text : Bytes) (encoding : Encoding) :
    (texts.retext index text).symbolText encoding other = texts.symbolText encoding other := by
  rw [symbolText, stored_retext_of_ne h, symbolText]

/-- The symbols up to the one with the new text stay where they are, and those behind move by the difference in length. -/
theorem symbolOffset_retext {texts : Texts} {index other : Nat} (text : Bytes) (h : 0 < (texts.stored index).size)
    (hother : other ≤ texts.symbols.length) :
    ((texts.retext index text).symbolOffset other : Int) =
      texts.symbolOffset other + if index < other then (text.size - (texts.stored index).pop.size : Int) else 0 := by
  induction other with
  | zero => simp [symbolOffset_zero]
  | succ other ih =>
    have hlt : other < texts.symbols.length := hother
    have ih' := ih (by omega)
    rw [symbolOffset_succ hlt, symbolOffset_succ (by simpa using hlt)]
    rcases Nat.lt_trichotomy index other with hbefore | rfl | hbehind
    · rw [if_pos hbefore] at ih'
      rw [if_pos (by omega), stored_retext_of_ne (by omega)]
      omega
    · rw [if_neg (Nat.lt_irrefl _)] at ih'
      rw [if_pos (by omega), stored_retext_self hlt, Array.size_push, Array.size_pop]
      omega
    · rw [if_neg (by omega)] at ih'
      rw [if_neg (by omega), stored_retext_of_ne (by omega)]
      omega

/-- The symbols end where the new length says. -/
theorem symbolsEnd_retext {texts : Texts} {index : Nat} (text : Bytes) (hindex : index < texts.symbols.length)
    (h : 0 < (texts.stored index).size) :
    ((texts.retext index text).symbolsEnd : Int) = texts.symbolsEnd + (text.size - (texts.stored index).pop.size : Int) := by
  rw [← symbolOffset_length, ← symbolOffset_length, length_symbols_retext, symbolOffset_retext text h (Nat.le_refl _), if_pos hindex]

theorem retext_comm {texts : Texts} {index other : Nat} (h : index ≠ other) (text text' : Bytes) :
    (texts.retext index text).retext other text' = (texts.retext other text').retext index text := by
  have hother : (texts.retext index text).terminator other = texts.terminator other := by
    rw [terminator, stored_retext_of_ne h, terminator]
  have hindex : (texts.retext other text').terminator index = texts.terminator index := by
    rw [terminator, stored_retext_of_ne h.symm, terminator]
  rw [retext, hother, retext.eq_def (texts.retext other text'), hindex]
  simp only [retext, setStored, List.set_comm _ _ h]

/-- The bytes in front of a stored symbol and those behind it do not depend on how the symbol is stored. -/
theorem exists_headBytes_eq {texts : Texts} {index : Nat} (h : index < texts.symbols.length) (blockCount : UInt16)
    (symbolTableEnd blockTableEnd : UInt32) :
    ∃ front rest : Bytes, front.size = texts.symbolOffset index ∧ ∀ stored,
      (texts.setStored index stored).headBytes blockCount symbolTableEnd blockTableEnd =
        front ++ (StoredText.written stored ++ rest) := by
  refine ⟨texts.identityBytes ++ (ofUInt16 (UInt16.ofNat texts.symbols.length) ++ (ofUInt16 blockCount ++
    (ofUInt32 symbolTableEnd ++ (ofUInt32 blockTableEnd ++ concat ((texts.symbols.take index).map StoredText.written))))),
    concat ((texts.symbols.drop (index + 1)).map StoredText.written), ?_, fun stored => ?_⟩
  · simp only [Array.size_append, size_ofUInt16, size_ofUInt32, symbolOffset, symbolsStart]
    omega
  · have hlt : index < (texts.setStored index stored).symbols.length := by simpa [setStored] using h
    have hstored : (texts.setStored index stored).stored index = stored := by simp [setStored, Texts.stored, h]
    rw [headBytes, symbolBytes_eq_append hlt, hstored]
    simp only [setStored, List.length_set, List.take_set_of_le (Nat.le_refl _), List.drop_set_of_lt (Nat.lt_succ_self _),
      identityBytes, Array.append_assoc]

/-- Storing a symbol as it is stored changes nothing. -/
theorem setStored_stored {texts : Texts} {index : Nat} (h : index < texts.symbols.length) :
    texts.setStored index (texts.stored index) = texts := by
  simp [setStored, stored, h]

end Texts

/-! ## Other texts in files -/

namespace Image

/-- The image with another text for a symbol. -/
def retext (image : Image) (index : Nat) (text : Bytes) : Image :=
  { image with texts := image.texts.retext index text }

@[simp] theorem texts_retext (image : Image) (index : Nat) (text : Bytes) :
    (image.retext index text).texts = image.texts.retext index text := rfl

@[simp] theorem entries_retext (image : Image) (index : Nat) (text : Bytes) :
    (image.retext index text).entries = image.entries := rfl

@[simp] theorem body_retext (image : Image) (index : Nat) (text : Bytes) : (image.retext index text).body = image.body := rfl

theorem retext_comm {image : Image} {index other : Nat} (h : index ≠ other) (text text' : Bytes) :
    (image.retext index text).retext other text' = (image.retext other text').retext index text := by
  simp only [retext, Texts.retext_comm h]

/-- The body moves by the difference in length. -/
theorem base_retext {image : Image} {index : Nat} (text : Bytes) (hindex : index < image.texts.symbols.length)
    (h : 0 < (image.texts.stored index).size) :
    ((image.retext index text).base : Int) = image.base + (text.size - (image.texts.stored index).pop.size : Int) := by
  have hends := Texts.symbolsEnd_retext text hindex h
  simp only [base, retext]
  omega

/-- The file of an image with whatever words for the ends of the tables and the starts of the blocks. -/
def bytesWith (image : Image) (symbolTableEnd blockTableEnd : UInt32) (start : BlockEntry → UInt32) : Bytes :=
  image.texts.headBytes (UInt16.ofNat image.entries.length) symbolTableEnd blockTableEnd ++
    (tableBytesWith start image.entries ++ image.body)

theorem size_bytesWith (image : Image) (symbolTableEnd blockTableEnd : UInt32) (start : BlockEntry → UInt32) :
    (image.bytesWith symbolTableEnd blockTableEnd start).size = image.toBytes.size := by
  simp only [size_toBytes, bytesWith, base, Array.size_append, Texts.size_headBytes, size_tableBytesWith, Header.blockEntrySize,
    Nat.add_assoc]

/-- The file of an image has the true words. -/
theorem toBytes_eq_bytesWith (image : Image) :
    image.toBytes =
      image.bytesWith (UInt32.ofNat image.texts.symbolsEnd) (UInt32.ofNat image.base) (BlockEntry.startWord image.base) :=
  Array.append_assoc ..

/-- The splice that stores another text for a symbol. -/
def storing (image : Image) (index : Nat) (text : Bytes) : Change :=
  .splice (image.texts.symbolOffset index) (image.texts.symbolOffset index + 4 + (image.texts.stored index).pop.size)
    (ofUInt32 (StoredText.declaredLength text.size) ++ text)

/-- The splice that stores another text leaves the words as they are. -/
theorem perform_storing {image : Image} {index : Nat} (text : Bytes) (hindex : index < image.texts.symbols.length)
    (h : 0 < (image.texts.stored index).size) (symbolTableEnd blockTableEnd : UInt32) (start : BlockEntry → UInt32) :
    (image.storing index text).perform (image.bytesWith symbolTableEnd blockTableEnd start) =
      .ok ((image.retext index text).bytesWith symbolTableEnd blockTableEnd start) := by
  obtain ⟨front, rest, hfront, hhead⟩ :=
    Texts.exists_headBytes_eq hindex (UInt16.ofNat image.entries.length) symbolTableEnd blockTableEnd
  -- Both files consist of the same front, a length with a text, and the same rest that starts with the terminator.
  have hpush : ∀ text : Bytes, (image.texts.setStored index (text.push (image.texts.terminator index))).headBytes
      (UInt16.ofNat image.entries.length) symbolTableEnd blockTableEnd ++ (tableBytesWith start image.entries ++ image.body) =
        front ++ ((ofUInt32 (StoredText.declaredLength text.size) ++ text) ++
          (#[image.texts.terminator index] ++ (rest ++ (tableBytesWith start image.entries ++ image.body)))) := by
    intro text
    rw [hhead, StoredText.written, Array.size_push, Array.push_eq_append]
    simp only [StoredText.declaredLength, Array.append_assoc]
  have hold := hpush (image.texts.stored index).pop
  rw [← Texts.stored_eq_push h, Texts.setStored_stored hindex] at hold
  rw [storing, bytesWith, hold, bytesWith, retext, Texts.retext, hpush, ← hfront, Nat.add_assoc]
  have hsplice := Change.perform_splice_middle front
    (ofUInt32 (StoredText.declaredLength (image.texts.stored index).pop.size) ++ (image.texts.stored index).pop)
    (#[image.texts.terminator index] ++ (rest ++ (tableBytesWith start image.entries ++ image.body)))
    (ofUInt32 (StoredText.declaredLength text.size) ++ text)
  rwa [Array.size_append, size_ofUInt32] at hsplice

theorem perform_symbolTableEnd (image : Image) (old value blockTableEnd : UInt32) (start : BlockEntry → UInt32) :
    (Change.word (image.texts.identityBytes.size + 4) value).perform (image.bytesWith old blockTableEnd start) =
      .ok (image.bytesWith value blockTableEnd start) := by
  have hword := Change.perform_word_middle
    (image.texts.identityBytes ++ (ofUInt16 (UInt16.ofNat image.texts.symbols.length) ++
      ofUInt16 (UInt16.ofNat image.entries.length)))
    (ofUInt32 blockTableEnd ++ (image.texts.symbolBytes ++ (tableBytesWith start image.entries ++ image.body))) old value
  simpa only [bytesWith, Texts.headBytes, Array.append_assoc, Array.size_append, size_ofUInt16] using hword

theorem perform_blockTableEnd (image : Image) (symbolTableEnd old value : UInt32) (start : BlockEntry → UInt32) :
    (Change.word (image.texts.identityBytes.size + 8) value).perform (image.bytesWith symbolTableEnd old start) =
      .ok (image.bytesWith symbolTableEnd value start) := by
  have hword := Change.perform_word_middle
    (image.texts.identityBytes ++ (ofUInt16 (UInt16.ofNat image.texts.symbols.length) ++
      (ofUInt16 (UInt16.ofNat image.entries.length) ++ ofUInt32 symbolTableEnd)))
    (image.texts.symbolBytes ++ (tableBytesWith start image.entries ++ image.body)) old value
  simpa only [bytesWith, Texts.headBytes, Array.append_assoc, Array.size_append, size_ofUInt16, size_ofUInt32] using hword

/-- The changes that turn the file of an image into that of the image with another text. -/
def retextChanges (image : Image) (index : Nat) (text : Bytes) : List Change :=
  let retexted := image.retext index text
  .splice (image.texts.symbolOffset index) (image.texts.symbolOffset index + 4 + (image.texts.stored index).pop.size)
    (ofUInt32 (StoredText.declaredLength text.size) ++ text) ::
  .word (image.texts.identityBytes.size + 4) (UInt32.ofNat retexted.texts.symbolsEnd) ::
  .word (image.texts.identityBytes.size + 8) (UInt32.ofNat retexted.base) ::
  entryWrites (BlockEntry.startWord retexted.base) retexted.texts.symbolsEnd image.entries

/-- The changes that store another text and give the ends of the tables and the starts of the blocks other words. -/
theorem perform_rewrites {image : Image} {index : Nat} (text : Bytes) (hindex : index < image.texts.symbols.length)
    (h : 0 < (image.texts.stored index).size) (oldSymbolsEnd oldTableEnd symbolsEnd tableEnd : UInt32)
    (oldStart start : BlockEntry → UInt32) :
    (image.storing index text ::
      .word (image.texts.identityBytes.size + 4) symbolsEnd :: .word (image.texts.identityBytes.size + 8) tableEnd ::
      entryWrites start (image.retext index text).texts.symbolsEnd image.entries).foldlM Change.perform
        (image.bytesWith oldSymbolsEnd oldTableEnd oldStart) = .ok ((image.retext index text).bytesWith symbolsEnd tableEnd start) := by
  have hentries := perform_entryWrites ((image.retext index text).texts.headBytes (UInt16.ofNat image.entries.length) symbolsEnd
    tableEnd) image.body oldStart start image.entries
  rw [Texts.size_headBytes] at hentries
  rw [foldlM_perform_cons]
  refine ⟨_, perform_storing text hindex h _ _ _, ?_⟩
  rw [foldlM_perform_cons]
  refine ⟨_, perform_symbolTableEnd (image.retext index text) _ _ _ _, ?_⟩
  rw [foldlM_perform_cons]
  exact ⟨_, perform_blockTableEnd (image.retext index text) _ _ _ _, hentries⟩

theorem perform_retextChanges {image : Image} {index : Nat} (text : Bytes) (hindex : index < image.texts.symbols.length)
    (h : 0 < (image.texts.stored index).size) :
    (image.retextChanges index text).foldlM Change.perform image.toBytes = .ok (image.retext index text).toBytes := by
  rw [toBytes_eq_bytesWith, toBytes_eq_bytesWith, retextChanges]
  exact perform_rewrites text hindex h _ _ _ _ _ _

/-- The size of the file changes by the difference in length. -/
theorem size_toBytes_retext {image : Image} {index : Nat} (text : Bytes) (hindex : index < image.texts.symbols.length)
    (h : 0 < (image.texts.stored index).size) :
    ((image.retext index text).toBytes.size : Int) =
      image.toBytes.size + (text.size - (image.texts.stored index).pop.size : Int) := by
  have hbase := base_retext text hindex h
  rw [size_toBytes, size_toBytes, body_retext]
  omega

/-- An image with another text can be read if the file stays small enough. -/
theorem Valid.retext {image : Image} {encoding : Encoding} (h : image.Valid encoding) {index : Nat} {text : Bytes}
    (hsize : (image.retext index text).toBytes.size < sizeLimit) : (image.retext index text).Valid encoding :=
  ⟨h.name, by simpa [Image.retext] using h.symbols_length, h.entries_length, h.start_lt, hsize⟩

end Image

end SceneScript
