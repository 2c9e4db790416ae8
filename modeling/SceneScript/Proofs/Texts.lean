import SceneScript.Header
import SceneScript.Proofs.Holding

/-!
# The stored texts of a script

`Texts` are the texts in front of a script as they are stored, with their terminators, and `Texts.headBytes` is everything in
front of the block table. `Header.read?_eq_ok_some_iff` says which files have a header: those that start with the head bytes of
readable texts, whatever the ends of the two tables are said to be.
-/

namespace SceneScript

/-- Sizes below this one fit a signed word. -/
def sizeLimit : Nat := 2147483648

/-! ## Signed words -/

theorem toInt_toInt32 (x : UInt32) :
    x.toInt32.toInt = if x.toNat < sizeLimit then (x.toNat : Int) else x.toNat - 4294967296 := by
  have hx := x.toNat_lt
  have hint : x.toInt32.toInt = x.toBitVec.toInt := rfl
  rw [hint, BitVec.toInt_eq_toNat_cond, UInt32.toNat_toBitVec]
  by_cases h : x.toNat < sizeLimit
  · rw [if_pos h, if_pos (by simp only [sizeLimit] at h; omega)]
  · rw [if_neg h, if_neg (by simp only [sizeLimit] at h; omega)]
    omega

theorem toInt32_nonneg_iff (x : UInt32) : ¬ x.toInt32 < 0 ↔ x.toNat < sizeLimit := by
  have hx := x.toNat_lt
  rw [Int32.lt_iff_toInt_lt, toInt_toInt32, Int32.toInt_zero]
  split <;> omega

theorem toNat_toInt32 {x : UInt32} (h : x.toNat < sizeLimit) : x.toInt32.toInt.toNat = x.toNat := by
  rw [toInt_toInt32, if_pos h, Int.toNat_natCast]

theorem toNat_ofNat_of_lt {n : Nat} (h : n < sizeLimit) : (UInt32.ofNat n).toNat = n := by
  simp only [sizeLimit] at h
  rw [UInt32.toNat_ofNat']
  omega

namespace StoredText

/-- A stored text with its length in front; the terminator belongs to `stored`. -/
def written (stored : Bytes) : Bytes :=
  Bytes.ofUInt32 (UInt32.ofNat stored.size) ++ stored

@[simp] theorem size_written (stored : Bytes) : (written stored).size = 4 + stored.size := by
  simp [written]

/-- The stored form of a text is that of its bytes and a zero byte. -/
theorem ofBytes_eq_written (text : Bytes) : ofBytes text = written (text.push 0) := by
  simp [ofBytes, written, declaredLength]

theorem readBytes_eq_ok_iff {buf text : Bytes} {pos next : Nat} :
    readBytes buf pos = .ok (text, next) ↔
      ∃ stored : Bytes, stored.size < sizeLimit ∧ buf.Holds pos (written stored) ∧ text = stored.pop ∧
        next = pos + (written stored).size := by
  simp only [readBytes, Bytes.readInt32, bind_eq_ok_iff, pure_eq_ok_iff, Bytes.readUInt32_eq_ok_iff]
  constructor
  · rintro ⟨_, ⟨word, hword, rfl⟩, h⟩
    split at h
    · simp at h
    next hneg =>
      simp only [bind_eq_ok_iff, pure_eq_ok_iff, Bytes.slice_eq_ok_iff, Prod.mk.injEq] at h
      obtain ⟨stored, ⟨hsize, hstored⟩, rfl, rfl⟩ := h
      have hlt := (toInt32_nonneg_iff word).1 hneg
      rw [toNat_toInt32 hlt] at hsize ⊢
      refine ⟨stored, by omega, ?_, rfl, by simp; omega⟩
      rw [written, Bytes.holds_append, hsize, UInt32.ofNat_toNat]
      exact ⟨hword, hstored⟩
  · rintro ⟨stored, hlt, hholds, rfl, rfl⟩
    rw [written, Bytes.holds_append] at hholds
    have hnat := toNat_ofNat_of_lt hlt
    refine ⟨_, ⟨_, hholds.1, rfl⟩, ?_⟩
    rw [if_neg ((toInt32_nonneg_iff _).2 (by omega)), toNat_toInt32 (by omega), hnat]
    simp only [bind_eq_ok_iff, pure_eq_ok_iff, Bytes.slice_eq_ok_iff, Prod.mk.injEq]
    exact ⟨stored, ⟨rfl, hholds.2⟩, rfl, by simp; omega⟩

theorem read_eq_ok_iff {buf : Bytes} {pos next : Nat} {encoding : Encoding} {text : String} :
    read buf pos encoding = .ok (text, next) ↔
      ∃ stored : Bytes, stored.size < sizeLimit ∧ buf.Holds pos (written stored) ∧
        text = encoding.decode stored.pop.toList ∧ next = pos + (written stored).size := by
  simp only [read, bind_eq_ok_iff, pure_eq_ok_iff, Prod.exists, readBytes_eq_ok_iff, Prod.mk.injEq]
  constructor
  · rintro ⟨_, _, ⟨stored, hlt, hholds, rfl, rfl⟩, rfl, rfl⟩
    exact ⟨stored, hlt, hholds, rfl, rfl⟩
  · rintro ⟨stored, hlt, hholds, rfl, rfl⟩
    exact ⟨_, _, ⟨stored, hlt, hholds, rfl, rfl⟩, rfl, rfl⟩

end StoredText

open StoredText (written)

/-- The stored texts of a script, each with its terminator. -/
structure Texts where
  name : Bytes
  room : Bytes
  time : Bytes
  symbols : List Bytes
  deriving DecidableEq, Repr

namespace Texts

/-- The name, the room and the time as they stand in a file. -/
def identityBytes (texts : Texts) : Bytes :=
  written texts.name ++ (written texts.room ++ written texts.time)

theorem size_identityBytes (texts : Texts) :
    texts.identityBytes.size = (written texts.name).size + (written texts.room).size + (written texts.time).size := by
  simp [identityBytes, Nat.add_assoc]

/-- The symbols as they stand in a file. -/
def symbolBytes (texts : Texts) : Bytes :=
  Bytes.concat (texts.symbols.map written)

/-- Everything in front of the block table, with the table ends that the header is to record. -/
def headBytes (texts : Texts) (blockCount : UInt16) (symbolTableEnd blockTableEnd : UInt32) : Bytes :=
  texts.identityBytes ++ (Bytes.ofUInt16 (UInt16.ofNat texts.symbols.length) ++ (Bytes.ofUInt16 blockCount ++
    (Bytes.ofUInt32 symbolTableEnd ++ (Bytes.ofUInt32 blockTableEnd ++ texts.symbolBytes))))

/-- Where the first symbol stands. -/
def symbolsStart (texts : Texts) : Nat :=
  texts.identityBytes.size + 12

/-- Where the last symbol ends. -/
def symbolsEnd (texts : Texts) : Nat :=
  texts.symbolsStart + texts.symbolBytes.size

@[simp] theorem size_headBytes (texts : Texts) (blockCount : UInt16) (symbolTableEnd blockTableEnd : UInt32) :
    (texts.headBytes blockCount symbolTableEnd blockTableEnd).size = texts.symbolsEnd := by
  simp [headBytes, symbolsEnd, symbolsStart]
  omega

/-- The symbols that texts stored from `pos` on are read as. -/
def symbolsFrom (encoding : Encoding) : Nat → List Bytes → List Symbol
  | _, [] => []
  | pos, stored :: rest =>
    ⟨pos, encoding.decode stored.pop.toList⟩ :: symbolsFrom encoding (pos + (written stored).size) rest

/-- The symbols that the texts are read as. -/
def symbolTable (texts : Texts) (encoding : Encoding) : SymbolTable :=
  ⟨symbolsFrom encoding texts.symbolsStart texts.symbols⟩

/-- The header that the texts are read as. -/
def header (texts : Texts) (encoding : Encoding) (blockCount : UInt16) (symbolTableEnd blockTableEnd : UInt32) : Header where
  name := encoding.decode texts.name.pop.toList
  room := encoding.decode texts.room.pop.toList
  time := encoding.decode texts.time.pop.toList
  symbolCount := UInt16.ofNat texts.symbols.length
  blockCount := blockCount
  symbolTableEndOffset := texts.identityBytes.size + 4
  symbolTableEnd := symbolTableEnd
  blockTableEndOffset := texts.identityBytes.size + 8
  blockTableEnd := blockTableEnd

end Texts

/-- A stored text that passes for the name of a script. -/
structure IsName (encoding : Encoding) (stored : Bytes) : Prop where
  one_le_size : 1 ≤ stored.size
  size_le : stored.size ≤ Header.maxNameLength * encoding.maxCharLength + 1
  length_le : (encoding.decode stored.pop.toList).length ≤ Header.maxNameLength

/-- A name is far shorter than a file may be. -/
theorem IsName.size_lt {encoding : Encoding} {stored : Bytes} (h : IsName encoding stored) : stored.size < sizeLimit := by
  have hle := h.size_le
  cases encoding <;> simp only [Header.maxNameLength, Encoding.maxCharLength, sizeLimit] at * <;> omega

/-- Texts that can be read from a file: the first passes for a name, and lengths and counts fit their words. -/
structure Texts.Readable (texts : Texts) (encoding : Encoding) : Prop where
  name : IsName encoding texts.name
  room_size : texts.room.size < sizeLimit
  time_size : texts.time.size < sizeLimit
  symbol_size : ∀ stored ∈ texts.symbols, stored.size < sizeLimit
  symbols_length : texts.symbols.length < UInt16.size

namespace Header

theorem readName?_eq_ok_some_iff {buf : Bytes} {encoding : Encoding} {name : String} {next : Nat} :
    readName? buf encoding = .ok (some (name, next)) ↔
      ∃ stored, IsName encoding stored ∧ buf.Holds 0 (written stored) ∧ name = encoding.decode stored.pop.toList ∧
        next = (written stored).size := by
  simp only [readName?, Bytes.readInt32, bind_eq_ok_iff, pure_eq_ok_iff, Bytes.readUInt32_eq_ok_iff]
  constructor
  · rintro ⟨_, ⟨word, hword, rfl⟩, h⟩
    split at h
    · simp at h
    next hsmall =>
      simp only [bind_eq_ok_iff, pure_eq_ok_iff, Prod.exists, StoredText.read_eq_ok_iff] at h
      obtain ⟨_, _, ⟨stored, hlt, hholds, rfl, rfl⟩, h⟩ := h
      split at h
      · simp at h
      next hlength =>
        simp only [Option.some.injEq, Prod.mk.injEq, Nat.zero_add] at h
        obtain ⟨rfl, rfl⟩ := h
        have hsame : Bytes.ofUInt32 word = Bytes.ofUInt32 (UInt32.ofNat stored.size) :=
          hword.eq (Bytes.holds_append.1 hholds).1 (by simp)
        have hnum : word.toNat = stored.size := by
          rw [← Bytes.bigEndian_ofUInt32 word, hsame, Bytes.bigEndian_ofUInt32, toNat_ofNat_of_lt hlt]
        rw [not_or, Int32.not_lt, toNat_toInt32 (by omega), hnum, Int32.le_iff_toInt_le] at hsmall
        have hint := toNat_toInt32 (show word.toNat < sizeLimit by omega)
        refine ⟨stored, ⟨?_, by omega, by omega⟩, hholds, rfl, rfl⟩
        have hone : (1 : Int32).toInt = 1 := rfl
        omega
  · rintro ⟨stored, hname, hholds, rfl, rfl⟩
    have hlt := hname.size_lt
    have hnat := toNat_ofNat_of_lt hlt
    have hint := toNat_toInt32 (show (UInt32.ofNat stored.size).toNat < sizeLimit by omega)
    have hone := hname.one_le_size
    have hle := hname.size_le
    have hlength := hname.length_le
    refine ⟨_, ⟨_, (Bytes.holds_append.1 hholds).1, rfl⟩, ?_⟩
    rw [if_neg]
    · simp only [bind_eq_ok_iff, pure_eq_ok_iff, Prod.exists, StoredText.read_eq_ok_iff]
      refine ⟨_, _, ⟨stored, hlt, hholds, rfl, rfl⟩, ?_⟩
      rw [if_neg (by omega), Nat.zero_add]
    · have hword : (1 : Int32).toInt = 1 := rfl
      rw [not_or, Int32.not_lt, Int32.le_iff_toInt_le]
      omega

theorem readSymbols_eq_ok_iff {buf : Bytes} {encoding : Encoding} {count pos : Nat} {symbols : List Symbol}
    (hpos : pos ≤ buf.size) :
    readSymbols buf encoding count pos = .ok symbols ↔
      ∃ stored : List Bytes, stored.length = count ∧ (∀ text ∈ stored, text.size < sizeLimit) ∧
        buf.Holds pos (Bytes.concat (stored.map written)) ∧ symbols = Texts.symbolsFrom encoding pos stored := by
  induction count generalizing pos symbols with
  | zero =>
    simp only [readSymbols, pure_eq_ok_iff, List.length_eq_zero_iff]
    constructor
    · rintro rfl
      exact ⟨[], rfl, by simp, Bytes.holds_empty.2 hpos, rfl⟩
    · rintro ⟨_, rfl, -, -, rfl⟩
      rfl
  | succ count ih =>
    simp only [readSymbols, bind_eq_ok_iff, pure_eq_ok_iff, Prod.exists, StoredText.read_eq_ok_iff]
    constructor
    · rintro ⟨_, _, ⟨text, hlt, hholds, rfl, rfl⟩, rest, hrest, rfl⟩
      obtain ⟨stored, rfl, hsizes, hstored, rfl⟩ := (ih hholds.le_size).1 hrest
      refine ⟨text :: stored, rfl, ?_, Bytes.holds_append.2 ⟨hholds, hstored⟩, rfl⟩
      intro t ht
      rcases List.mem_cons.1 ht with rfl | ht
      · exact hlt
      · exact hsizes t ht
    · rintro ⟨all, hlength, hsizes, hholds, rfl⟩
      obtain ⟨text, stored, rfl⟩ := List.exists_cons_of_length_eq_add_one hlength
      obtain ⟨htext, hstored⟩ := Bytes.holds_append.1 hholds
      refine ⟨_, _, ⟨text, hsizes text (by simp), htext, rfl, rfl⟩, _, (ih htext.le_size).2 ?_, rfl⟩
      exact ⟨stored, by simpa using hlength, fun t ht => hsizes t (by simp [ht]), hstored, rfl⟩

/-- A header that is read stands at the start of the file, as the head bytes of readable texts. -/
theorem exists_texts_of_read? {buf : Bytes} {encoding : Encoding} {header : Header} {symbols : SymbolTable}
    (h : read? buf encoding = .ok (some (header, symbols))) :
    ∃ (texts : Texts) (blockCount : UInt16) (symbolTableEnd blockTableEnd : UInt32), texts.Readable encoding ∧
      buf.Holds 0 (texts.headBytes blockCount symbolTableEnd blockTableEnd) ∧
      header = texts.header encoding blockCount symbolTableEnd blockTableEnd ∧ symbols = texts.symbolTable encoding := by
  simp only [read?, bind_eq_ok_iff] at h
  obtain ⟨_ | ⟨name, roomAt⟩, hnamed, h⟩ := h
  · simp at h
  · simp only [bind_eq_ok_iff, pure_eq_ok_iff, Prod.exists, StoredText.read_eq_ok_iff, Bytes.readUInt16_eq_ok_iff,
      Bytes.readUInt32_eq_ok_iff, Option.some.injEq, Prod.mk.injEq] at h
    obtain ⟨_, timeAt, ⟨room, hroomlt, hroom, rfl, rfl⟩, _, countsAt, ⟨time, htimelt, htime, rfl, rfl⟩, symbolCount, hsymbolCount,
      blockCount, hblockCount, symbolTableEnd, hsymbolTableEnd, blockTableEnd, hblockTableEnd, list, hlist, rfl, rfl⟩ := h
    obtain ⟨name, hisName, hname, rfl, rfl⟩ := readName?_eq_ok_some_iff.1 hnamed
    rw [readSymbols_eq_ok_iff (by simpa using hblockTableEnd.le_size)] at hlist
    obtain ⟨stored, hlength, hsizes, hstored, rfl⟩ := hlist
    have hcount : UInt16.ofNat stored.length = symbolCount := by rw [hlength, UInt16.ofNat_toNat]
    have hidentity := Texts.size_identityBytes ⟨name, room, time, stored⟩
    refine ⟨⟨name, room, time, stored⟩, blockCount, symbolTableEnd, blockTableEnd,
      ⟨hisName, hroomlt, htimelt, hsizes, by rw [hlength]; exact symbolCount.toNat_lt⟩, ?_, ?_, ?_⟩
    · simp only [Texts.headBytes, Bytes.holds_append, Nat.zero_add, hcount, hidentity, Bytes.size_ofUInt16,
        Bytes.size_ofUInt32, Nat.add_assoc] at *
      refine ⟨?_, hsymbolCount, hblockCount, hsymbolTableEnd, hblockTableEnd, hstored⟩
      simp only [Texts.identityBytes, Bytes.holds_append, Nat.zero_add]
      exact ⟨hname, hroom, htime⟩
    · simp only [Texts.header, hidentity, hcount]
    · simp only [Texts.symbolTable, Texts.symbolsStart, hidentity]

/-- The head bytes of readable texts are read as their header. -/
theorem read?_of_holds {buf : Bytes} {encoding : Encoding} {texts : Texts} {blockCount : UInt16}
    {symbolTableEnd blockTableEnd : UInt32} (hreadable : texts.Readable encoding)
    (hholds : buf.Holds 0 (texts.headBytes blockCount symbolTableEnd blockTableEnd)) :
    read? buf encoding =
      .ok (some (texts.header encoding blockCount symbolTableEnd blockTableEnd, texts.symbolTable encoding)) := by
  have hcount : (UInt16.ofNat texts.symbols.length).toNat = texts.symbols.length := by
    rw [UInt16.toNat_ofNat', Nat.mod_eq_of_lt hreadable.symbols_length]
  have hend := hholds.le_size
  simp only [Texts.size_headBytes, Texts.symbolsEnd, Texts.symbolsStart] at hend
  simp only [Texts.headBytes, Bytes.holds_append, Nat.zero_add, Bytes.size_ofUInt16, Bytes.size_ofUInt32] at hholds
  obtain ⟨hidentity, hsymbolCount, hblockCount, hsymbolTableEnd, hblockTableEnd, hsymbols⟩ := hholds
  simp only [Texts.identityBytes, Bytes.holds_append, Nat.zero_add] at hidentity
  obtain ⟨hname, hroom, htime⟩ := hidentity
  have hsize := texts.size_identityBytes
  have hlist : readSymbols buf encoding texts.symbols.length (texts.identityBytes.size + 12) =
      .ok (Texts.symbolsFrom encoding (texts.identityBytes.size + 12) texts.symbols) :=
    (readSymbols_eq_ok_iff (by omega)).2 ⟨texts.symbols, rfl, hreadable.symbol_size, hsymbols, rfl⟩
  simp only [read?, bind_eq_ok_iff]
  refine ⟨_, readName?_eq_ok_some_iff.2 ⟨texts.name, hreadable.name, hname, rfl, rfl⟩, ?_⟩
  simp only [bind_eq_ok_iff, pure_eq_ok_iff, Prod.exists, StoredText.read_eq_ok_iff, Bytes.readUInt16_eq_ok_iff,
    Bytes.readUInt32_eq_ok_iff, Option.some.injEq, Prod.mk.injEq]
  refine ⟨_, _, ⟨texts.room, hreadable.room_size, hroom, rfl, rfl⟩, _, _, ⟨texts.time, hreadable.time_size, htime, rfl, rfl⟩,
    _, hsymbolCount.cast hsize, _, hblockCount.cast (by rw [hsize]), _, hsymbolTableEnd.cast (by rw [hsize]), _,
    hblockTableEnd.cast (by rw [hsize]), _, by rw [hcount, ← hsize]; exact hlist, ?_, rfl⟩
  simp only [Texts.header, hsize]

/-- A file has a header exactly if it starts with the head bytes of readable texts. -/
theorem read?_eq_ok_some_iff {buf : Bytes} {encoding : Encoding} {header : Header} {symbols : SymbolTable} :
    read? buf encoding = .ok (some (header, symbols)) ↔
      ∃ (texts : Texts) (blockCount : UInt16) (symbolTableEnd blockTableEnd : UInt32), texts.Readable encoding ∧
        buf.Holds 0 (texts.headBytes blockCount symbolTableEnd blockTableEnd) ∧
        header = texts.header encoding blockCount symbolTableEnd blockTableEnd ∧ symbols = texts.symbolTable encoding := by
  constructor
  · exact exists_texts_of_read?
  · rintro ⟨texts, blockCount, symbolTableEnd, blockTableEnd, hreadable, hholds, rfl, rfl⟩
    exact read?_of_holds hreadable hholds

end Header

end SceneScript
