import SceneScript.Dialogue

/-!
# Where dialogue lines come from

Every line that is found in a symbol table is one of its symbols (`Dialogue.isSymbol_of_mem_extract`), and no two lines are the same
symbol (`Dialogue.nodup_symbolIndex_extract`).
-/

namespace SceneScript

/-- The line is the symbol of the table that it names: it has its text, with real line breaks, and its position. -/
def DialogueLine.IsSymbol (line : DialogueLine) (table : SymbolTable) : Prop :=
  ∃ symbol, table.symbols[line.symbolIndex]? = some symbol ∧ line.text = LineBreak.unescape symbol.text ∧
    line.offset = symbol.offset

namespace Dialogue

theorem of_dropWhile_eq_cons {α : Type} {p : α → Bool} {xs rest : List α} {x : α} (h : xs.dropWhile p = x :: rest) :
    p x = false ∧ ∀ y ∈ x :: rest, y ∈ xs := by
  have hhead := List.head?_dropWhile_not p xs
  have hsub := List.dropWhile_sublist p (l := xs)
  rw [h] at hhead hsub
  exact ⟨hhead, fun y hy => hsub.subset hy⟩

/-- The symbol that a voice id belongs to is one of those before it, and no voice id. -/
theorem mem_of_spoken? {before : List (Symbol × Nat)} {found : Symbol × Nat} (h : spoken? before = some found) :
    found ∈ before ∧ isVoiceId found.1.text = false := by
  unfold spoken? at h
  split at h
  · cases h
  next nearest hothers =>
    cases h
    obtain ⟨hvoice, hmem⟩ := of_dropWhile_eq_cons hothers
    exact ⟨hmem _ (List.mem_cons_self ..), hvoice⟩
  next nearest previous rest hothers =>
    obtain ⟨hvoice, hmem⟩ := of_dropWhile_eq_cons hothers
    have hnearest : nearest ∈ before := hmem _ (List.mem_cons_self ..)
    have hprevious : previous ∈ before := hmem _ (List.mem_cons_of_mem _ (List.mem_cons_self ..))
    split at h
    · split at h
      · cases h
      next hprevious' =>
        split at h
        · cases h
          exact ⟨hnearest, hvoice⟩
        · cases h
          exact ⟨hprevious, Bool.eq_false_iff.2 hprevious'⟩
    · cases h
      exact ⟨hnearest, hvoice⟩

/-- The lines that symbols mark are symbols before and among them that are no voice ids. -/
theorem exists_of_mem_marked {before symbols : List (Symbol × Nat)} {line : DialogueLine} (h : line ∈ marked before symbols) :
    ∃ found, (found ∈ before ∨ found ∈ symbols) ∧ isVoiceId found.1.text = false ∧ line.symbolIndex = found.2 ∧
      line.text = LineBreak.unescape found.1.text ∧ line.offset = found.1.offset := by
  induction symbols generalizing before with
  | nil => nomatch h
  | cons voice rest ih =>
    rw [marked, List.mem_append, Option.mem_toList] at h
    rcases h with h | h
    · simp only [lineOf?, Option.bind_eq_bind, Option.bind_eq_some_iff, Option.some.injEq] at h
      obtain ⟨id, -, found, hspoken, rfl⟩ := h
      obtain ⟨hmem, hvoice⟩ := mem_of_spoken? hspoken
      exact ⟨found, .inl hmem, hvoice, rfl, rfl, rfl⟩
    · obtain ⟨found, hfound, hline⟩ := ih h
      refine ⟨found, ?_, hline⟩
      rcases hfound with hbefore | hrest
      · rcases List.mem_cons.1 hbefore with rfl | hbefore
        · exact .inr (List.mem_cons_self ..)
        · exact .inl hbefore
      · exact .inr (List.mem_cons_of_mem _ hrest)

theorem keepFirst_sublist (taken : List Nat) (lines : List DialogueLine) : (keepFirst taken lines).Sublist lines := by
  induction lines generalizing taken with
  | nil => exact .slnil
  | cons line rest ih =>
    unfold keepFirst
    split
    · exact (ih _).cons _
    · exact (ih _).cons_cons _

/-- Lines that are kept belong to different symbols, none of which was taken before. -/
theorem nodup_symbolIndex_keepFirst (taken : List Nat) (lines : List DialogueLine) :
    ((keepFirst taken lines).map (·.symbolIndex)).Nodup ∧ ∀ line ∈ keepFirst taken lines, line.symbolIndex ∉ taken := by
  induction lines generalizing taken with
  | nil => simp [keepFirst]
  | cons line rest ih =>
    unfold keepFirst
    split
    · exact ih taken
    next hfree =>
      obtain ⟨hnodup, hnew⟩ := ih (line.symbolIndex :: taken)
      simp only [List.mem_cons, not_or] at hnew
      constructor
      · rw [List.map_cons, List.nodup_cons, List.mem_map]
        refine ⟨?_, hnodup⟩
        rintro ⟨other, hother, heq⟩
        exact (hnew other hother).1 heq
      · intro other hother
        rcases List.mem_cons.1 hother with rfl | hother
        · exact hfree
        · exact (hnew other hother).2

/-- Every line that is found is a symbol of the table that is no voice id. -/
theorem exists_symbol_of_mem_extract {table : SymbolTable} {line : DialogueLine} (h : line ∈ extract table) :
    ∃ symbol, table.symbols[line.symbolIndex]? = some symbol ∧ isVoiceId symbol.text = false ∧
      line.text = LineBreak.unescape symbol.text ∧ line.offset = symbol.offset := by
  rw [extract, List.mem_mergeSort] at h
  obtain ⟨⟨symbol, index⟩, hfound, hvoice, hindex, hline⟩ := exists_of_mem_marked ((keepFirst_sublist _ _).subset h)
  rcases hfound with hfound | hfound
  · nomatch hfound
  · rw [List.mem_zipIdx_iff_getElem?, ← hindex] at hfound
    exact ⟨symbol, hfound, hvoice, hline⟩

/-- Every line that is found is a symbol of the table. -/
theorem isSymbol_of_mem_extract {table : SymbolTable} {line : DialogueLine} (h : line ∈ extract table) : line.IsSymbol table := by
  obtain ⟨symbol, hsymbol, -, hline⟩ := exists_symbol_of_mem_extract h
  exact ⟨symbol, hsymbol, hline⟩

/-- No symbol is two lines. -/
theorem nodup_symbolIndex_extract (table : SymbolTable) : ((extract table).map (·.symbolIndex)).Nodup :=
  ((List.mergeSort_perm _ _).map _).nodup_iff.2 (nodup_symbolIndex_keepFirst [] _).1

end Dialogue

end SceneScript
