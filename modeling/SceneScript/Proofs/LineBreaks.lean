import SceneScript.Proofs.Reverting

/-!
# When line breaks come back

Writing the line breaks of a text and reading them again gives the text with its carriage returns and line feeds joined, and reading
those of a stored text and writing them again gives the stored text, but neither holds of all texts: a backslash is not written in a
special way, and a carriage return in front of a line break is taken for a part of it. These are the only exceptions
(`LineBreak.invertible_iff`).
-/

namespace SceneScript.LineBreak

/-! ## Reading what was written -/

/-- Reading line breaks leaves the texts alone that have none to be read. -/
theorem unescapeChars_eq_self_iff {text : List Char} : unescapeChars text = text ↔ ¬ ['\\', 'n'] <:+: text := by
  fun_induction unescapeChars text with
  | case1 rest =>
    refine iff_of_false (fun heq => absurd (List.cons.inj heq).1 (by decide)) (not_not_intro ?_)
    exact (List.prefix_append ['\\', 'n'] rest).isInfix
  | case2 c rest hc ih =>
    have hstart : ¬ ['\\', 'n'] <+: c :: rest := by
      rintro ⟨tail, htail⟩
      obtain ⟨hbackslash, hrest⟩ := List.cons.inj htail
      exact hc tail hbackslash.symm hrest.symm
    rw [List.cons.injEq, ih, List.infix_cons_iff, or_iff_right hstart, and_iff_right rfl]
  | case3 => simp

/-! ## Writing what was read -/

theorem length_unescapeChars_le (text : List Char) : (unescapeChars text).length ≤ text.length := by
  fun_induction unescapeChars text with
  | case1 rest ih =>
    simp only [List.length_cons]
    omega
  | case2 c rest _ ih =>
    simp only [List.length_cons]
    omega
  | case3 => exact Nat.le_refl _

theorem length_normalizeChars_le (text : List Char) : (normalizeChars text).length ≤ text.length := by
  fun_induction normalizeChars text with
  | case1 rest ih =>
    simp only [List.length_cons]
    omega
  | case2 c rest _ ih =>
    simp only [List.length_cons]
    omega
  | case3 => exact Nat.le_refl _

/-- A carriage return and line feed that are joined take one character less. -/
theorem length_normalizeChars_lt {text : List Char} (h : ['\r', '\n'] <:+: text) : (normalizeChars text).length < text.length := by
  fun_induction normalizeChars text with
  | case1 rest =>
    have hrest := length_normalizeChars_le rest
    simp only [List.length_cons]
    omega
  | case2 c rest hc ih =>
    rcases List.infix_cons_iff.1 h with ⟨tail, htail⟩ | hrest
    · obtain ⟨hreturn, hfeed⟩ := List.cons.inj htail
      exact absurd hfeed.symm (hc tail hreturn.symm)
    · simp only [List.length_cons]
      have hshort := ih hrest
      omega
  | case3 => simp at h

/-- A character that no written line break has parts a stored text into two that are read on their own. -/
theorem unescapeChars_append_cons {c : Char} (hbackslash : c ≠ '\\') (hletter : c ≠ 'n') (front rest : List Char) :
    unescapeChars (front ++ c :: rest) = unescapeChars front ++ c :: unescapeChars rest := by
  fun_induction unescapeChars front with
  | case1 front ih => rw [List.cons_append, List.cons_append, unescapeChars, ih, List.cons_append]
  | case2 other front hother ih =>
    rw [List.cons_append, unescapeChars_cons, ih, List.cons_append]
    intro tail hback htail
    cases front with
    | nil => exact hletter (List.cons.inj htail).1
    | cons first front => exact hother front hback (by rw [(List.cons.inj htail).1])
  | case3 => exact unescapeChars_cons fun _ hc => absurd hc hbackslash

/-- A line break that is written behind a carriage return is read as a line feed behind it. -/
theorem infix_unescapeChars {text : List Char} (h : ['\r', '\\', 'n'] <:+: text) : ['\r', '\n'] <:+: unescapeChars text := by
  obtain ⟨front, rest, rfl⟩ := h
  have hread := unescapeChars_append_cons (show '\r' ≠ '\\' by decide) (by decide) front ('\\' :: 'n' :: rest)
  rw [unescapeChars] at hread
  refine ⟨unescapeChars front, unescapeChars rest, ?_⟩
  rw [List.append_assoc, List.append_assoc]
  exact hread.symm

/-- A stored text comes back exactly if it has no line feed, which would be written as two characters, and no carriage return in front
of a written line break, which would be lost. -/
theorem encodeChars_normalizeChars_unescapeChars_eq_iff {text : List Char} :
    encodeChars (normalizeChars (unescapeChars text)) = text ↔ '\n' ∉ text ∧ ¬ ['\r', '\\', 'n'] <:+: text := by
  constructor
  · intro h
    refine ⟨fun hfeed => ?_, fun hreturn => ?_⟩
    · rw [← h] at hfeed
      exact notMem_encodeChars _ hfeed
    · -- Reading the line breaks of both sides shows a text of which a carriage return has been lost.
      have hread := congrArg (fun text => (unescapeChars text).length) h
      simp only [unescapeChars_encodeChars_eq] at hread
      have hle := length_unescapeChars_le (normalizeChars (unescapeChars text))
      have hlt := length_normalizeChars_lt (infix_unescapeChars hreturn)
      omega
  · rintro ⟨hfeed, hreturn⟩
    rw [normalizeChars_unescapeChars hfeed hreturn, encodeChars_unescapeChars hfeed]

/-! ## Texts -/

/-- A text is read back, with its carriage returns and line feeds joined, exactly if this has no backslash in front of an `n`. A stored
text is written back exactly if it has no line feed and no carriage return in front of a written line break. -/
theorem invertible_iff (text stored : String) :
    (unescape (escape text) = normalize text ↔ ¬ ['\\', 'n'] <:+: (normalize text).toList) ∧
      (escape (unescape stored) = stored ↔ '\n' ∉ stored.toList ∧ ¬ ['\r', '\\', 'n'] <:+: stored.toList) := by
  constructor
  · rw [← String.toList_inj, normalize, unescape, escape, String.toList_ofList, String.toList_ofList, String.toList_ofList,
      unescapeChars_encodeChars_eq, unescapeChars_eq_self_iff]
  · rw [← String.toList_inj, escape, unescape, String.toList_ofList, String.toList_ofList,
      encodeChars_normalizeChars_unescapeChars_eq_iff]

/-- Of two carriage returns in front of a line feed, the second belongs to it. -/
example : unescape (escape "a\r\r\nb") = "a\r\nb" ∧ escape (unescape "a\r\r\\nb") = "a\r\\nb" := by decide

end SceneScript.LineBreak
