import BlockFlow.Text.Blank

/-!
# Splitting loses no characters

The pieces of a text hold everything but its separators (`flatten_splitWhere`), so a text has a word
as soon as it has a character that is not blank. The items of a list are trimmed and not empty,
hence each has a word. A text that is cut at one character can be put together again piece by piece.
-/

namespace BlockFlow.Text

variable {isSeparator property : CodePoint → Bool} {t : Text} {c : CodePoint}

/-- There is one piece at least. -/
theorem splitWhere_ne_nil (isSeparator : CodePoint → Bool) (t : Text) :
    splitWhere isSeparator t ≠ [] := by
  cases t with
  | nil => simp [splitWhere]
  | cons c rest =>
    unfold splitWhere
    split
    · simp
    · split <;> simp

/-- What is no separator goes to the piece that follows it. -/
theorem splitWhere_cons_of_not (hc : isSeparator c = false) (rest : Text) :
    ∃ piece pieces, splitWhere isSeparator rest = piece :: pieces ∧
      splitWhere isSeparator (c :: rest) = (c :: piece) :: pieces := by
  obtain ⟨piece, pieces, hrest⟩ := List.exists_cons_of_ne_nil (splitWhere_ne_nil isSeparator rest)
  refine ⟨piece, pieces, hrest, ?_⟩
  rw [splitWhere, hc, hrest]
  rfl

/-- The pieces hold everything but the separators, in order. -/
theorem flatten_splitWhere (isSeparator : CodePoint → Bool) (t : Text) :
    (splitWhere isSeparator t).flatten = t.filter (!isSeparator ·) := by
  induction t with
  | nil => rfl
  | cons c rest ih =>
    -- After a separator a new piece starts, and anything else goes to the piece that follows it.
    cases hc : isSeparator c with
    | true => simp [splitWhere, hc, ih]
    | false =>
      obtain ⟨piece, pieces, hrest, hcons⟩ := splitWhere_cons_of_not hc rest
      rw [hrest, List.flatten_cons] at ih
      simp [hcons, hc, ih]

/-- A code point stands in a piece exactly if it is one of the text and no separator. -/
theorem exists_mem_splitWhere_iff :
    (∃ piece ∈ splitWhere isSeparator t, c ∈ piece) ↔ c ∈ t ∧ isSeparator c = false := by
  rw [← List.mem_flatten, flatten_splitWhere]
  simp

/-- Every code point of a piece comes from the text. -/
theorem subset_of_mem_splitWhere : ∀ piece ∈ splitWhere isSeparator t, piece ⊆ t :=
  fun piece hpiece _ hc => (exists_mem_splitWhere_iff.1 ⟨piece, hpiece, hc⟩).1

/-- No piece of a text has a separator in it. -/
theorem not_isSeparator_of_mem_splitWhere :
    ∀ piece ∈ splitWhere isSeparator t, ∀ c ∈ piece, isSeparator c = false :=
  fun piece hpiece _ hc => (exists_mem_splitWhere_iff.1 ⟨piece, hpiece, hc⟩).2

/-! ## Pieces without separators -/

/-- A text without separators is one piece. -/
theorem splitWhere_of_forall_not (ht : ∀ d ∈ t, isSeparator d = false) :
    splitWhere isSeparator t = [t] := by
  induction t with
  | nil => rfl
  | cons d rest ih =>
    rw [List.forall_mem_cons] at ht
    obtain ⟨piece, pieces, hrest, hcons⟩ := splitWhere_cons_of_not ht.1 rest
    rw [ih ht.2] at hrest
    obtain ⟨rfl, rfl⟩ := List.cons.inj hrest
    exact hcons

/-- The first separator ends the first piece. -/
theorem splitWhere_append_cons {s : Text} (hs : ∀ d ∈ s, isSeparator d = false)
    (hc : isSeparator c = true) (t : Text) :
    splitWhere isSeparator (s ++ c :: t) = s :: splitWhere isSeparator t := by
  induction s with
  | nil => rw [List.nil_append, splitWhere, if_pos hc]
  | cons d s ih =>
    rw [List.forall_mem_cons] at hs
    obtain ⟨piece, pieces, hrest, hcons⟩ := splitWhere_cons_of_not hs.1 (s ++ c :: t)
    rw [ih hs.2] at hrest
    obtain ⟨rfl, rfl⟩ := List.cons.inj hrest
    exact hcons

/-- Induction over a text that is cut at a code point, piece by piece. -/
@[elab_as_elim]
theorem cut_induction (c : CodePoint) {motive : Text → Prop} (whole : ∀ t, c ∉ t → motive t)
    (cut : ∀ s t, c ∉ s → motive t → motive (s ++ c :: t)) (t : Text) : motive t := by
  by_cases hc : c ∈ t
  · obtain ⟨s, rest, rfl, hs⟩ := List.eq_append_cons_of_mem hc
    exact cut s rest hs (cut_induction c whole cut rest)
  · exact whole t hc
termination_by t.length

/-! ## Words and items -/

/-- Words are not empty. -/
theorem ne_nil_of_mem_words {word : Text} (h : word ∈ words t) : word ≠ [] := by
  simpa using (List.mem_filter.1 h).2

/-- A text that is not blank has a word. -/
theorem words_ne_nil (hc : isBlank c = false) (hmem : c ∈ t) : words t ≠ [] := by
  obtain ⟨piece, hpiece, hin⟩ := exists_mem_splitWhere_iff.2 ⟨hmem, hc⟩
  have hword : piece ∈ words t := List.mem_filter.2 ⟨hpiece, by simp [List.ne_nil_of_mem hin]⟩
  exact List.ne_nil_of_mem hword

/-- What is left after trimming ends in something that is kept. -/
theorem exists_mem_trimWhere (h : trimWhere property t ≠ []) :
    ∃ c ∈ trimWhere property t, property c = false := by
  unfold trimWhere at h ⊢
  have hkept : (t.dropWhile property).reverse.dropWhile property ≠ [] := by simpa using h
  refine ⟨_, List.mem_reverse.2 (List.head_mem hkept), ?_⟩
  simpa using List.head_dropWhile_not property hkept

/-- Every item of a list has a word. -/
theorem words_ne_nil_of_mem_items {item : Text} (h : item ∈ items t) : words item ≠ [] := by
  obtain ⟨hitem, hne⟩ := List.mem_filter.1 h
  obtain ⟨piece, -, rfl⟩ := List.mem_map.1 hitem
  have hkept : trimWhere isBlank piece ≠ [] := by simpa [trim] using hne
  obtain ⟨c, hmem, hc⟩ := exists_mem_trimWhere hkept
  exact words_ne_nil hc hmem

end BlockFlow.Text
