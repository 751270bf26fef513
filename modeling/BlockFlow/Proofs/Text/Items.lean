import BlockFlow.Proofs.Text.Encodable

/-!
# Items of a list in text form

The items of a comma-separated text are texts of a certain form (`IsItem`): not empty, without a
comma, with no blank at either end. Texts of that form are read back from a list of them, whatever
blanks follow its commas (`items_joined`), so reading a list brings it into a normal form. The words
of an item have a stricter form (`IsBare`), and two of them with a blank between them are an item
again.
-/

namespace BlockFlow.Text

/-- A text that can stand in a comma-separated list as it is. -/
structure IsItem (t : Text) : Prop where
  filled : t ≠ []
  undivided : .char ',' ∉ t
  begins : ∀ c, t.head? = some c → isBlank c = false
  ends : ∀ c, t.getLast? = some c → isBlank c = false

/-- A text that can stand in a comma-separated list as one word of an item. -/
structure IsBare (t : Text) : Prop where
  filled : t ≠ []
  unspaced : ∀ c ∈ t, isBlank c = false
  undivided : .char ',' ∉ t

/-! ## Trimming -/

section Trimming

variable {property : CodePoint → Bool} {t : Text} {c : CodePoint}

/-- A text is left alone if there is nothing to trim at its ends. -/
theorem trimWhere_eq_self (hbegins : ∀ c, t.head? = some c → property c = false)
    (hends : ∀ c, t.getLast? = some c → property c = false) : trimWhere property t = t := by
  have hkept {u : Text} (h : ∀ c, u.head? = some c → property c = false) :
      u.dropWhile property = u :=
    List.dropWhile_eq_self_iff.2 fun hu => by simp [h u[0] (by simp [List.head?_eq_getElem?])]
  rw [trimWhere, hkept hbegins, hkept (by simpa using hends), List.reverse_reverse]

/-- What is in front goes if it is to be trimmed. -/
theorem trimWhere_cons (hc : property c = true) (t : Text) :
    trimWhere property (c :: t) = trimWhere property t := by
  rw [trimWhere, List.dropWhile_cons_of_pos hc, trimWhere]

/-- A trimmed text does not end in what is to be trimmed. -/
theorem getLast?_trimWhere (h : (trimWhere property t).getLast? = some c) : property c = false := by
  rw [trimWhere, List.getLast?_reverse] at h
  simpa [h] using List.head?_dropWhile_not property (t.dropWhile property).reverse

/-- A trimmed text starts where the text without its leading part starts. -/
theorem head?_trimWhere (h : (trimWhere property t).head? = some c) : property c = false := by
  have hstart : trimWhere property t <+: t.dropWhile property := by
    rw [← List.reverse_suffix, trimWhere, List.reverse_reverse]
    exact List.dropWhile_suffix property
  have hhead : (t.dropWhile property).head? = some c := by
    obtain ⟨rest, hrest⟩ := hstart
    rw [← hrest, List.head?_append, h]
    rfl
  simpa [hhead] using List.head?_dropWhile_not property t

end Trimming

/-! ## Items -/

/-- What a comma-separated text consists of. -/
theorem isItem_of_mem_items {t item : Text} (h : item ∈ items t) : item.IsItem := by
  obtain ⟨hitem, hne⟩ := List.mem_filter.1 h
  obtain ⟨piece, hpiece, rfl⟩ := List.mem_map.1 hitem
  refine ⟨by simpa using hne, fun hcomma => ?_, fun c hc => head?_trimWhere hc,
    fun c hc => getLast?_trimWhere hc⟩
  simpa using not_isSeparator_of_mem_splitWhere piece hpiece _ (trimWhere_subset _ _ hcomma)

/-- A text without commas has no separators. -/
theorem beq_comma_of_mem {t : Text} (h : .char ',' ∉ t) : ∀ c ∈ t, (c == .char ',') = false := by
  intro c hc
  rw [beq_eq_false_iff_ne]
  rintro rfl
  exact h hc

/-- An item on its own is a list of one. -/
theorem IsItem.items_eq {t : Text} (h : t.IsItem) : items t = [t] := by
  rw [items, splitWhere_of_forall_not (beq_comma_of_mem h.undivided)]
  simp [trim, trimWhere_eq_self h.begins h.ends, h.filled]

/-- A comma ends the items before it. -/
theorem items_append_comma {s : Text} (hs : .char ',' ∉ s) (t : Text) :
    items (s ++ .char ',' :: t) = items s ++ items t := by
  have hcommas := beq_comma_of_mem hs
  rw [items, items, splitWhere_append_cons hcommas (by simp), splitWhere_of_forall_not hcommas,
    List.map_cons, List.filter_cons]
  simp only [List.map_cons, List.map_nil, List.filter_cons, List.filter_nil]
  split <;> simp [items]

/-- Blanks in front of a list belong to none of its items. -/
theorem items_append_blanks {blanks : Text} (h : ∀ c ∈ blanks, isBlank c = true) (t : Text) :
    items (blanks ++ t) = items t := by
  induction blanks with
  | nil => rfl
  | cons c rest ih =>
    rw [List.forall_mem_cons] at h
    have hcomma : (c == .char ',') = false := by
      rw [beq_eq_false_iff_ne]
      rintro rfl
      simp [isBlank, CodePoint.toNat] at h
    obtain ⟨piece, pieces, hrest, hcons⟩ :=
      @splitWhere_cons_of_not (· == .char ',') c hcomma (rest ++ t)
    rw [← ih h.2, List.cons_append, items, items, hcons, hrest, List.map_cons, List.map_cons, trim,
      trimWhere_cons h.1, trim]

/-- Items joined by commas, with or without blanks after them, are read back. -/
theorem items_joined {blanks : Text} (hblanks : ∀ c ∈ blanks, isBlank c = true) {texts : List Text}
    (h : ∀ t ∈ texts, t.IsItem) : items (joined (.char ',' :: blanks) texts) = texts := by
  induction texts with
  | nil => rfl
  | cons t rest ih =>
    rw [List.forall_mem_cons] at h
    have hrest := ih h.2
    -- A comma is written only if another item follows.
    cases rest with
    | nil => simpa [joined] using h.1.items_eq
    | cons u rest =>
      rw [joined] at hrest ⊢
      rw [List.intercalate_cons_cons, List.append_assoc, List.cons_append,
        items_append_comma h.1.undivided, items_append_blanks hblanks, hrest, h.1.items_eq]
      rfl

/-! ## Words -/

/-- The words of an item are bare. -/
theorem isBare_of_mem_words {t word : Text} (ht : .char ',' ∉ t) (h : word ∈ words t) :
    word.IsBare := by
  have hpiece := List.mem_of_mem_filter h
  exact ⟨ne_nil_of_mem_words h, not_isSeparator_of_mem_splitWhere word hpiece,
    fun hcomma => ht (subset_of_mem_splitWhere word hpiece hcomma)⟩

/-- Two bare words with a blank between them are read back. -/
theorem IsBare.words_append {s t : Text} (hs : s.IsBare) (ht : t.IsBare) :
    words (s ++ " " ++ t) = [s, t] := by
  have hspace : s ++ ofString " " ++ t = s ++ .char ' ' :: t := by simp [ofString, ofChars]
  rw [words, hspace, splitWhere_append_cons hs.unspaced rfl, splitWhere_of_forall_not ht.unspaced]
  simp [hs.filled, ht.filled]

/-- Two words with a blank between them are one item. -/
theorem IsBare.isItem_append {s t : Text} (hs : s.IsBare) (ht : t.IsBare) :
    IsItem (s ++ " " ++ t) where
  filled := by simp [hs.filled]
  undivided := by
    have hspace : CodePoint.char ',' ∉ ofString " " := by decide
    simp [hs.undivided, ht.undivided, hspace]
  begins c hc := by
    obtain ⟨first, rest, rfl⟩ := List.exists_cons_of_ne_nil hs.filled
    obtain rfl : first = c := by simpa using hc
    exact hs.unspaced first List.mem_cons_self
  ends c hc := by
    rw [List.getLast?_append_of_ne_nil _ ht.filled] at hc
    exact ht.unspaced c (List.mem_of_getLast? hc)

end BlockFlow.Text
