import BlockFlow.Proofs.Source.Spelling
import BlockFlow.Proofs.Text.Splitting

/-!
# Literals inside expressions

Spelling looks at blanks, words and the signs of operators. A text can be cut at any other code
point, such as a quotation mark or a dot, and its pieces be spelled apart
(`spellSteps_append_cons`). So a literal inside a longer expression is spelled as if it were an
expression itself, and it survives only if there is nothing to spell in it.
-/

namespace BlockFlow.Python

open Text (isBlank isWordChar splitWhere)

variable {c : CodePoint} {s t : Text}

/-! ## Cutting a text -/

/-- Whether a text starts with a sign does not change by cutting it at another code point. -/
theorem bne_head?_append_cons {d : CodePoint} (hc : c ≠ d) (s t : Text) :
    ((s ++ c :: t).head? != some d) = (s.head? != some d) := by
  cases s with
  | nil => exact bne_iff_ne.2 (by simpa using hc)
  | cons => rfl

/-- Slashes are doubled apart in the pieces of a text that is not cut at one. -/
theorem doubleSlashes_append_cons (hc : c ≠ .char '/') (afterSlash : Bool) (s t : Text) :
    doubleSlashes afterSlash (s ++ c :: t) =
      doubleSlashes afterSlash s ++ c :: doubleSlashes false t := by
  induction s generalizing afterSlash with
  | nil => simp [doubleSlashes, beq_false_of_ne hc]
  | cons d s ih =>
    simp only [List.cons_append, doubleSlashes, bne_head?_append_cons hc, ih]
    split <;> rfl

/-- So are operators spelled, unless the text is cut at a blank, which might be dropped. -/
theorem spellOperator_append_cons {operator : CodePoint} (hblank : isBlank c = false)
    (hc : c ≠ operator) (word : Text) (held : Option Text) (s t : Text) :
    spellOperator operator word held (s ++ c :: t) =
      spellOperator operator word held s ++ c :: spellOperator operator word (some []) t := by
  have hcons (held : Option Text) : spellOperator operator word held (c :: t) =
      (held.getD []).reverse ++ c :: spellOperator operator word (some []) t := by
    cases t <;> simp [spellOperator, hblank, hc]
  fun_induction spellOperator operator word held s with
  | case1 held => exact hcons held
  | case2 held d hd => simp [spellOperator, hd, hcons]
  | case3 held d hd => simp [spellOperator, hd, hc, hcons]
  | case4 held d e rest hd ih => simpa [spellOperator, hd] using ih
  | case5 held d e rest hd hsame ih => simp_all [spellOperator]
  | case6 held d e rest hd hsame ih => simp_all [spellOperator]

/-- So are negations, unless it is cut at an equals sign, which makes another operator. -/
theorem spellNegations_append_cons (hblank : isBlank c = false) (hmark : c ≠ .char '!')
    (hequals : c ≠ .char '=') (dropping : Bool) (s t : Text) :
    spellNegations dropping (s ++ c :: t) =
      spellNegations dropping s ++ c :: spellNegations false t := by
  induction s generalizing dropping with
  | nil => simp [spellNegations, hblank, hmark]
  | cons d s ih =>
    simp only [List.cons_append, spellNegations, bne_head?_append_cons hequals, ih]
    split
    · rfl
    · split <;> simp

/-- So are words changed, if the text is not cut inside one. -/
theorem mapWords_append_cons (hc : isWordChar c = false) (f : Text → Text) (word s t : Text) :
    mapWords f word (s ++ c :: t) = mapWords f word s ++ c :: mapWords f [] t := by
  induction s generalizing word with
  | nil => simp [mapWords, hc]
  | cons d s ih =>
    simp only [List.cons_append, mapWords, ih]
    split <;> simp

/-- The steps of spelling that are about operators with two sides. -/
def binarySteps (t : Text) : Text :=
  spellOperator (.char '|') " or " (some [])
    (spellOperator (.char '&') " and " (some []) (doubleSlashes false t))

/-- The steps of spelling that are about operators. -/
def operatorSteps (t : Text) : Text :=
  spellNegations false (binarySteps t)

/-- The steps of spelling that are about words. -/
def wordSteps (t : Text) : Text :=
  replaceWord "false" "False" (replaceWord "true" "True" t)

/-- Spelling takes care of operators first and then of words. -/
theorem spellSteps_eq (t : Text) : spellSteps t = wordSteps (operatorSteps t) :=
  rfl

/-- Operators with two sides are spelled apart in the pieces of a text. -/
theorem binarySteps_append_cons (hblank : isBlank c = false) (hc : c ∉ Text.ofString "/&|")
    (s t : Text) : binarySteps (s ++ c :: t) = binarySteps s ++ c :: binarySteps t := by
  obtain ⟨hslash, hand, hor⟩ : c ≠ .char '/' ∧ c ≠ .char '&' ∧ c ≠ .char '|' := by
    simpa [Text.ofString, Text.ofChars] using hc
  rw [binarySteps, doubleSlashes_append_cons hslash, spellOperator_append_cons hblank hand,
    spellOperator_append_cons hblank hor, binarySteps, binarySteps]

/-- The signs that operators consist of. -/
def signs : Text :=
  "/&|!="

/-- So are all operators. -/
theorem operatorSteps_append_cons (hblank : isBlank c = false) (hc : c ∉ signs) (s t : Text) :
    operatorSteps (s ++ c :: t) = operatorSteps s ++ c :: operatorSteps t := by
  have hbinary : c ∉ Text.ofString "/&|" :=
    fun h => hc (List.mem_append_left (Text.ofString "!=") h)
  have hmark : c ≠ .char '!' := fun h => hc (h ▸ by decide)
  have hequals : c ≠ .char '=' := fun h => hc (h ▸ by decide)
  rw [operatorSteps, binarySteps_append_cons hblank hbinary,
    spellNegations_append_cons hblank hmark hequals, operatorSteps, operatorSteps]

/-- So are words. -/
theorem wordSteps_append_cons (hc : isWordChar c = false) (s t : Text) :
    wordSteps (s ++ c :: t) = wordSteps s ++ c :: wordSteps t := by
  simp [wordSteps, replaceWord, mapWords_append_cons hc]

/-- A code point that spelling does not look at. -/
structure Neutral (c : CodePoint) : Prop where
  not_blank : isBlank c = false
  not_sign : c ∉ signs
  not_word : isWordChar c = false

/-- A text that is cut at a neutral code point is spelled piece by piece. -/
theorem spellSteps_append_cons (hc : Neutral c) (s t : Text) :
    spellSteps (s ++ c :: t) = spellSteps s ++ c :: spellSteps t := by
  rw [spellSteps_eq, operatorSteps_append_cons hc.not_blank hc.not_sign,
    wordSteps_append_cons hc.not_word, spellSteps_eq, spellSteps_eq]

section Cut

variable (hc : Neutral c) (hnew : ∀ rule ∈ rules, c ∉ rule.new)

include hnew in
/-- Spelling does not bring in a code point that no rule writes. -/
theorem not_mem_spellSteps (hs : c ∉ s) : c ∉ spellSteps s :=
  fun h => hs ((replacesAll_spellSteps s).mem h hnew)

include hc hnew

/-- Splitting a text at a neutral code point and spelling it can be done in either order. -/
theorem splitWhere_spellSteps (t : Text) :
    splitWhere (· == c) (spellSteps t) = (splitWhere (· == c) t).map spellSteps := by
  have hpiece {s : Text} (hs : c ∉ s) : ∀ d ∈ s, (d == c) = false :=
    fun d hd => beq_false_of_ne fun h => hs (h ▸ hd)
  induction t using Text.cut_induction c with
  | whole t ht =>
    rw [Text.splitWhere_of_forall_not (hpiece ht),
      Text.splitWhere_of_forall_not (hpiece (not_mem_spellSteps hnew ht)), List.map_singleton]
  | cut s t hs ih =>
    rw [spellSteps_append_cons hc, Text.splitWhere_append_cons (hpiece hs) (beq_self_eq_true c),
      Text.splitWhere_append_cons (hpiece (not_mem_spellSteps hnew hs)) (beq_self_eq_true c), ih,
      List.map_cons]

/-- Where a spelled text can be cut, the text could be cut before. -/
theorem exists_cut_of_spellSteps {left right : Text} (h : spellSteps t = left ++ c :: right) :
    ∃ s u, t = s ++ c :: u ∧ spellSteps s = left ∧ spellSteps u = right := by
  induction t using Text.cut_induction c generalizing left with
  | whole t ht => exact absurd (h ▸ by simp) (not_mem_spellSteps hnew ht)
  | cut s t hs ih =>
    rw [spellSteps_append_cons hc] at h
    -- The cut is the first one there is, one of those after it, or inside the first piece.
    rcases List.append_eq_append_iff.1 h with ⟨rest, hleft, hrest⟩ | ⟨rest, hsteps, hrest⟩
    · cases rest with
      | nil => exact ⟨s, t, rfl, by simpa using hleft.symm, (List.cons.inj hrest).2⟩
      | cons d rest =>
        obtain ⟨rfl, htail⟩ := List.cons.inj hrest
        obtain ⟨v, u, rfl, rfl, rfl⟩ := ih htail
        exact ⟨s ++ c :: v, u, by simp, by rw [spellSteps_append_cons hc, hleft], rfl⟩
    · cases rest with
      | nil => exact ⟨s, t, rfl, by simpa using hsteps, (List.cons.inj hrest).2.symm⟩
      | cons d rest =>
        obtain ⟨rfl, -⟩ := List.cons.inj hrest
        exact absurd (hsteps ▸ by simp) (not_mem_spellSteps hnew hs)

end Cut

/-! ## Literals -/

/-- Every second piece, as long as another one follows it. -/
def enclosed : List Text → List Text
  | _ :: inner :: outer :: rest => inner :: enclosed (outer :: rest)
  | _ => []

/-- Changing the pieces of a text changes the enclosed ones alike. -/
theorem enclosed_map (f : Text → Text) (pieces : List Text) :
    enclosed (pieces.map f) = (enclosed pieces).map f := by
  fun_induction enclosed pieces with
  | case1 first inner outer rest ih => simpa [enclosed] using ih
  | case2 pieces h =>
    match pieces, h with
    | [], _ => rfl
    | [_], _ => rfl
    | [_, _], _ => rfl
    | a :: b :: c :: rest, h => exact absurd rfl (h a b c rest)

/-- What stands between the first and the second double quotation mark of a text, between the third
and the fourth, and so on. -/
def literals (t : Text) : List Text :=
  enclosed (splitWhere (· == .char '"') t)

/-- The literals of a spelled text are the spelled literals of the text. -/
theorem literals_spellSteps (t : Text) : literals (spellSteps t) = (literals t).map spellSteps := by
  have hneutral : Neutral (.char '"') := ⟨by decide, by decide, by decide⟩
  rw [literals, splitWhere_spellSteps hneutral (by decide), enclosed_map, literals]

/-- The literals of an expression survive exactly if the whole expression is taken for a literal or
none of them holds anything that would be spelled. -/
theorem literals_spell_eq_iff (t : Text) :
    literals (spell t) = literals t ↔
      Text.isLiteral t = true ∨ ∀ s ∈ literals t, Spelled s := by
  -- A text that is taken for a literal is not spelled at all.
  cases hliteral : Text.isLiteral t with
  | true => simp [spell_of_isLiteral hliteral]
  | false =>
    have hfixed : (literals t).map spellSteps = literals t ↔
        ∀ s ∈ literals t, spellSteps s = s := by
      simpa using List.map_inj_left (l := literals t) (f := spellSteps) (g := id)
    rw [spell_of_not_isLiteral hliteral, literals_spellSteps, hfixed]
    simp [spellSteps_eq_self_iff]

/-- A slash inside a literal is doubled like any other. -/
theorem literals_spell_changes_slash :
    ¬ ∀ t : Text, .char '\'' ∉ t → .char '\\' ∉ t → 2 ∣ t.count (.char '"') →
      literals (spell t) = literals t := by
  intro h
  have hkept := h "path == \"a/b\"" (by decide) (by decide) (by decide)
  revert hkept
  decide

end BlockFlow.Python
