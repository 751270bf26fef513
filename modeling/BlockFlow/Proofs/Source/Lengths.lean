import BlockFlow.Proofs.Source.Literals
import BlockFlow.Source.Python.Layout

/-!
# Lengths in conditions and bounds

Conditions and bounds are spelled like other expressions, but without the step that turns
`word.length` into `len(word)`. What is written for them has no operator left, and it asks for a
length exactly where the given text did.

A dot is neutral, so the question is what spelling does to the end of the piece before the dot and
to the first word of the piece after it. The end stays a word character or stays none. The first
word is kept, unless a negation follows directly, which makes it longer.
-/

namespace BlockFlow.Python

open Text (Pattern Rule isBlank isWordChar)

variable {c : CodePoint} {s t : Text} {previous : Option CodePoint}

/-- The length of what a word names. -/
@[simps]
def lengthAccess : Pattern where
  text := ".length"
  before previous := previous.any isWordChar
  after next := !next.any isWordChar
  text_ne_nil := by decide

/-! ## Blanks and word characters -/

/-- The numbers of the blanks. -/
def blankNumbers : List Nat :=
  List.range' 0x09 5 ++ List.range' 0x1C 5 ++ [0x85, 0xA0, 0x1680] ++ List.range' 0x2000 11 ++
    [0x2028, 0x2029, 0x202F, 0x205F, 0x3000]

/-- Every blank has one of these numbers. -/
theorem toNat_mem_blankNumbers (hc : isBlank c = true) : c.toNat ∈ blankNumbers := by
  simp only [isBlank, Bool.or_eq_true, Bool.and_eq_true, decide_eq_true_eq, beq_iff_eq] at hc
  simp only [blankNumbers, List.mem_append, List.mem_range'_1, List.mem_cons, List.not_mem_nil,
    or_false]
  omega

/-- A blank is no part of a word. -/
theorem isWordChar_of_isBlank (hc : isBlank c = true) : isWordChar c = false := by
  have hnone : ∀ n ∈ blankNumbers, isWordChar (.char (Char.ofNat n)) = false := by decide +kernel
  cases c with
  | surrogate => rfl
  | char c => simpa [CodePoint.toNat] using hnone _ (toNat_mem_blankNumbers hc)

/-- A word character is no blank. -/
theorem isBlank_of_isWordChar (hc : isWordChar c = true) : isBlank c = false := by
  by_contra hblank
  rw [Bool.not_eq_false] at hblank
  simp [isWordChar_of_isBlank hblank] at hc

/-- Nor is it a sign. -/
theorem not_mem_signs_of_isWordChar (hc : isWordChar c = true) : c ∉ signs := by
  have hnone : ∀ d ∈ signs, isWordChar d = false := by decide
  intro hmem
  simp [hnone c hmem] at hc

/-! ## The end of a text -/

/-- A text that is spelled ends in a word character exactly if it did before. -/
theorem any_isWordChar_getLast?_spellSteps (t : Text) :
    (spellSteps t).getLast?.any isWordChar = t.getLast?.any isWordChar := by
  have htext : ∀ rule ∈ rules, rule.pattern.text.getLast?.any isWordChar =
      rule.new.getLast?.any isWordChar := by decide
  have hblank : ∀ rule ∈ rules, rule.trailing = true →
      rule.new.getLast?.any isWordChar = false := by decide
  refine (replacesAll_spellSteps t).getLast?_eq (P := (·.any isWordChar)) fun rule hrule => ?_
  refine ⟨htext rule hrule, fun htrailing c hc => ?_⟩
  simp only [Option.any_some, isWordChar_of_isBlank hc, hblank rule hrule htrailing]

/-! ## The first word of a text -/

/-- The first word of a text is changed like any other. -/
theorem takeWhile_mapWords {f : Text → Text}
    (hf : ∀ word : Text, (∀ c ∈ word, isWordChar c = true) → ∀ c ∈ f word, isWordChar c = true)
    {word : Text} (hword : ∀ c ∈ word, isWordChar c = true) (t : Text) :
    (mapWords f word t).takeWhile isWordChar = f (word.reverse ++ t.takeWhile isWordChar) := by
  have hmapped (word : Text) (hword : ∀ c ∈ word, isWordChar c = true) :
      ∀ c ∈ f word.reverse, isWordChar c = true := hf _ (by simpa using hword)
  induction t generalizing word with
  | nil => simpa [mapWords] using hmapped word hword
  | cons c rest ih =>
    rw [mapWords]
    -- A word character makes the word longer, and any other one ends it.
    split
    case isTrue hc =>
      rw [ih (List.forall_mem_cons.2 ⟨hc, hword⟩), List.takeWhile_cons_of_pos hc]
      simp
    case isFalse hc =>
      rw [List.takeWhile_append_of_pos (hmapped word hword), List.takeWhile_cons_of_neg hc,
        List.takeWhile_cons_of_neg hc, List.append_nil, List.append_nil]

/-- The first word of a text in which a word is replaced. -/
theorem takeWhile_replaceWord {old new : Text} (hnew : ∀ c ∈ new, isWordChar c = true) (t : Text) :
    (replaceWord old new t).takeWhile isWordChar =
      if t.takeWhile isWordChar = old then new else t.takeWhile isWordChar := by
  refine takeWhile_mapWords (fun word hword => ?_) (List.forall_mem_nil _) t
  split
  · exact hnew
  · exact hword

/-- Only truth values are replaced by other words. -/
theorem takeWhile_wordSteps_eq_length_iff (t : Text) :
    (wordSteps t).takeWhile isWordChar = "length" ↔ t.takeWhile isWordChar = "length" := by
  rw [wordSteps, takeWhile_replaceWord (by decide), takeWhile_replaceWord (by decide)]
  -- The first word is one of the two that are replaced, or any other.
  by_cases htrue : t.takeWhile isWordChar = "true"
  · rw [htrue]
    decide
  · rw [if_neg htrue]
    by_cases hfalse : t.takeWhile isWordChar = "false"
    · rw [hfalse]
      decide
    · rw [if_neg hfalse]

/-- The operators are spelled after a word as without it. -/
theorem operatorSteps_append_of_word (hs : ∀ c ∈ s, isWordChar c = true) (t : Text) :
    operatorSteps (s ++ t) = s ++ operatorSteps t := by
  induction s with
  | nil => rfl
  | cons c s ih =>
    rw [List.forall_mem_cons] at hs
    have hcons := operatorSteps_append_cons (isBlank_of_isWordChar hs.1)
      (not_mem_signs_of_isWordChar hs.1) [] (s ++ t)
    rw [List.nil_append] at hcons
    rw [List.cons_append, hcons, ih hs.2]
    rfl

/-- The binary operators are spelled by their rules, one after the other. -/
theorem replacesAll_binarySteps (t : Text) : Text.ReplacesAll binaryRules t (binarySteps t) :=
  ⟨_, replaces_doubleSlashes none t, _, replaces_spellOperator rfl _, _,
    replaces_spellOperator rfl _, rfl⟩

/-- Whether a text starts with a sign that no rule is about does not change. -/
theorem bne_head?_binarySteps (hc : isBlank c = false)
    (hrules : ∀ rule ∈ binaryRules, c ∉ rule.pattern.text ∧ c ∉ rule.new) (t : Text) :
    ((binarySteps t).head? != some c) = (t.head? != some c) := by
  refine (replacesAll_binarySteps t).head?_eq (P := (· != some c)) fun rule hrule => ?_
  exact keepsFirst_ne hc (hrules rule hrule).1 (hrules rule hrule).2

/-- Nor does it change whether a text starts with a word. -/
theorem any_isWordChar_head?_binarySteps (t : Text) :
    (binarySteps t).head?.any isWordChar = t.head?.any isWordChar := by
  have htext : ∀ rule ∈ binaryRules, rule.pattern.text.head?.any isWordChar =
      rule.new.head?.any isWordChar := by decide
  have hblank : ∀ rule ∈ binaryRules, rule.new.head?.any isWordChar = false := by decide
  refine (replacesAll_binarySteps t).head?_eq (P := (·.any isWordChar)) fun rule hrule => ?_
  refine ⟨htext rule hrule, fun _ c hc => ?_⟩
  simp only [Option.any_some, isWordChar_of_isBlank hc, hblank rule hrule]

/-- An exclamation mark is left in place. -/
theorem binarySteps_mark_cons (t : Text) :
    binarySteps (.char '!' :: t) = .char '!' :: binarySteps t :=
  binarySteps_append_cons (by decide) (by decide) [] t

/-- So a text starts with a negation exactly if it did before. -/
theorem starts_negation_binarySteps_iff :
    negation.Starts previous (binarySteps t) ↔ negation.Starts previous t := by
  -- Either the text starts with an exclamation mark, or it does not before and after.
  by_cases hmark : t.head? = some (.char '!')
  · obtain ⟨rest, rfl⟩ := List.head?_eq_some_iff.1 hmark
    have hnext := bne_head?_binarySteps (c := .char '=') (by decide) (by decide) rest
    simpa [binarySteps_mark_cons, Pattern.Starts] using Bool.coe_iff_coe.2 hnext
  · have hbinary : (binarySteps t).head? ≠ some (.char '!') := by
      rw [← bne_iff_ne, bne_head?_binarySteps (by decide) (by decide)]
      exact bne_iff_ne.2 hmark
    exact iff_of_false (fun h => hbinary h.head?) fun h => hmark h.head?

/-- A negation is spelled as a word, which is then the first one. -/
theorem takeWhile_operatorSteps_of_negation (h : negation.Starts previous t) :
    (operatorSteps t).takeWhile isWordChar = "not" := by
  obtain ⟨rest, hrest, -, hafter⟩ := starts_negation_binarySteps_iff.2 h
  have hnot : spellNegations false (.char '!' :: rest) =
      Text.ofString "not " ++ spellNegations true rest := by
    rw [spellNegations, if_neg (by simp), if_pos (by simpa using hafter)]
  rw [operatorSteps, hrest]
  exact congrArg (List.takeWhile isWordChar) hnot

/-- Any other start that is no word stays none. -/
theorem takeWhile_operatorSteps_of_not_word (ht : t.head?.any isWordChar = false)
    (h : ¬ negation.Starts previous t) : (operatorSteps t).takeWhile isWordChar = [] := by
  rw [← starts_negation_binarySteps_iff] at h
  rw [← any_isWordChar_head?_binarySteps] at ht
  rw [operatorSteps]
  cases hsteps : binarySteps t with
  | nil => rfl
  | cons d rest =>
    rw [hsteps] at h ht
    have hkept : spellNegations false (d :: rest) = d :: spellNegations false rest := by
      rw [spellNegations, if_neg (by simp), if_neg fun hmark => h ?_]
      simpa [Pattern.Starts] using hmark
    rw [hkept]
    exact List.takeWhile_cons_of_neg (by simpa using ht)

/-- What follows the first word starts with no word character. -/
theorem any_head?_dropWhile (p : CodePoint → Bool) (t : Text) :
    (t.dropWhile p).head?.any p = false := by
  have hhead := List.head?_dropWhile_not p t
  cases hrest : (t.dropWhile p).head? with
  | none => rfl
  | some c => simpa [hrest] using hhead

/-- A word is dropped from a text that does not go on with it. -/
theorem dropWhile_word_append (hs : ∀ c ∈ s, isWordChar c = true)
    (ht : t.head?.any isWordChar = false) : (s ++ t).dropWhile isWordChar = t := by
  rw [List.dropWhile_append_of_pos hs]
  cases t with
  | nil => rfl
  | cons c t => exact List.dropWhile_cons_of_neg (by simpa using ht)

/-- The first word of a text, and what follows it. -/
theorem takeWhile_eq_iff_exists (hs : ∀ c ∈ s, isWordChar c = true) (t : Text) :
    t.takeWhile isWordChar = s ↔
      ∃ rest, t = s ++ rest ∧ rest.head?.any isWordChar = false := by
  constructor
  · rintro rfl
    exact ⟨_, List.takeWhile_append_dropWhile.symm, any_head?_dropWhile _ t⟩
  · rintro ⟨rest, rfl, hrest⟩
    exact takeWhile_word_append hs hrest

/-- A text begins with the word `length` after spelling if it did so before and no negation follows
the word directly. -/
theorem takeWhile_spellSteps_eq_length_iff (t : Text) :
    (spellSteps t).takeWhile isWordChar = "length" ↔
      t.takeWhile isWordChar = "length" ∧
        ¬ negation.Starts none (t.dropWhile isWordChar) := by
  have hword : ∀ c ∈ t.takeWhile isWordChar, isWordChar c = true :=
    fun c hc => List.mem_takeWhile_imp hc
  have hsteps : operatorSteps t =
      t.takeWhile isWordChar ++ operatorSteps (t.dropWhile isWordChar) := by
    rw [← operatorSteps_append_of_word hword, List.takeWhile_append_dropWhile]
  rw [spellSteps_eq, takeWhile_wordSteps_eq_length_iff, hsteps,
    List.takeWhile_append_of_pos hword]
  -- A negation right after the word makes it longer by its spelling.
  by_cases hnegation : negation.Starts none (t.dropWhile isWordChar)
  · rw [takeWhile_operatorSteps_of_negation hnegation]
    refine iff_of_false (fun h => ?_) fun h => h.2 hnegation
    have hlast := congrArg List.getLast? h
    rw [List.getLast?_append_of_ne_nil _ (by decide)] at hlast
    revert hlast
    decide
  · rw [takeWhile_operatorSteps_of_not_word (any_head?_dropWhile _ t) hnegation]
    simp [hnegation]

/-! ## Lengths -/

/-- Spelling keeps the lengths that are asked for, unless a negation follows directly, and brings in
no other ones. -/
theorem occurs_lengthAccess_spellSteps_iff (t : Text) :
    lengthAccess.Occurs (spellSteps t) ↔
      ∃ left right, t = left ++ ".length" ++ right ∧ left.getLast?.any isWordChar = true ∧
        right.head?.any isWordChar = false ∧ ¬ negation.Starts none right := by
  have hdot : Neutral (.char '.') := ⟨by decide, by decide, by decide⟩
  have hword : ∀ c ∈ Text.ofString "length", isWordChar c = true := by decide
  have hcut (left right : Text) :
      left ++ ".length" ++ right = left ++ .char '.' :: (Text.ofString "length" ++ right) := by
    simp [Text.ofString, Text.ofChars]
  constructor
  -- A dot that is written was given, so both pieces around it can be traced back.
  · rintro ⟨left, right, h, hbefore, hafter⟩
    rw [lengthAccess_text, hcut] at h
    obtain ⟨s, u, rfl, rfl, hu⟩ := exists_cut_of_spellSteps hdot (by decide) h
    have hspelled : (spellSteps u).takeWhile isWordChar = "length" :=
      (takeWhile_eq_iff_exists hword _).2 ⟨right, hu, by simpa using hafter⟩
    obtain ⟨htake, hnegation⟩ := (takeWhile_spellSteps_eq_length_iff u).1 hspelled
    obtain ⟨rest, rfl, hrest⟩ := (takeWhile_eq_iff_exists hword u).1 htake
    rw [dropWhile_word_append hword hrest] at hnegation
    refine ⟨s, rest, (hcut s rest).symm, ?_, hrest, hnegation⟩
    rw [← any_isWordChar_getLast?_spellSteps]
    exact hbefore
  · rintro ⟨left, right, rfl, hbefore, hafter, hnegation⟩
    have hspelled : (spellSteps (Text.ofString "length" ++ right)).takeWhile isWordChar =
        "length" := by
      rw [takeWhile_spellSteps_eq_length_iff, dropWhile_word_append hword hafter]
      exact ⟨takeWhile_word_append hword hafter, hnegation⟩
    obtain ⟨rest, hrest, hnext⟩ := (takeWhile_eq_iff_exists hword _).1 hspelled
    refine ⟨spellSteps left, rest, ?_, ?_, by simp [hnext]⟩
    · rw [lengthAccess_text, hcut, hcut, spellSteps_append_cons hdot, hrest]
    · rw [lengthAccess_before, any_isWordChar_getLast?_spellSteps]
      exact hbefore

/-- What is written for a condition or a bound that is no literal is spelled. It asks for a length
exactly if the given text does so at a place that no negation follows directly. -/
theorem tests_spelled_except_lengths (t : Text) (ht : Text.isLiteral t = false) (var : Text)
    (body orElse : List (Statement Form)) (id : Option Text) :
    (lines (.ifElse t body orElse id)).head? = some (.header ("if " ++ spell t ++ ":")) ∧
    (lines (.whileLoop t body id)).head? = some (.header ("while " ++ spell t ++ ":")) ∧
    (lines (.forRange var t body id)).head? =
      some (.header ("for " ++ var ++ " in range(" ++ spell t ++ "):")) ∧
    Spelled (spell t) ∧
    (lengthAccess.Occurs (spell t) ↔
      ∃ left right, t = left ++ ".length" ++ right ∧ left.getLast?.any isWordChar = true ∧
        right.head?.any isWordChar = false ∧ ¬ negation.Starts none right) := by
  refine ⟨by simp [lines], by simp [lines], by simp [lines], ?_, ?_⟩
  · rw [spell_of_not_isLiteral ht]
    exact spelled_spellSteps t
  · rw [spell_of_not_isLiteral ht]
    exact occurs_lengthAccess_spellSteps_iff t

/-- An unequal sign after a length is no negation. -/
theorem tests_spelled_except_lengths_unequal :
    Text.isLiteral "!done&&i<xs.length!=true" = false ∧
    (lines (.whileLoop "!done&&i<xs.length!=true" [] none)).head? =
      some (.header "while not done and i<xs.length!=True:") ∧
    Spelled (spell "!done&&i<xs.length!=true") ∧
    lengthAccess.Occurs (spell "!done&&i<xs.length!=true") := by
  have ht : Text.isLiteral "!done&&i<xs.length!=true" = false := by decide
  obtain ⟨-, hwhile, -, hspelled, hlength⟩ := tests_spelled_except_lengths _ ht "i" [] [] none
  refine ⟨ht, hwhile.trans (by decide +kernel), hspelled, hlength.2 ?_⟩
  refine ⟨"!done&&i<xs", "!=true", by decide, by decide, by decide, ?_⟩
  rintro ⟨rest, hrest, -, hafter⟩
  obtain rfl := (List.cons.inj hrest).2
  exact absurd hafter (by decide)

/-- The number of items in a condition is written as it was given. -/
theorem condition_keeps_length :
    ¬ ∀ t : Text, Text.isLiteral t = false →
      ∃ written : Text, (lines (.ifElse t [] [] none)).head? =
        some (.header ("if " ++ written ++ ":")) ∧ ¬ lengthAccess.Occurs written := by
  intro h
  obtain ⟨written, hwritten, hfree⟩ := h "items.length > 0" (by decide)
  have hline : (lines (.ifElse "items.length > 0" [] [] none)).head? =
      some (.header ("if " ++ "items.length > 0" ++ ":")) := by decide
  obtain rfl : "items.length > 0" = written := by
    simpa [hline, Line.header] using hwritten
  exact hfree ⟨"items", " > 0", by decide, by decide, by decide⟩

end BlockFlow.Python
