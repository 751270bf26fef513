import BlockFlow.Proofs.Text.Replacing
import BlockFlow.Source.Python.Expression
import Mathlib.Data.List.TakeWhile
import Mathlib.Tactic.Simps.Basic

/-!
# Spelled texts

An expression is spelled by six rules, one after another. Each rule removes its own pattern, and
none of them brings back the pattern of a rule before it, so a spelled text holds none of the six.
A text that holds none of them is not changed any more, hence spelling twice is spelling once.
-/

namespace BlockFlow.Python

open Text (Pattern Rule ReplacesAll Margin isBlank isWordChar)

/-! ## What is replaced -/

/-- A slash that has no slash next to it. -/
@[simps]
def loneSlash : Pattern where
  text := [.char '/']
  before previous := previous != some (.char '/')
  after next := next != some (.char '/')
  text_ne_nil := List.cons_ne_nil _ _

/-- A code point twice in a row. -/
@[simps]
def doubled (c : CodePoint) : Pattern where
  text := [c, c]
  before _ := true
  after _ := true
  text_ne_nil := List.cons_ne_nil _ _

/-- An exclamation mark that no equals sign follows. -/
@[simps]
def negation : Pattern where
  text := [.char '!']
  before _ := true
  after next := next != some (.char '=')
  text_ne_nil := List.cons_ne_nil _ _

/-- A word that is not part of a longer one. -/
@[simps]
def wholeWord (word : Text) (hword : word ≠ []) : Pattern where
  text := word
  before previous := !previous.any isWordChar
  after next := !next.any isWordChar
  text_ne_nil := hword

/-- A text in which there is nothing left to spell. -/
structure Spelled (t : Text) : Prop where
  slash : ¬ loneSlash.Occurs t
  conjunction : ¬ (doubled (.char '&')).Occurs t
  disjunction : ¬ (doubled (.char '|')).Occurs t
  negation : ¬ negation.Occurs t
  truth : ¬ (wholeWord "true" (by decide)).Occurs t
  falsity : ¬ (wholeWord "false" (by decide)).Occurs t

/-! ## The rules -/

/-- Doubles a single slash. -/
@[simps]
def slashRule : Rule where
  pattern := loneSlash
  leading := false
  trailing := false
  new := "//"
  new_ne_nil := by decide

/-- Writes an operator, and the blanks around it, as a word. -/
@[simps]
def operatorRule (operator : CodePoint) (word : Text) (hword : word ≠ []) : Rule where
  pattern := doubled operator
  leading := true
  trailing := true
  new := word
  new_ne_nil := hword

/-- Writes a negation, and the blanks after it, as a word. -/
@[simps]
def negationRule : Rule where
  pattern := negation
  leading := false
  trailing := true
  new := "not "
  new_ne_nil := by decide

/-- Writes one word for another. -/
@[simps]
def wordRule (old new : Text) (hold : old ≠ []) (hnew : new ≠ []) : Rule where
  pattern := wholeWord old hold
  leading := false
  trailing := false
  new := new
  new_ne_nil := hnew

/-- The rules about operators with two sides, in their order. -/
def binaryRules : List Rule :=
  [slashRule, operatorRule (.char '&') " and " (by decide),
    operatorRule (.char '|') " or " (by decide)]

/-- The rules of spelling, in their order. -/
def rules : List Rule :=
  binaryRules ++ [negationRule, wordRule "true" "True" (by decide) (by decide),
    wordRule "false" "False" (by decide) (by decide)]

/-- A text is spelled if the pattern of no rule occurs in it. -/
theorem spelled_iff (t : Text) : Spelled t ↔ ∀ rule ∈ rules, ¬ rule.pattern.Occurs t := by
  simp only [rules, binaryRules, List.cons_append, List.nil_append, List.forall_mem_cons]
  constructor
  · rintro ⟨hslash, hand, hor, hnot, htrue, hfalse⟩
    exact ⟨hslash, hand, hor, hnot, htrue, hfalse, nofun⟩
  · rintro ⟨hslash, hand, hor, hnot, htrue, hfalse, -⟩
    exact ⟨hslash, hand, hor, hnot, htrue, hfalse⟩

/-! ## The steps follow the rules -/

variable {previous : Option CodePoint} {c : CodePoint} {s t t' : Text}

/-- Doubling slashes follows its rule. -/
theorem replaces_doubleSlashes (previous : Option CodePoint) (t : Text) :
    slashRule.Replaces previous t (doubleSlashes (previous == some (.char '/')) t) := by
  induction t generalizing previous with
  | nil => exact .nil
  | cons c rest ih =>
    rw [doubleSlashes]
    split
    case isTrue h =>
      simp only [Bool.and_eq_true, beq_iff_eq, Bool.not_eq_true'] at h
      obtain ⟨⟨rfl, hbefore⟩, hafter⟩ := h
      refine .replace (Text.margin_nil _) (Text.margin_nil _) ?_ (ih (some (.char '/')))
      exact ⟨rest, rfl, by simpa using hbefore, hafter⟩
    case isFalse h =>
      refine .keep ?_ (ih (some c))
      rintro ⟨rest', hcons, hbefore, hafter⟩
      obtain ⟨rfl, rfl⟩ := List.cons.inj hcons
      exact h (by simpa using And.intro hbefore hafter)

/-- Replacing goes on after some blanks, if they are being dropped, whatever comes before. -/
def ContinuesAfterBlanks (rule : Rule) (dropping : Bool) (t t' : Text) : Prop :=
  ∃ dropped rest, t = dropped ++ rest ∧ Margin dropping dropped ∧
    ∀ previous, rule.Replaces previous rest t'

/-- If no blanks are dropped, replacing goes on at once. -/
theorem ContinuesAfterBlanks.of_replaces {rule : Rule} {dropping : Bool}
    (h : ∀ previous, rule.Replaces previous t t') : ContinuesAfterBlanks rule dropping t t' :=
  ⟨[], t, rfl, Text.margin_nil _, h⟩

/-- If blanks are not being dropped, none are. -/
theorem ContinuesAfterBlanks.replaces {rule : Rule} (h : ContinuesAfterBlanks rule false t t')
    (previous : Option CodePoint) : rule.Replaces previous t t' := by
  obtain ⟨dropped, rest, rfl, hdropped, hrest⟩ := h
  cases dropped with
  | nil => exact hrest previous
  | cons c dropped => exact absurd (hdropped c List.mem_cons_self).1 Bool.false_ne_true

/-- One more blank in front is dropped as well. -/
theorem ContinuesAfterBlanks.cons {rule : Rule} (hc : isBlank c = true)
    (h : ContinuesAfterBlanks rule true t t') : ContinuesAfterBlanks rule true (c :: t) t' := by
  obtain ⟨dropped, rest, rfl, hdropped, hrest⟩ := h
  exact ⟨c :: dropped, rest, rfl, List.forall_mem_cons.2 ⟨⟨rfl, hc⟩, hdropped⟩, hrest⟩

section Operators

variable {operator : CodePoint} {word : Text} {hword : word ≠ []}

/-- Blanks that were held back are no operators and are kept. -/
theorem replaces_held (hoperator : isBlank operator = false) {held : Text}
    (hheld : ∀ c ∈ held, isBlank c = true)
    (h : ∀ previous, (operatorRule operator word hword).Replaces previous t t')
    (previous : Option CodePoint) :
    (operatorRule operator word hword).Replaces previous (held.reverse ++ t)
      (held.reverse ++ t') := by
  induction held generalizing t t' with
  | nil => exact h previous
  | cons c held ih =>
    rw [List.forall_mem_cons] at hheld
    have hc (previous : Option CodePoint) :
        (operatorRule operator word hword).Replaces previous (c :: t) (c :: t') := by
      refine .keep (fun hstarts => ?_) (h _)
      obtain rfl : c = operator := by simpa using hstarts.head?
      simp [hheld.1] at hoperator
    simpa using ih hheld.2 hc

/-- The invariant of the loop: the blanks held back have been read but not yet been written, and
when nothing is held, blanks are being dropped. -/
theorem continuesAfterBlanks_spellOperator (hoperator : isBlank operator = false)
    (held : Option Text) (hheld : ∀ c ∈ held.getD [], isBlank c = true) (t : Text) :
    ContinuesAfterBlanks (operatorRule operator word hword) held.isNone
      ((held.getD []).reverse ++ t) (spellOperator operator word held t) := by
  fun_induction spellOperator operator word held t with
  | case1 held =>
    refine .of_replaces fun previous => ?_
    simpa using replaces_held hoperator hheld (fun _ => .nil) previous
  | case2 held c hblank =>
    cases held with
    | none => exact .cons hblank (.of_replaces fun _ => .nil)
    | some held =>
      have hblanks : ∀ d ∈ c :: held, isBlank d = true := List.forall_mem_cons.2 ⟨hblank, hheld⟩
      refine .of_replaces fun previous => ?_
      simpa using replaces_held hoperator hblanks (fun _ => .nil) previous
  | case3 held c hblank =>
    refine .of_replaces (replaces_held hoperator hheld fun _ => .keep ?_ .nil)
    rintro ⟨rest, hcons, -⟩
    simp at hcons
  | case4 held c d rest hblank ih =>
    cases held with
    | none => exact .cons hblank (ih nofun)
    | some held => simpa using ih (List.forall_mem_cons.2 ⟨hblank, hheld⟩)
  | case5 held c d rest hblank hsame ih =>
    simp only [Bool.and_eq_true, beq_iff_eq] at hsame
    obtain ⟨rfl, rfl⟩ := hsame
    obtain ⟨dropped, rest, rfl, hdropped, hrest⟩ := ih nofun
    refine .of_replaces fun previous => ?_
    have hmargin : Margin true (held.getD []).reverse := by simpa [Margin] using hheld
    simpa using Rule.Replaces.replace hmargin hdropped ⟨_, rfl, rfl, rfl⟩ (hrest _)
  | case6 held c d rest hblank hsame ih =>
    refine .of_replaces (replaces_held hoperator hheld fun _ => .keep ?_ ((ih nofun).replaces _))
    rintro ⟨rest', hcons, -⟩
    obtain ⟨rfl, rfl, -⟩ : c = operator ∧ d = operator ∧ rest = rest' := by
      simpa using hcons
    simp at hsame

/-- Spelling an operator follows its rule. -/
theorem replaces_spellOperator (hoperator : isBlank operator = false) (t : Text) :
    (operatorRule operator word hword).Replaces none t (spellOperator operator word (some []) t) :=
  (continuesAfterBlanks_spellOperator hoperator (some []) nofun t).replaces none

end Operators

/-- Blanks are being dropped from a negation on until something else comes. -/
theorem continuesAfterBlanks_spellNegations (dropping : Bool) (t : Text) :
    ContinuesAfterBlanks negationRule dropping t (spellNegations dropping t) := by
  induction t generalizing dropping with
  | nil => exact .of_replaces fun _ => .nil
  | cons c rest ih =>
    rw [spellNegations]
    split
    case isTrue h =>
      obtain ⟨rfl, hblank⟩ := Bool.and_eq_true_iff.1 h
      exact .cons hblank (ih true)
    case isFalse =>
      split
      case isTrue h =>
        obtain ⟨hc, hafter⟩ := Bool.and_eq_true_iff.1 h
        obtain rfl := beq_iff_eq.1 hc
        obtain ⟨dropped, rest, rfl, hdropped, hrest⟩ := ih true
        refine .of_replaces fun previous => ?_
        exact .replace (Text.margin_nil _) hdropped ⟨_, rfl, rfl, hafter⟩ (hrest _)
      case isFalse h =>
        refine .of_replaces fun previous => .keep ?_ ((ih false).replaces _)
        rintro ⟨rest', hcons, -, hafter⟩
        obtain ⟨rfl, rfl⟩ := List.cons.inj hcons
        exact h (by simpa using hafter)

/-- Spelling negations follows its rule. -/
theorem replaces_spellNegations (t : Text) :
    negationRule.Replaces none t (spellNegations false t) :=
  (continuesAfterBlanks_spellNegations false t).replaces none

section Words

variable {old new word : Text} {hold : old ≠ []} {hnew : new ≠ []}

/-- A word at the start of a text is found, if it ends where it seems to. -/
theorem takeWhile_word_append (hs : ∀ c ∈ s, isWordChar c = true)
    (ht : t.head?.any isWordChar = false) : (s ++ t).takeWhile isWordChar = s := by
  rw [List.takeWhile_append_of_pos hs]
  cases t with
  | nil => rw [List.takeWhile_nil, List.append_nil]
  | cons c t => rw [List.takeWhile_cons_of_neg (by simpa using ht), List.append_nil]

/-- Inside a word no other word starts. -/
theorem replaces_append_of_word (hs : ∀ c ∈ s, isWordChar c = true) (hc : isWordChar c = true)
    (h : ∀ previous, (wordRule old new hold hnew).Replaces previous t t') :
    (wordRule old new hold hnew).Replaces (some c) (s ++ t) (s ++ t') := by
  induction s generalizing c with
  | nil => exact h _
  | cons d s ih =>
    rw [List.forall_mem_cons] at hs
    refine .keep ?_ (ih hs.2 hs.1)
    rintro ⟨rest, -, hbefore, -⟩
    simp [hc] at hbefore

/-- A whole word is replaced if it is the one to be replaced, and kept if not. -/
theorem replaces_word (hold' : ∀ c ∈ old, isWordChar c = true)
    (hword : ∀ c ∈ word, isWordChar c = true) (hnext : t.head?.any isWordChar = false)
    (hprevious : previous.any isWordChar = false)
    (h : ∀ previous, (wordRule old new hold hnew).Replaces previous t t') :
    (wordRule old new hold hnew).Replaces previous (word ++ t)
      ((if word = old then new else word) ++ t') := by
  split
  case isTrue heq =>
    subst heq
    have hstarts : (wholeWord word hold).Starts previous (word ++ [] ++ t) :=
      ⟨t, by simp, by simpa using hprevious, by simpa using hnext⟩
    simpa using Rule.Replaces.replace (Text.margin_nil _) (Text.margin_nil _) hstarts (h _)
  case isFalse hne =>
    cases word with
    | nil => exact h previous
    | cons c word =>
      have hchars := List.forall_mem_cons.1 hword
      refine .keep ?_ (replaces_append_of_word hchars.2 hchars.1 h)
      rintro ⟨rest, heq, -, hafter⟩
      -- A text begins with one word only.
      apply hne
      calc c :: word = (c :: word ++ t).takeWhile isWordChar :=
            (takeWhile_word_append hword hnext).symm
        _ = (old ++ rest).takeWhile isWordChar := congrArg _ heq
        _ = old := takeWhile_word_append hold' (by simpa using hafter)

/-- The invariant of the loop: the word read so far has not been written yet, and nothing but a word
character can make it longer. -/
theorem replaces_mapWords (hold' : ∀ c ∈ old, isWordChar c = true)
    (hword : ∀ c ∈ word, isWordChar c = true) (hprevious : previous.any isWordChar = false)
    (t : Text) :
    (wordRule old new hold hnew).Replaces previous (word.reverse ++ t)
      (mapWords (fun w => if w = old then new else w) word t) := by
  induction t generalizing word previous with
  | nil =>
    have hreverse : ∀ c ∈ word.reverse, isWordChar c = true := by simpa using hword
    simpa [mapWords] using replaces_word hold' hreverse (t := []) rfl hprevious fun _ => .nil
  | cons c rest ih =>
    rw [mapWords]
    split
    case isTrue hc => simpa using ih (List.forall_mem_cons.2 ⟨hc, hword⟩) hprevious
    case isFalse hc =>
      rw [Bool.not_eq_true] at hc
      have hreverse : ∀ c ∈ word.reverse, isWordChar c = true := by simpa using hword
      refine replaces_word hold' hreverse hc hprevious fun _ => .keep ?_ ?_
      case refine_2 => exact ih (List.forall_mem_nil _) hc
      intro hstarts
      have hmem : c ∈ old := List.mem_of_head? hstarts.head?.symm
      simp [hold' c hmem] at hc

/-- Replacing a word follows its rule. -/
theorem replaces_replaceWord (hold' : ∀ c ∈ old, isWordChar c = true) (t : Text) :
    (wordRule old new hold hnew).Replaces none t (replaceWord old new t) :=
  replaces_mapWords hold' (List.forall_mem_nil _) rfl t

end Words

/-- The steps of spelling follow the rules in their order. -/
theorem replacesAll_spellSteps (t : Text) : ReplacesAll rules t (spellSteps t) :=
  ⟨_, replaces_doubleSlashes none t, _, replaces_spellOperator rfl _, _,
    replaces_spellOperator rfl _, _, replaces_spellNegations _, _,
    replaces_replaceWord (by decide) _, _, replaces_replaceWord (by decide) _, rfl⟩

/-! ## No rule brings back the pattern of another -/

section Inert

variable {rule : Rule}

/-- Whether a neighbour is a certain sign does not change if neither text has the sign there. -/
theorem alike_ne {blanks : Bool} {old new : Option CodePoint} (hc : isBlank c = false)
    (hold : old ≠ some c) (hnew : new ≠ some c) : Rule.Alike (· != some c) blanks old new where
  text := (bne_iff_ne.2 hold).trans (bne_iff_ne.2 hnew).symm
  blank _ d hd := by
    have hne : some d ≠ some c := by
      rintro ⟨⟩
      simp [hd] at hc
    exact (bne_iff_ne.2 hne).trans (bne_iff_ne.2 hnew).symm

/-- The sign is not the first one of the new text if neither text has it at all. -/
theorem keepsFirst_ne (hc : isBlank c = false) (hold : c ∉ rule.pattern.text)
    (hnew : c ∉ rule.new) : rule.KeepsFirst (· != some c) :=
  alike_ne hc (fun h => hold (List.mem_of_head? h)) fun h => hnew (List.mem_of_head? h)

/-- A rule that has to do with no slash leaves none alone. -/
theorem inert_loneSlash (h : .char '/' ∉ rule.pattern.text ∧ .char '/' ∉ rule.new) :
    rule.Inert loneSlash := by
  refine .of_head (keepsFirst_ne rfl h.1 h.2) ?_ ?_ nofun
  · exact alike_ne rfl (fun hlast => h.1 (List.mem_of_getLast? hlast))
      fun hlast => h.2 (List.mem_of_getLast? hlast)
  rintro c hc ⟨⟩
  exact h.2 hc

/-- A rule that does not write a code point does not double it. -/
theorem inert_doubled (h : c ∉ rule.new) : rule.Inert (doubled c) := by
  refine .of_head ⟨rfl, fun _ _ _ => rfl⟩ ⟨rfl, fun _ _ _ => rfl⟩ ?_ ?_
  · rintro d hd ⟨⟩
    exact h hd
  · intro d hd hc
    obtain rfl := List.mem_singleton.1 hc
    exact h (List.mem_of_head? hd)

/-- A rule that has to do with neither sign makes no negation out of an unequal sign. -/
theorem inert_negation
    (h : .char '=' ∉ rule.pattern.text ∧ .char '=' ∉ rule.new ∧ .char '!' ∉ rule.new) :
    rule.Inert negation := by
  refine .of_head (keepsFirst_ne rfl h.1 h.2.1) ⟨rfl, fun _ _ _ => rfl⟩ ?_ nofun
  rintro c hc ⟨⟩
  exact h.2.2 hc

/-- A rule for words makes no other word, if the two cannot overlap. -/
theorem inert_wholeWord {old new word : Text} {hold : old ≠ []} {hnew : new ≠ []}
    {hword : word ≠ []} (hold' : ∀ c ∈ old, isWordChar c = true)
    (hnew' : ∀ c ∈ new, isWordChar c = true) (hhead : ∀ c ∈ new, word.head? ≠ some c)
    (htail : ∀ c ∈ new.head?, c ∉ word.tail) :
    (wordRule old new hold hnew).Inert (wholeWord word hword) := by
  refine .of_head ⟨?_, nofun⟩ ⟨?_, nofun⟩ hhead htail
  · simp [List.head?_eq_some_head, hold, hnew, hold', hnew']
  · simp [List.getLast?_eq_some_getLast, hold, hnew, hold', hnew']

/-- A slash that was doubled has the other one next to it. -/
theorem inert_slashRule : slashRule.Inert loneSlash where
  first := ⟨rfl, nofun⟩
  last := ⟨rfl, nofun⟩
  apart := nofun
  skip previous t h := by
    rw [show slashRule.new ++ t = .char '/' :: .char '/' :: t from rfl] at h
    rw [Pattern.occursAfter_cons, Pattern.occursAfter_cons] at h
    -- The pattern would start at one of the two slashes, or else behind them.
    rcases h with ⟨rest, hcons, -, hafter⟩ | ⟨rest, hcons, hbefore, -⟩ | h
    · obtain rfl := (List.cons.inj hcons).2
      simp at hafter
    · simp at hbefore
    · exact h

/-- Every rule removes its own pattern for good. -/
theorem rules_inert_self : ∀ rule ∈ rules, rule.Inert rule.pattern := by
  simp only [rules, binaryRules, List.cons_append, List.nil_append, List.forall_mem_cons]
  exact ⟨inert_slashRule, inert_doubled (by decide), inert_doubled (by decide),
    inert_negation (by decide), inert_wholeWord (by decide) (by decide) (by decide) (by decide),
    inert_wholeWord (by decide) (by decide) (by decide) (by decide), List.forall_mem_nil _⟩

/-- No rule brings back the pattern of a rule before it. -/
theorem rules_pairwise_inert :
    rules.Pairwise fun earlier later => later.Inert earlier.pattern := by
  simp only [rules, binaryRules, List.cons_append, List.nil_append, List.pairwise_cons]
  refine ⟨fun rule h => inert_loneSlash ?_, fun rule h => inert_doubled ?_,
    fun rule h => inert_doubled ?_, fun rule h => inert_negation ?_, fun rule h => ?_,
    List.forall_mem_nil _, .nil⟩
  case refine_5 =>
    obtain rfl := List.mem_singleton.1 h
    exact inert_wholeWord (by decide) (by decide) (by decide) (by decide)
  all_goals
    revert rule
    decide

end Inert

/-! ## Spelling -/

/-- After all steps there is nothing left to spell. -/
theorem spelled_spellSteps (t : Text) : Spelled (spellSteps t) :=
  (spelled_iff _).2
    ((replacesAll_spellSteps t).not_occurs rules_inert_self rules_pairwise_inert)

/-- The steps change a text exactly if there is something to spell in it. -/
theorem spellSteps_eq_self_iff (t : Text) : spellSteps t = t ↔ Spelled t := by
  constructor
  · intro h
    rw [← h]
    exact spelled_spellSteps t
  · intro h
    exact (replacesAll_spellSteps t).eq_of_not_occurs ((spelled_iff t).1 h)

/-- A quoted literal is left alone. -/
theorem spell_of_isLiteral (h : Text.isLiteral t = true) : spell t = t :=
  if_pos h

/-- Any other text goes through the steps. -/
theorem spell_of_not_isLiteral (h : Text.isLiteral t = false) : spell t = spellSteps t :=
  if_neg (by simp [h])

/-- Spelling a text twice is spelling it once, and what is spelled has nothing left to spell unless
it was a quoted literal. -/
theorem spell_idempotent_and_spelled (t : Text) :
    spell (spell t) = spell t ∧ (Text.isLiteral t = false → Spelled (spell t)) := by
  constructor
  · cases hliteral : Text.isLiteral t with
    | true => rw [spell_of_isLiteral hliteral, spell_of_isLiteral hliteral]
    | false =>
      rw [spell_of_not_isLiteral hliteral]
      -- The result of the first round may itself look like a literal.
      unfold spell
      split
      · rfl
      · exact (spellSteps_eq_self_iff _).2 (spelled_spellSteps t)
  · intro hliteral
    rw [spell_of_not_isLiteral hliteral]
    exact spelled_spellSteps t

/-- Operators that run into each other, touch a word or an unequal sign, or stand at the end. -/
theorem spell_idempotent_and_spelled_crowded :
    Text.isLiteral "!!=a&&&b/!/ c|||true&&!" = false ∧
      spell "!!=a&&&b/!/ c|||true&&!" = "not !=a and &b//not // c or |True and not " ∧
      Spelled (spell "!!=a&&&b/!/ c|||true&&!") :=
  ⟨by decide, by decide +kernel, (spell_idempotent_and_spelled _).2 (by decide)⟩

end BlockFlow.Python
