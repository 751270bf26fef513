import BlockFlow.Text.Blank
import Mathlib.Data.List.Basic

/-!
# Replacing a pattern in a text

A pattern is a text together with what may stand directly before and after it. A rule replaces its
pattern wherever it stands, and the blanks around it if the rule says so, by a new text. `Replaces`
states this without saying how the places are found.

A text without the pattern stays as it is. What stands in the result and cannot touch the new text
stood in the old text at a place that the rule left alone (`Replaces.exists_kept`). Hence a sequence
of rules that cannot bring back each other's patterns ends in a text without any of them
(`ReplacesAll.not_occurs`).
-/

namespace BlockFlow.Text

/-- A code point comes before what follows it. -/
theorem getLast?_cons_or (c : CodePoint) (t : Text) (previous : Option CodePoint) :
    (c :: t).getLast?.or previous = t.getLast?.or (some c) := by
  cases ht : t.getLast? <;> simp [List.getLast?_cons, ht]

/-- What comes before a text comes after the one in front of it. -/
theorem getLast?_append_or (s t : Text) (previous : Option CodePoint) :
    (s ++ t).getLast?.or previous = t.getLast?.or (s.getLast?.or previous) := by
  rw [List.getLast?_append, Option.or_assoc]

/-- A text that is not empty hides what is in front of it. -/
theorem getLast?_or_of_ne_nil {t : Text} (ht : t ≠ []) (previous : Option CodePoint) :
    t.getLast?.or previous = t.getLast? := by
  rw [List.getLast?_eq_some_getLast ht, Option.some_or]

/-! ## Patterns -/

/-- A text to look for, and what may stand directly before and after it. Nothing stands there at
the ends of a text. -/
structure Pattern where
  text : Text
  before : Option CodePoint → Bool
  after : Option CodePoint → Bool
  text_ne_nil : text ≠ []

namespace Pattern

variable {p : Pattern} {previous previous' : Option CodePoint} {c : CodePoint} {s t : Text}

/-- The pattern stands somewhere in a text. -/
def Occurs (p : Pattern) (t : Text) : Prop :=
  ∃ left right, t = left ++ p.text ++ right ∧
    p.before left.getLast? = true ∧ p.after right.head? = true

/-- The pattern stands at the start of a text that comes after `previous`. -/
def Starts (p : Pattern) (previous : Option CodePoint) (t : Text) : Prop :=
  ∃ rest, t = p.text ++ rest ∧ p.before previous = true ∧ p.after rest.head? = true

/-- The pattern stands somewhere in a text that comes after `previous`. -/
def OccursAfter (p : Pattern) (previous : Option CodePoint) (t : Text) : Prop :=
  ∃ left right, t = left ++ right ∧ p.Starts (left.getLast?.or previous) right

/-- At the start of a text nothing comes before. -/
theorem occurs_iff : p.Occurs t ↔ p.OccursAfter none t := by
  constructor
  · rintro ⟨left, right, rfl, hbefore, hafter⟩
    exact ⟨left, p.text ++ right, List.append_assoc .., right, rfl, by simpa using hbefore, hafter⟩
  · rintro ⟨left, _, rfl, rest, rfl, hbefore, hafter⟩
    exact ⟨left, rest, (List.append_assoc ..).symm, by simpa using hbefore, hafter⟩

/-- A text starts like the pattern that it starts with. -/
theorem Starts.head? (h : p.Starts previous t) : t.head? = p.text.head? := by
  obtain ⟨rest, rfl, -⟩ := h
  exact List.head?_append_of_ne_nil _ p.text_ne_nil

/-- A pattern is not empty. -/
theorem not_occursAfter_nil : ¬ p.OccursAfter previous [] := by
  rintro ⟨left, right, h, rest, rfl, -⟩
  simp [p.text_ne_nil] at h

/-- A pattern stands at the start of a text or further on. -/
theorem occursAfter_cons :
    p.OccursAfter previous (c :: t) ↔ p.Starts previous (c :: t) ∨ p.OccursAfter (some c) t := by
  constructor
  · rintro ⟨_ | ⟨d, left⟩, right, h, hstarts⟩
    · exact .inl (by simpa [h] using hstarts)
    · obtain ⟨rfl, rfl⟩ := List.cons.inj h
      exact .inr ⟨left, right, rfl, by rwa [getLast?_cons_or] at hstarts⟩
  · rintro (hstarts | ⟨left, right, rfl, hstarts⟩)
    · exact ⟨[], c :: t, rfl, by simpa using hstarts⟩
    · exact ⟨c :: left, right, rfl, by rwa [getLast?_cons_or]⟩

/-- A pattern does not start inside a text that its first code point is not in. -/
theorem OccursAfter.of_append (hs : ∀ c ∈ s, p.text.head? ≠ some c)
    (h : p.OccursAfter previous (s ++ t)) : p.OccursAfter (s.getLast?.or previous) t := by
  induction s generalizing previous with
  | nil => simpa using h
  | cons c s ih =>
    rw [List.forall_mem_cons] at hs
    rw [List.cons_append, occursAfter_cons] at h
    rcases h with hstarts | h
    · exact absurd hstarts.head?.symm hs.1
    · rw [getLast?_cons_or]
      exact ih hs.2 h

/-- Only what the pattern asks of the code point before it counts. -/
theorem OccursAfter.congr (hprevious : p.before previous = p.before previous')
    (h : p.OccursAfter previous t) : p.OccursAfter previous' t := by
  obtain ⟨left, right, rfl, hstarts⟩ := h
  refine ⟨left, right, rfl, ?_⟩
  cases hlast : left.getLast? with
  | none =>
    obtain ⟨rest, hrest, hbefore, hafter⟩ := hstarts
    exact ⟨rest, hrest, by simpa [hlast, hprevious] using hbefore, hafter⟩
  | some d => simpa [hlast] using hstarts

end Pattern

/-! ## Rules -/

/-- A pattern, whether blanks before and after it go with it, and what they are replaced by. -/
structure Rule where
  pattern : Pattern
  leading : Bool
  trailing : Bool
  new : Text
  new_ne_nil : new ≠ []

/-- Blanks that go with a pattern; there are none unless that is allowed. -/
def Margin (allowed : Bool) (t : Text) : Prop :=
  ∀ c ∈ t, allowed = true ∧ isBlank c = true

theorem margin_nil (allowed : Bool) : Margin allowed [] :=
  nofun

namespace Rule

/-- A text that comes after `previous`, before and after replacing. What is kept is no start of the
pattern; whether the pattern stands at a place is seen in the text before replacing. -/
inductive Replaces (rule : Rule) : Option CodePoint → Text → Text → Prop
  | nil {previous : Option CodePoint} : Replaces rule previous [] []
  | keep {previous : Option CodePoint} {c : CodePoint} {t t' : Text}
      (hkept : ¬ rule.pattern.Starts previous (c :: t)) (h : Replaces rule (some c) t t') :
      Replaces rule previous (c :: t) (c :: t')
  | replace {previous : Option CodePoint} {left right t t' : Text}
      (hleft : Margin rule.leading left) (hright : Margin rule.trailing right)
      (hstarts : rule.pattern.Starts (left.getLast?.or previous) (rule.pattern.text ++ right ++ t))
      (h : Replaces rule ((left ++ rule.pattern.text ++ right).getLast?.or previous) t t') :
      Replaces rule previous (left ++ rule.pattern.text ++ right ++ t) (rule.new ++ t')

variable {rule : Rule} {q : Pattern} {previous previous' : Option CodePoint} {c : CodePoint}
  {left right t t' : Text} {P : Option CodePoint → Bool}

/-- A text in which the pattern does not stand stays as it is. -/
theorem Replaces.eq_of_not_occursAfter (h : rule.Replaces previous t t')
    (hfree : ¬ rule.pattern.OccursAfter previous t) : t' = t := by
  induction h with
  | nil => rfl
  | keep _ _ ih => rw [ih fun hoccurs => hfree (Pattern.occursAfter_cons.2 (.inr hoccurs))]
  | @replace _ left _ _ _ _ _ hstarts _ _ =>
    exact absurd ⟨left, _, by simp only [List.append_assoc], hstarts⟩ hfree

/-- Replacing brings in nothing but the new text. -/
theorem Replaces.mem (h : rule.Replaces previous t t') (hc : c ∈ t') : c ∈ t ∨ c ∈ rule.new := by
  induction h with
  | nil => exact .inl hc
  | keep _ _ ih =>
    rcases List.mem_cons.1 hc with rfl | hc
    · exact .inl List.mem_cons_self
    · exact (ih hc).imp_left (List.mem_cons_of_mem _)
  | replace _ _ _ _ ih =>
    rcases List.mem_append.1 hc with hnew | hc
    · exact .inr hnew
    · exact (ih hc).imp_left (List.mem_append_right _)

/-! ### The ends of a text -/

/-- A property that is the same of the code points at one end of an old and of a new text, also if
blanks go with the old one. -/
structure Alike (P : Option CodePoint → Bool) (blanks : Bool) (old new : Option CodePoint) :
    Prop where
  text : P old = P new
  blank : blanks = true → ∀ c, isBlank c = true → P (some c) = P new

/-- A property of the first code point that the new text shares with all that it can replace. -/
def KeepsFirst (rule : Rule) (P : Option CodePoint → Bool) : Prop :=
  Alike P rule.leading rule.pattern.text.head? rule.new.head?

/-- A property of the last code point that the new text shares with all that it can replace. -/
def KeepsLast (rule : Rule) (P : Option CodePoint → Bool) : Prop :=
  Alike P rule.trailing rule.pattern.text.getLast? rule.new.getLast?

/-- The new text starts alike, whatever blanks went with the old one. -/
theorem KeepsFirst.head?_eq (hP : rule.KeepsFirst P) (hleft : Margin rule.leading left) (t : Text) :
    P (left ++ rule.pattern.text ++ t).head? = P rule.new.head? := by
  -- A text without blanks in front starts like the pattern, and any other one with a blank.
  cases left with
  | nil =>
    rw [List.nil_append, List.head?_append_of_ne_nil _ rule.pattern.text_ne_nil]
    exact hP.text
  | cons c left =>
    obtain ⟨hleading, hblank⟩ := hleft c List.mem_cons_self
    exact hP.blank hleading c hblank

/-- The new text ends alike, whatever blanks went with the old one. -/
theorem KeepsLast.getLast?_eq (hP : rule.KeepsLast P) (hright : Margin rule.trailing right)
    (left : Text) : P (left ++ rule.pattern.text ++ right).getLast? = P rule.new.getLast? := by
  rcases List.eq_nil_or_concat right with rfl | ⟨right, c, rfl⟩
  · rw [List.append_nil, List.getLast?_append, getLast?_or_of_ne_nil rule.pattern.text_ne_nil]
    exact hP.text
  · obtain ⟨htrailing, hblank⟩ := hright c (by simp)
    simpa using hP.blank htrailing c hblank

/-- A text after replacing starts alike. -/
theorem Replaces.head?_eq (h : rule.Replaces previous t t') (hP : rule.KeepsFirst P) :
    P t'.head? = P t.head? := by
  cases h with
  | nil => rfl
  | keep => rfl
  | replace hleft =>
    rw [List.head?_append_of_ne_nil _ rule.new_ne_nil, List.append_assoc, hP.head?_eq hleft]

/-- A text after replacing ends alike, if what came before was alike. -/
theorem Replaces.getLast?_eq (h : rule.Replaces previous t t') (hP : rule.KeepsLast P)
    (hprevious : P previous' = P previous) :
    P (t'.getLast?.or previous') = P (t.getLast?.or previous) := by
  induction h generalizing previous' with
  | nil => simpa using hprevious
  | keep _ _ ih =>
    rw [getLast?_cons_or, getLast?_cons_or]
    exact ih rfl
  | @replace previous left right t t' _ hright _ _ ih =>
    have hold : left ++ rule.pattern.text ++ right ≠ [] := by simp [rule.pattern.text_ne_nil]
    rw [getLast?_append_or rule.new, getLast?_append_or (left ++ rule.pattern.text ++ right)]
    apply ih
    rw [getLast?_or_of_ne_nil rule.new_ne_nil, getLast?_or_of_ne_nil hold,
      hP.getLast?_eq hright left]

/-! ### What a rule cannot bring about -/

/-- A pattern that cannot touch the new text of a rule: it does not start inside it, does not run
into it, and cannot tell its ends from the ends of what it replaces. -/
structure Inert (rule : Rule) (q : Pattern) : Prop where
  first : rule.KeepsFirst q.after
  last : rule.KeepsLast q.before
  apart : ∀ c ∈ rule.new.head?, c ∉ q.text.tail
  skip : ∀ previous t, q.OccursAfter previous (rule.new ++ t) →
    q.OccursAfter rule.new.getLast? t

/-- It is enough that the first code point of the pattern is not in the new text, and the first of
the new text not among the later ones of the pattern. -/
theorem Inert.of_head (hfirst : rule.KeepsFirst q.after) (hlast : rule.KeepsLast q.before)
    (hhead : ∀ c ∈ rule.new, q.text.head? ≠ some c)
    (htail : ∀ c ∈ rule.new.head?, c ∉ q.text.tail) : rule.Inert q where
  first := hfirst
  last := hlast
  apart := htail
  skip previous t h := by
    rw [← getLast?_or_of_ne_nil rule.new_ne_nil previous]
    exact h.of_append hhead

/-- Code points that no new text begins with are kept ones. -/
theorem Replaces.of_append {s u' : Text} (h : rule.Replaces previous t (s ++ u'))
    (hs : ∀ c ∈ rule.new.head?, c ∉ s) :
    ∃ previous u, t = s ++ u ∧ rule.Replaces previous u u' := by
  induction s generalizing previous t with
  | nil => exact ⟨previous, t, rfl, h⟩
  | cons d s ih =>
    generalize ht' : d :: s ++ u' = t' at h
    cases h with
    | nil => simp at ht'
    | keep _ h =>
      obtain ⟨rfl, rfl⟩ := List.cons.inj ht'
      obtain ⟨previous, u, rfl, hu⟩ := ih h fun c hc hmem => hs c hc (List.mem_cons_of_mem _ hmem)
      exact ⟨previous, u, rfl, hu⟩
    | replace =>
      refine absurd List.mem_cons_self (hs d ?_)
      have hhead := congrArg List.head? ht'
      rw [List.head?_append_of_ne_nil _ rule.new_ne_nil] at hhead
      exact hhead.symm

/-- A pattern that starts at a kept code point started there before. -/
theorem Inert.starts (hq : rule.Inert q) (h : rule.Replaces (some c) t t')
    (hprevious : q.before previous' = q.before previous)
    (hstarts : q.Starts previous' (c :: t')) : q.Starts previous (c :: t) := by
  obtain ⟨rest', ht', hbefore, hafter⟩ := hstarts
  obtain ⟨d, s, htext⟩ := List.exists_cons_of_ne_nil q.text_ne_nil
  rw [htext] at ht'
  obtain ⟨rfl, rfl⟩ := List.cons.inj ht'
  obtain ⟨_, rest, rfl, hrest⟩ := h.of_append (by simpa [htext] using hq.apart)
  exact ⟨rest, by simp [htext], hprevious ▸ hbefore, by rwa [← hrest.head?_eq hq.first]⟩

/-- What stands in the result stood in the old text, at a place where the rule's own pattern did
not start. -/
theorem Replaces.exists_kept (h : rule.Replaces previous t t') (hq : rule.Inert q)
    (hprevious : q.before previous' = q.before previous) (hoccurs : q.OccursAfter previous' t') :
    ∃ left right, t = left ++ right ∧ q.Starts (left.getLast?.or previous) right ∧
      ¬ rule.pattern.Starts (left.getLast?.or previous) right := by
  induction h generalizing previous' with
  | nil => exact absurd hoccurs Pattern.not_occursAfter_nil
  | keep hkept h ih =>
    -- The pattern starts at the code point that is kept, or further on.
    rcases Pattern.occursAfter_cons.1 hoccurs with hstarts | hoccurs
    · exact ⟨[], _, rfl, by simpa using hq.starts h hprevious hstarts, by simpa using hkept⟩
    · obtain ⟨left, right, rfl, hstarts, hfree⟩ := ih rfl hoccurs
      exact ⟨_ :: left, right, rfl, by rwa [getLast?_cons_or], by rwa [getLast?_cons_or]⟩
  | @replace previous left right t t' _ hright _ _ ih =>
    -- What comes after the new text cannot tell it from the old one.
    have hold : left ++ rule.pattern.text ++ right ≠ [] := by simp [rule.pattern.text_ne_nil]
    have hends : q.before rule.new.getLast? =
        q.before ((left ++ rule.pattern.text ++ right).getLast?.or previous) := by
      rw [getLast?_or_of_ne_nil hold, hq.last.getLast?_eq hright left]
    obtain ⟨l, r, rfl, hstarts, hfree⟩ := ih hends (hq.skip _ _ hoccurs)
    exact ⟨_ ++ l, r, (List.append_assoc ..).symm, by rwa [getLast?_append_or],
      by rwa [getLast?_append_or]⟩

/-- An inert rule does not bring in the pattern. -/
theorem Replaces.occurs_of_occurs (h : rule.Replaces none t t') (hq : rule.Inert q)
    (hoccurs : q.Occurs t') : q.Occurs t := by
  rw [Pattern.occurs_iff] at hoccurs ⊢
  obtain ⟨left, right, ht, hstarts, -⟩ := h.exists_kept hq rfl hoccurs
  exact ⟨left, right, ht, hstarts⟩

/-- Every place where the pattern stood has been replaced. -/
theorem Replaces.not_occurs (h : rule.Replaces none t t') (hrule : rule.Inert rule.pattern) :
    ¬ rule.pattern.Occurs t' := by
  intro hoccurs
  obtain ⟨left, right, -, hstarts, hfree⟩ :=
    h.exists_kept hrule rfl (Pattern.occurs_iff.1 hoccurs)
  exact hfree hstarts

end Rule

/-! ## Sequences of rules -/

/-- A text before and after replacing by one rule after another. -/
def ReplacesAll : List Rule → Text → Text → Prop
  | [], t, t' => t' = t
  | rule :: rules, t, t' => ∃ u, rule.Replaces none t u ∧ ReplacesAll rules u t'

namespace ReplacesAll

variable {rules : List Rule} {q : Pattern} {t t' : Text} {P : Option CodePoint → Bool}

/-- A text in which no pattern occurs stays as it is. -/
theorem eq_of_not_occurs (h : ReplacesAll rules t t')
    (hfree : ∀ rule ∈ rules, ¬ rule.pattern.Occurs t) : t' = t := by
  induction rules generalizing t with
  | nil => exact h
  | cons rule rules ih =>
    obtain ⟨u, hu, h⟩ := h
    rw [List.forall_mem_cons] at hfree
    obtain rfl := hu.eq_of_not_occursAfter fun hoccurs => hfree.1 (Pattern.occurs_iff.2 hoccurs)
    exact ih h hfree.2

/-- What each rule carries from its result back to its text, the sequence carries back as well. -/
theorem pull_back {motive : Text → Prop} (h : ReplacesAll rules t t')
    (hback : ∀ rule ∈ rules, ∀ {t u}, rule.Replaces none t u → motive u → motive t)
    (ht' : motive t') : motive t := by
  induction rules generalizing t with
  | nil => rwa [← show t' = t from h]
  | cons rule rules ih =>
    obtain ⟨u, hu, h⟩ := h
    rw [List.forall_mem_cons] at hback
    exact hback.1 hu (ih h hback.2)

/-- A sequence of inert rules does not bring in the pattern. -/
theorem occurs_of_occurs (h : ReplacesAll rules t t') (hq : ∀ rule ∈ rules, rule.Inert q)
    (hoccurs : q.Occurs t') : q.Occurs t :=
  h.pull_back (fun rule hrule _ _ hu => hu.occurs_of_occurs (hq rule hrule)) hoccurs

/-- No pattern is left if each rule removes its own and brings back none of those before it. -/
theorem not_occurs (h : ReplacesAll rules t t') (hself : ∀ rule ∈ rules, rule.Inert rule.pattern)
    (hlater : rules.Pairwise fun earlier later => later.Inert earlier.pattern) :
    ∀ rule ∈ rules, ¬ rule.pattern.Occurs t' := by
  induction rules generalizing t with
  | nil => exact nofun
  | cons rule rules ih =>
    obtain ⟨u, hu, h⟩ := h
    rw [List.forall_mem_cons] at hself ⊢
    rw [List.pairwise_cons] at hlater
    refine ⟨fun hoccurs => ?_, ih h hself.2 hlater.2⟩
    exact hu.not_occurs hself.1 (h.occurs_of_occurs hlater.1 hoccurs)

/-- After a sequence of rules a text starts alike. -/
theorem head?_eq (h : ReplacesAll rules t t') (hP : ∀ rule ∈ rules, rule.KeepsFirst P) :
    P t'.head? = P t.head? := by
  refine h.pull_back (motive := fun u => P t'.head? = P u.head?)
    (fun rule hrule _ _ hu heq => ?_) rfl
  rw [heq, hu.head?_eq (hP rule hrule)]

/-- After a sequence of rules a text ends alike. -/
theorem getLast?_eq (h : ReplacesAll rules t t') (hP : ∀ rule ∈ rules, rule.KeepsLast P) :
    P t'.getLast? = P t.getLast? := by
  refine h.pull_back (motive := fun u => P t'.getLast? = P u.getLast?)
    (fun rule hrule _ _ hu heq => ?_) rfl
  rw [heq]
  simpa using hu.getLast?_eq (hP rule hrule) (rfl : P none = P none)

/-- A sequence of rules brings in nothing but the new texts. -/
theorem mem {c : CodePoint} (h : ReplacesAll rules t t') (hc : c ∈ t')
    (hnew : ∀ rule ∈ rules, c ∉ rule.new) : c ∈ t :=
  h.pull_back (fun rule hrule _ _ hu hc => (hu.mem hc).resolve_right (hnew rule hrule)) hc

end ReplacesAll

end BlockFlow.Text
