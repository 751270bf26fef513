import BlockFlow.Proofs.Text.Replacing
import BlockFlow.Source.Python.Expression
import Mathlib.Tactic.Simps.Basic

/-!
# Taking increments out of a text

A text with increments and decrements is a sequence of cuts: some text without steps, a whole name
and a step of it, and at the end some text without steps. Every text is such a sequence in exactly
one way, and splitting a text keeps all of it but the signs.
-/

namespace BlockFlow.Python

open Text (Pattern)

variable {c : CodePoint} {n p t u v : Text}

/-! ## Steps in a text -/

attribute [ext] Step

/-- The sign that is doubled in a step. -/
def sign (isIncrement : Bool) : CodePoint :=
  if isIncrement then .char '+' else .char '-'

/-- A step of a name. -/
@[simps]
def stepOfName (isIncrement : Bool) : Pattern where
  text := [sign isIncrement, sign isIncrement]
  before previous := previous.any isNameChar
  after _ := true
  text_ne_nil := List.cons_ne_nil _ _

/-- A text in which no name is incremented or decremented. -/
def StepFree (t : Text) : Prop :=
  ∀ isIncrement, ¬ (stepOfName isIncrement).Occurs t

/-- A sign is no part of a name. -/
theorem isNameChar_sign (isIncrement : Bool) : isNameChar (sign isIncrement) = false := by
  cases isIncrement <;> rfl

/-- The two signs are different. -/
theorem sign_injective : Function.Injective sign := by
  intro a b
  cases a <;> cases b <;> decide

/-- A name holds no signs. -/
theorem sign_not_mem (hn : ∀ c ∈ n, isNameChar c = true) (isIncrement : Bool) :
    sign isIncrement ∉ n := by
  intro h
  simpa [isNameChar_sign] using hn _ h

theorem stepFree_nil : StepFree [] := by
  intro isIncrement h
  exact Pattern.not_occursAfter_nil (Pattern.occurs_iff.1 h)

/-- Text without steps may be put after a name and one more code point, unless that code point and
the next one make a step. -/
theorem stepFree_append_cons (hn : ∀ c ∈ n, isNameChar c = true) (hc : isNameChar c = false)
    (hp : StepFree p) (hstep : n ≠ [] → ∀ isIncrement, c = sign isIncrement → p.head? ≠ some c) :
    StepFree (n ++ c :: p) := by
  intro isIncrement hoccurs
  rw [Pattern.occurs_iff] at hoccurs
  have hhead : ∀ d ∈ n, (stepOfName isIncrement).text.head? ≠ some d := by
    rintro d hd ⟨⟩
    exact sign_not_mem hn isIncrement hd
  rcases Pattern.occursAfter_cons.1 (hoccurs.of_append hhead) with hstarts | hoccurs
  · obtain ⟨rest, hcons, hbefore, -⟩ := hstarts
    obtain ⟨rfl, rfl⟩ := List.cons.inj hcons
    refine hstep ?_ isIncrement rfl rfl
    rintro rfl
    simp at hbefore
  · exact hp isIncrement (Pattern.occurs_iff.2 (hoccurs.congr (by simp [hc])))

/-- A name alone has no steps. -/
theorem stepFree_of_forall_isNameChar (hn : ∀ c ∈ n, isNameChar c = true) : StepFree n := by
  intro isIncrement hoccurs
  obtain ⟨left, right, rfl, -⟩ := hoccurs
  exact sign_not_mem hn isIncrement (by simp)

/-! ## Splittings -/

/-- A part of a text that ends with a step of a whole name. -/
@[ext]
structure Cut where
  before : Text
  step : Step
  before_free : StepFree before
  before_ends : before.getLast?.any isNameChar = false
  name_ne_nil : step.name ≠ []
  name_chars : ∀ c ∈ step.name, isNameChar c = true

/-- A text in cuts, and what follows the last of them. -/
@[ext]
structure Splitting where
  cuts : List Cut
  last : Text
  last_free : StepFree last

/-- What is left of a cut without its signs. -/
def Cut.rest (k : Cut) : Text :=
  k.before ++ k.step.name

/-- The text of a cut. -/
def Cut.source (k : Cut) : Text :=
  k.rest ++ [sign k.step.isIncrement, sign k.step.isIncrement]

namespace Splitting

/-- The text that is split. -/
def source (d : Splitting) : Text :=
  d.cuts.flatMap Cut.source ++ d.last

/-- The text without the signs of its steps. -/
def rest (d : Splitting) : Text :=
  d.cuts.flatMap Cut.rest ++ d.last

/-- The steps, in their order. -/
def steps (d : Splitting) : List Step :=
  d.cuts.map Cut.step

/-- Each step takes two signs out of the text. -/
theorem length_source (d : Splitting) : d.source.length = d.rest.length + 2 * d.steps.length := by
  obtain ⟨cuts, last, hlast⟩ := d
  induction cuts with
  | nil => simp [source, rest, steps]
  | cons k cuts ih =>
    simp only [source, rest, steps, Cut.source, List.flatMap_cons, List.map_cons,
      List.length_append, List.length_cons, List.length_nil] at ih ⊢
    omega

/-! ## Every text has a splitting -/

/-- A name and one more code point can be put in front. -/
theorem exists_prepend (d : Splitting) (hn : ∀ c ∈ n, isNameChar c = true)
    (hc : isNameChar c = false)
    (hstep : n ≠ [] → ∀ isIncrement, c = sign isIncrement → d.source.head? ≠ some c) :
    ∃ e : Splitting, e.source = n ++ c :: d.source ∧ e.rest = n ++ c :: d.rest ∧
      e.steps = d.steps := by
  -- The name is put in front of the last part, or of the first cut.
  obtain ⟨_ | ⟨k, cuts⟩, last, hlast⟩ := d
  · refine ⟨⟨[], n ++ c :: last, stepFree_append_cons hn hc hlast ?_⟩, rfl, rfl, rfl⟩
    simpa [source] using hstep
  · have hfree : StepFree (n ++ c :: k.before) := by
      refine stepFree_append_cons hn hc k.before_free fun hne isIncrement hsign hhead => ?_
      refine hstep hne isIncrement hsign ?_
      obtain ⟨before, hbefore⟩ := List.head?_eq_some_iff.1 hhead
      simp [source, Cut.source, Cut.rest, hbefore]
    have hends : (n ++ c :: k.before).getLast?.any isNameChar = false := by
      have hbefore := k.before_ends
      rw [List.getLast?_append, List.getLast?_cons]
      cases hlast : k.before.getLast? <;> simp_all
    refine ⟨⟨⟨_, k.step, hfree, hends, k.name_ne_nil, k.name_chars⟩ :: cuts, last, hlast⟩,
      ?_, ?_, ?_⟩
    · simp [source, Cut.source, Cut.rest]
    · simp [rest, Cut.rest]
    · simp [steps]

end Splitting

/-- The invariant of the loop: the name read so far is still to be written. -/
theorem exists_splitting {name : Text} (hname : ∀ c ∈ name, isNameChar c = true) (t : Text) :
    ∃ d : Splitting, d.source = name.reverse ++ t ∧ splitSteps name t = (d.rest, d.steps) := by
  have hreverse {name : Text} (hname : ∀ c ∈ name, isNameChar c = true) :
      ∀ c ∈ name.reverse, isNameChar c = true := by simpa using hname
  fun_induction splitSteps name t with
  -- The text ends while a name is read, or with one more character.
  | case1 name =>
    exact ⟨⟨[], name.reverse, stepFree_of_forall_isNameChar (hreverse hname)⟩,
      by simp [Splitting.source], rfl⟩
  | case2 name c hc =>
    have hnames : ∀ d ∈ c :: name, isNameChar d = true := List.forall_mem_cons.2 ⟨hc, hname⟩
    exact ⟨⟨[], (c :: name).reverse, stepFree_of_forall_isNameChar (hreverse hnames)⟩,
      by simp [Splitting.source], rfl⟩
  | case3 name c hc =>
    rw [Bool.not_eq_true] at hc
    exact ⟨⟨[], name.reverse ++ [c],
      stepFree_append_cons (hreverse hname) hc stepFree_nil (by simp)⟩, rfl, rfl⟩
  | case4 name c d rest hc ih => simpa using ih (List.forall_mem_cons.2 ⟨hc, hname⟩)
  -- Two signs after a name are a step, which ends a cut.
  | case5 name c d rest hc hstep split ih =>
    simp only [Bool.and_eq_true, Bool.or_eq_true, Bool.not_eq_true', beq_iff_eq,
      List.isEmpty_eq_false_iff] at hstep
    obtain ⟨⟨hne, rfl⟩, hsign⟩ := hstep
    obtain ⟨e, hsource, hsplit⟩ := ih (List.forall_mem_nil _)
    have hc : sign (c == .char '+') = c := by rcases hsign with rfl | rfl <;> rfl
    refine ⟨⟨⟨[], ⟨name.reverse, c == .char '+'⟩, stepFree_nil, rfl, by simpa using hne,
      hreverse hname⟩ :: e.cuts, e.last, e.last_free⟩, ?_, ?_⟩
    · simpa [Splitting.source, Cut.source, Cut.rest, hc] using hsource
    · simp [split, hsplit, Splitting.rest, Splitting.steps, Cut.rest]
  -- Any other character ends the name and goes in front of the next part.
  | case6 name c d rest hc hstep split ih =>
    rw [Bool.not_eq_true] at hc
    obtain ⟨e, hsource, hsplit⟩ := ih (List.forall_mem_nil _)
    have hnone : name.reverse ≠ [] → ∀ isIncrement, c = sign isIncrement →
        e.source.head? ≠ some c := by
      rintro hne isIncrement hsign hhead
      obtain rfl : d = c := by simpa [hsource] using hhead
      refine hstep ?_
      have hname : name ≠ [] := List.reverse_ne_nil_iff.1 hne
      cases isIncrement <;> simp [hsign, sign, hname]
    obtain ⟨e', hsource', hrest, hsteps⟩ := e.exists_prepend (hreverse hname) hc hnone
    exact ⟨e', by rw [hsource', hsource, List.reverse_nil, List.nil_append],
      by simp [split, hsplit, hrest, hsteps]⟩

/-! ## No text has two splittings -/

/-- Without its signs a cut ends with its name. -/
theorem Cut.rest_getLast? (k : Cut) : ∃ c, k.rest.getLast? = some c ∧ isNameChar c = true := by
  refine ⟨k.step.name.getLast k.name_ne_nil, ?_, k.name_chars _ (List.getLast_mem _)⟩
  rw [Cut.rest, List.getLast?_append_of_ne_nil _ k.name_ne_nil,
    List.getLast?_eq_some_getLast k.name_ne_nil]

/-- A text that starts with a cut has a step. -/
theorem Cut.not_stepFree (k : Cut) (u : Text) : ¬ StepFree (k.source ++ u) := by
  intro hfree
  obtain ⟨c, hlast, hc⟩ := k.rest_getLast?
  exact hfree k.step.isIncrement ⟨k.rest, u, rfl, by simp [hlast, hc], rfl⟩

/-- A name cannot be made longer by what comes before it. -/
theorem eq_nil_of_ends (hends : (p ++ u).getLast?.any isNameChar = false)
    (hchars : ∀ c ∈ u, isNameChar c = true) : u = [] := by
  rcases List.eq_nil_or_concat u with rfl | ⟨u, c, rfl⟩
  · rfl
  · simp [hchars c (by simp)] at hends

/-- The name of a cut is as long as it can be, so what is left tells the name from what is
before. -/
theorem Cut.eq_of_rest_eq {k l : Cut} (h : k.rest = l.rest) :
    k.before = l.before ∧ k.step.name = l.step.name := by
  -- Whichever name were longer, it would reach into what is before the other.
  rcases List.append_eq_append_iff.1 h with ⟨u, hbefore, hname⟩ | ⟨u, hbefore, hname⟩
  · obtain rfl : u = [] := eq_nil_of_ends (hbefore ▸ l.before_ends)
      fun c hc => k.name_chars c (hname ▸ List.mem_append_left _ hc)
    exact ⟨by simpa using hbefore.symm, by simpa using hname⟩
  · obtain rfl : u = [] := eq_nil_of_ends (hbefore ▸ k.before_ends)
      fun c hc => l.name_chars c (hname ▸ List.mem_append_left _ hc)
    exact ⟨by simpa using hbefore, by simpa using hname.symm⟩

/-- A cut ends at the first step there is. -/
theorem Cut.eq_nil_of_rest_eq_append {k l : Cut} (hrest : l.rest = k.rest ++ v)
    (h : [sign k.step.isIncrement, sign k.step.isIncrement] ++ t = v ++ u) : v = [] := by
  match v, h with
  | [], _ => rfl
  | [a], h =>
    -- The longer cut would end in a sign.
    obtain ⟨rfl, -⟩ := List.cons.inj h
    obtain ⟨c, hlast, hc⟩ := l.rest_getLast?
    obtain rfl : sign k.step.isIncrement = c := by simpa [hrest] using hlast
    simp [isNameChar_sign] at hc
  | a :: b :: v, h =>
    -- The signs of the shorter cut stand in the longer one, before its name.
    obtain ⟨rfl, htail⟩ := List.cons.inj h
    obtain ⟨rfl, -⟩ := List.cons.inj htail
    have hsource : l.before ++ l.step.name = k.source ++ v := by
      simpa [Cut.source, Cut.rest] using hrest
    rcases List.append_eq_append_iff.1 hsource with ⟨w, hbefore, hname⟩ | ⟨w, hbefore, -⟩
    · rcases List.eq_nil_or_concat w with rfl | ⟨w, c, rfl⟩
      · exact absurd l.before_free (by simpa [hbefore] using k.not_stepFree [])
      · obtain rfl : sign k.step.isIncrement = c := by
          simpa [Cut.source] using congrArg List.getLast? hbefore
        exact absurd (by simp [hname]) (sign_not_mem l.name_chars k.step.isIncrement)
    · exact absurd l.before_free (hbefore ▸ k.not_stepFree w)

/-- Two cuts of one text are the same, and so is what follows them. -/
theorem Cut.eq_of_source_append_eq {k l : Cut} (h : k.source ++ t = l.source ++ u) :
    k = l ∧ t = u := by
  simp only [Cut.source, List.append_assoc] at h
  obtain ⟨hrest, hsigns⟩ : k.rest = l.rest ∧
      [sign k.step.isIncrement, sign k.step.isIncrement] ++ t =
        [sign l.step.isIncrement, sign l.step.isIncrement] ++ u := by
    -- One of the two is at most as long as the other, and the longer one holds nothing more.
    rcases List.append_eq_append_iff.1 h with ⟨v, hrest, hv⟩ | ⟨v, hrest, hv⟩
    · obtain rfl := Cut.eq_nil_of_rest_eq_append hrest hv
      exact ⟨by simpa using hrest.symm, hv⟩
    · obtain rfl := Cut.eq_nil_of_rest_eq_append hrest hv
      exact ⟨by simpa using hrest, hv.symm⟩
  obtain ⟨hsign, htail⟩ := List.cons.inj hsigns
  obtain ⟨hbefore, hname⟩ := Cut.eq_of_rest_eq hrest
  exact ⟨Cut.ext hbefore (Step.ext hname (sign_injective hsign)), List.cons.inj htail |>.2⟩

/-- A text has one splitting at most. -/
theorem Splitting.source_injective : Function.Injective Splitting.source := by
  rintro ⟨cuts, last, hlast⟩ ⟨cuts', last', hlast'⟩ h
  -- A splitting without cuts has no steps, so the other one has none either.
  induction cuts generalizing cuts' with
  | nil =>
    cases cuts' with
    | nil =>
      obtain rfl : last = last' := h
      rfl
    | cons l cuts' =>
      obtain rfl : last = l.source ++ (cuts'.flatMap Cut.source ++ last') := by
        simpa [Splitting.source] using h
      exact absurd hlast (l.not_stepFree _)
  | cons k cuts ih =>
    cases cuts' with
    | nil =>
      obtain rfl : k.source ++ (cuts.flatMap Cut.source ++ last) = last' := by
        simpa [Splitting.source] using h
      exact absurd hlast' (k.not_stepFree _)
    | cons l cuts' =>
      have hparts : k.source ++ (cuts.flatMap Cut.source ++ last) =
          l.source ++ (cuts'.flatMap Cut.source ++ last') := by
        simpa [Splitting.source] using h
      obtain ⟨rfl, htail⟩ := Cut.eq_of_source_append_eq hparts
      obtain ⟨rfl, rfl⟩ := Splitting.mk.inj (ih cuts' htail)
      rfl

/-- A text is split in the only way it can be: what is left is the text without the signs of its
steps, and the steps come in their order. -/
theorem splitIncrements_eq_splitting (t : Text) :
    ∃ d : Splitting, (∀ e : Splitting, e.source = t ↔ e = d) ∧
      splitIncrements t = (d.rest, d.steps.map Step.statement) ∧
      t.length = (splitIncrements t).1.length + 2 * (splitIncrements t).2.length := by
  obtain ⟨d, hsource, hsplit⟩ := exists_splitting (List.forall_mem_nil _) t
  have hresult : splitIncrements t = (d.rest, d.steps.map Step.statement) := by
    rw [splitIncrements, hsplit]
  refine ⟨d, fun e => ⟨fun he => ?_, ?_⟩, hresult, ?_⟩
  · exact Splitting.source_injective (he.trans hsource.symm)
  · rintro rfl
    exact hsource
  · rw [hresult, List.length_map, ← d.length_source, hsource]
    rfl

end BlockFlow.Python
