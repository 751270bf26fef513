import BlockFlow.Proofs.Diagram.Assembly
import BlockFlow.Proofs.Program.Places
import BlockFlow.Proofs.Source.Blocks
import Mathlib.Data.List.Nodup

/-!
# Declaring a name once in a block

Whether a variable is declared twice between one pair of braces. A list of statements never declares
a name twice, wherever it stands and however variables are scoped
(`MarkedUnit.nodup_declaredNames`). The sections of a switch are lists of their own, but only some
dialects put braces around each of them. Where they share the braces of the switch, and every
section has a scope of its own, a name that two sections introduce is declared in both, unless it
was in scope before the switch (`MarkedUnit.nodup_blocks_iff`).
-/

namespace BlockFlow

namespace Statement

variable {δ : Type}

/-! ## Statements of units -/

/-- Filling a list in some layers down keeps its statements. -/
theorem walkAll_subset_fillAll (path : List (Layer δ)) (ss : List (Statement δ)) :
    walkAll ss ⊆ walkAll (fillAll path ss) := by
  induction path with
  | nil => exact List.Subset.refl _
  | cons layer path ih =>
    have hfill : walkAll (fillAll path ss) ⊆ nested (layer.frame.fill (fillAll path ss)) := by
      cases layer.frame <;> simp [Frame.fill, nested, walkCases_eq_flatMap]
    intro t ht
    simp only [fillAll, walkAll_append, walkAll, List.mem_append, List.mem_cons]
    exact Or.inr (Or.inl (Or.inr (hfill (ih ht))))

/-- What is nested in a statement that stands in a list stands in the list as well. -/
theorem nested_subset_walkAll {t : Statement δ} {ss : List (Statement δ)} (h : t ∈ walkAll ss) :
    nested t ⊆ walkAll ss := by
  obtain ⟨path, before, after, rfl⟩ := standsIn_of_mem_walkAll t ss h
  refine List.Subset.trans ?_ (walkAll_subset_fillAll path _)
  intro s hs
  simp [walkAll, hs]

/-- The blocks of a statement consist of statements nested in it. -/
theorem walkAll_subset_nested {s : Statement δ} {body : List (Statement δ)} (h : body ∈ s.blocks) :
    walkAll body ⊆ nested s := by
  cases s with
  | switch subject cases otherwise id =>
    rw [nested, walkCases_eq_flatMap]
    -- The block is that of a case or the default.
    rcases List.mem_append.mp h with h | h
    · obtain ⟨case, hcase, rfl⟩ := List.mem_map.mp h
      intro t ht
      exact List.mem_append_left _ (List.mem_flatMap.mpr ⟨case, hcase, ht⟩)
    · rw [List.mem_singleton.mp h]
      exact List.subset_append_right _ _
  | ifElse condition whenTrue orElse id =>
    rcases List.mem_pair.mp h with rfl | rfl
    · exact List.subset_append_left _ _
    · exact List.subset_append_right _ _
  | forRange var bound loop id => rw [List.mem_singleton.mp h, nested]; simp
  | whileLoop condition loop id => rw [List.mem_singleton.mp h, nested]; simp
  | _ => simp [blocks] at h

/-- An entry that is a unit consists of statements of the list. -/
theorem walkAll_subset_of_mem_entryUnits {ss unit : List (Statement δ)} (h : unit ∈ entryUnits ss) :
    walkAll unit ⊆ walkAll ss := by
  obtain ⟨s, hs, rfl⟩ := List.mem_map.mp h
  intro t ht
  rw [walkAll_eq_flatMap, List.flatMap_singleton] at ht
  rw [walkAll_eq_flatMap]
  exact List.mem_flatMap.mpr ⟨s, List.mem_of_mem_filter hs, ht⟩

/-- The units that a definition opens consist of statements nested in it. -/
theorem walkAll_subset_of_mem_units {s : Statement δ} {unit : List (Statement δ)}
    (h : unit ∈ s.units) : walkAll unit ⊆ nested s := by
  cases s with
  | function name params body id =>
    rw [List.mem_singleton.mp h, nested]
    exact List.Subset.refl _
  | classDef name base members id => exact walkAll_subset_of_mem_entryUnits h
  | _ => simp [units] at h

/-- The rest of a block at a point of a unit consists of statements of the unit. -/
theorem Point.walkAll_subset {unit earlier seen rest : List (Statement δ)}
    (h : Point unit earlier seen rest) : walkAll rest ⊆ walkAll unit := by
  induction h with
  | start => exact List.Subset.refl _
  | next _ ih => exact List.Subset.trans (List.subset_append_right _ _) ih
  | @enter _ _ _ body s before after _ hblocks ih =>
    have hbody : body ∈ s.blocks := by rw [hblocks]; simp
    refine List.Subset.trans (walkAll_subset_nested hbody) (List.Subset.trans ?_ ih)
    intro t ht
    simp [walkAll, ht]

end Statement

namespace Program

open Statement (Point)

variable {δ : Type}

/-- The units of a program consist of its statements. -/
theorem walkAll_subset_walk {p : Program δ} {unit : List (Statement δ)} (h : unit ∈ p.units) :
    Statement.walkAll unit ⊆ p.walk := by
  -- The unit is the main body, an entry of its own, or opened by a statement.
  rcases List.mem_append.mp h with h | h
  · rw [Program.walk, Statement.walkAll_append]
    rcases List.mem_cons.mp h with rfl | h
    · exact List.subset_append_right _ _
    · exact List.Subset.trans (Statement.walkAll_subset_of_mem_entryUnits h)
        (List.subset_append_left _ _)
  · obtain ⟨s, hs, hunit⟩ := List.mem_flatMap.mp h
    exact List.Subset.trans (Statement.walkAll_subset_of_mem_units hunit)
      (Statement.nested_subset_walkAll hs)

/-- What stands at a point of a unit is a statement of the program. -/
theorem mem_walk_of_point {p : Program δ} {unit earlier seen rest : List (Statement δ)}
    {s : Statement δ} (hunit : unit ∈ p.units) (h : Point unit earlier seen (s :: rest)) :
    s ∈ p.walk :=
  walkAll_subset_walk hunit (h.walkAll_subset List.mem_cons_self)

/-- Every statement of a program that is no function stands at a point of a unit. -/
theorem exists_point_of_mem_walk {p : Program δ} {s : Statement δ} (h : s ∈ p.walk)
    (hs : s.isFunction = false) :
    ∃ unit ∈ p.units, ∃ earlier seen rest, Point unit earlier seen (s :: rest) := by
  obtain ⟨unit, hunit, hmem⟩ := exists_unit_of_mem_walk h hs
  obtain ⟨earlier, later, hwalk⟩ := List.append_of_mem hmem
  obtain ⟨seen, rest, hpoint⟩ := Point.start.exists_of_eq hwalk
  exact ⟨unit, hunit, _, seen, rest, hpoint⟩

end Program

namespace Statement

variable {δ : Type}

/-! ## Declared names -/

/-- A statement declares a name if it introduces the name in its declaring form. -/
theorem declaredName?_eq_some_iff {s : Statement Form} {name : Text} :
    s.declaredName? = some name ↔ s.introduction? = some (name, .declaring) := by
  unfold declaredName?
  rcases s.introduction? with _ | ⟨other, _ | _⟩ <;> simp

/-- A statement introduces the name of its variable. -/
theorem introduces_of_introduction? {s : Statement δ} {name : Text} {mark : δ}
    (h : s.introduction? = some (name, mark)) : s.Introduces name := by
  simp [Introduces, h]

/-- A unit has its own statements in their order. -/
theorem sublist_unitWalk (ss : List (Statement δ)) : ss.Sublist (unitWalk ss) := by
  induction ss with
  | nil => exact List.Sublist.refl _
  | cons s rest ih => exact (ih.trans (List.sublist_append_right _ _)).cons_cons s

/-- What is nested in a statement has the statements of its blocks in their order. -/
theorem flatten_sublist_unitNested (s : Statement δ) : s.blocks.flatten.Sublist (unitNested s) := by
  rw [unitNested_eq_flatMap]
  induction s.blocks with
  | nil => exact List.Sublist.refl _
  | cons body rest ih => exact (sublist_unitWalk body).append ih

/-- What follows at a point of a unit comes in the order of the unit. -/
theorem Point.unitWalk_sublist {unit earlier seen rest : List (Statement δ)}
    (h : Point unit earlier seen rest) : (unitWalk rest).Sublist (unitWalk unit) := by
  obtain ⟨later, hwalk⟩ := h.unitWalk_eq
  rw [hwalk]
  exact (List.sublist_append_right _ _).trans (List.sublist_append_left _ _)

/-- With one scope for a unit no name is declared twice. -/
theorem Tracks.nodup_declaredNames {scopes scopes' : Scopes} {ss : List (Statement Form)}
    (h : Tracks scopes ss scopes') : (declaredNames ss).Nodup := by
  rw [declaredNames, List.Nodup, List.pairwise_filterMap, List.pairwise_iff_forall_sublist]
  intro s t hsub name hs other ht heq
  subst heq
  obtain ⟨before, rest, rfl, hmem, hrest⟩ := List.cons_sublist_iff.mp hsub
  obtain ⟨mid, after, rfl⟩ := List.append_of_mem (List.singleton_sublist.mp hrest)
  -- The later of two declarations is not the first introduction of the name.
  have hfirst := h.first (before ++ mid) t after name .declaring (by simp)
    (declaredName?_eq_some_iff.mp ht)
  exact (hfirst.mp rfl).2 s (List.mem_append_left _ hmem)
    (introduces_of_introduction? (declaredName?_eq_some_iff.mp hs))

/-- Statements that declare exactly the names that they introduce and that none of the statements
seen before introduces, each of them once. -/
structure DeclaresNew (seen rest : List (Statement Form)) : Prop where
  nodup : (declaredNames rest).Nodup
  mem_iff : ∀ name, name ∈ declaredNames rest ↔
    (∀ r ∈ seen, ¬ r.Introduces name) ∧ ∃ s ∈ rest, s.Introduces name

theorem DeclaresNew.nil (seen : List (Statement Form)) : DeclaresNew seen [] :=
  ⟨List.nodup_nil, by simp [declaredNames]⟩

/-- A statement in front that declares its variable exactly if the name was not introduced
before. -/
theorem DeclaresNew.cons {s : Statement Form} {seen rest : List (Statement Form)}
    (h : DeclaresNew (s :: seen) rest)
    (hs : ∀ name form, s.introduction? = some (name, form) →
      (form = .declaring ↔ ∀ r ∈ seen, ¬ r.Introduces name)) :
    DeclaresNew seen (s :: rest) := by
  -- The statement introduces nothing, declares a new name, or assigns a known one.
  rcases hfound : s.introduction? with _ | ⟨found, form⟩
  · have hsilent : ∀ name, ¬ s.Introduces name := by simp [Introduces, hfound]
    have hnames : declaredNames (s :: rest) = declaredNames rest := by
      simp [declaredNames, declaredName?, hfound]
    refine ⟨hnames ▸ h.nodup, fun name => ?_⟩
    rw [hnames, h.mem_iff]
    simp [hsilent]
  · have hintroduces : ∀ name, s.Introduces name ↔ name = found := by
      simp [Introduces, hfound, eq_comm]
    have hform := hs found form hfound
    cases form with
    | declaring =>
      have hnames : declaredNames (s :: rest) = found :: declaredNames rest := by
        simp [declaredNames, declaredName?, hfound]
      have hnew : ∀ r ∈ seen, ¬ r.Introduces found := hform.mp rfl
      have hfresh : found ∉ declaredNames rest := by
        rw [h.mem_iff]
        exact fun hmem => hmem.1 s List.mem_cons_self ((hintroduces found).mpr rfl)
      refine ⟨hnames ▸ List.nodup_cons.mpr ⟨hfresh, h.nodup⟩, fun name => ?_⟩
      simp only [hnames, List.mem_cons, h.mem_iff, forall_eq_or_imp, exists_eq_or_imp, hintroduces]
      by_cases hname : name = found
      · subst hname
        simpa using hnew
      · simp [hname]
    | assigning =>
      -- The name was introduced before, so neither side holds it.
      have hnames : declaredNames (s :: rest) = declaredNames rest := by
        simp [declaredNames, declaredName?, hfound]
      have hseen : ¬ ∀ r ∈ seen, ¬ r.Introduces found := by
        intro hnew
        cases hform.mpr hnew
      refine ⟨hnames ▸ h.nodup, fun name => ?_⟩
      simp only [hnames, List.mem_cons, h.mem_iff, forall_eq_or_imp, exists_eq_or_imp, hintroduces]
      by_cases hname : name = found
      · subst hname
        simpa using hseen
      · simp [hname]

/-- With a scope for every block, the rest of a block declares what is new at its point. -/
theorem Point.declaresNew {unit : List (Statement Form)} (hunit : MarkedUnit true unit)
    {earlier seen rest : List (Statement Form)} (h : Point unit earlier seen rest) :
    DeclaresNew seen rest := by
  induction rest generalizing earlier seen with
  | nil => exact .nil seen
  | cons s rest ih => exact (ih h.next).cons fun name form hs => hunit.eq_declaring_iff h hs

/-- Lists of statements of which no two introduce a name that the statements seen before them do not
introduce. -/
def KeepApart (seen : List (Statement δ)) (bodies : List (List (Statement δ))) : Prop :=
  bodies.Pairwise fun body other => ∀ name, (∃ s ∈ body, s.Introduces name) →
    (∃ t ∈ other, t.Introduces name) → ∃ r ∈ seen, r.Introduces name

/-! ## Without marks -/

/-- The blocks of a statement without marks are its blocks without marks. -/
theorem blocks_unmark (s : Statement δ) : (unmark s).blocks = s.blocks.map unmarkAll := by
  cases s with
  | switch subject cases otherwise id => simp [unmark, blocks, map_snd_unmarkCases]
  | _ => rfl

/-- A statement without marks is a function exactly if the statement is one. -/
theorem isFunction_unmark (s : Statement δ) : (unmark s).isFunction = s.isFunction := by
  cases s <;> rfl

/-- Marks have no part in which names a statement introduces. -/
theorem introduces_unmark {s : Statement δ} {name : Text} :
    (unmark s).Introduces name ↔ s.Introduces name := by
  cases s <;> rfl

/-- The entries that are units are the same without marks. -/
theorem entryUnits_unmarkAll (ss : List (Statement δ)) :
    entryUnits (unmarkAll ss) = (entryUnits ss).map unmarkAll := by
  simp [entryUnits, unmarkAll_eq_map, List.filter_map, Function.comp_def, isFunction_unmark]

/-- So are the units that a definition opens. -/
theorem units_unmark (s : Statement δ) : (unmark s).units = s.units.map unmarkAll := by
  cases s with
  | classDef name base members id => exact entryUnits_unmarkAll members
  | _ => rfl

/-- A point of a unit is a point of the unit without marks. -/
theorem Point.exists_unmark {unit earlier seen rest : List (Statement δ)}
    (h : Point unit earlier seen rest) :
    ∃ earlier, Point (unmarkAll unit) earlier (unmarkAll seen) (unmarkAll rest) := by
  induction h with
  | start => exact ⟨[], .start⟩
  | next _ ih =>
    obtain ⟨_, hpoint⟩ := ih
    exact ⟨_, hpoint.next⟩
  | enter _ hblocks ih =>
    obtain ⟨_, hpoint⟩ := ih
    exact ⟨_, hpoint.enter (by rw [blocks_unmark, hblocks, List.map_append, List.map_cons])⟩

/-- Every point of a unit without marks is one of the unit itself. -/
theorem Point.exists_of_unmarkAll {unit : List (Statement δ)}
    {earlier seen rest : List (Statement Unit)} (h : Point (unmarkAll unit) earlier seen rest) :
    ∃ earlier seen' rest', Point unit earlier seen' rest' ∧ seen = unmarkAll seen' ∧
      rest = unmarkAll rest' := by
  induction h with
  | start => exact ⟨[], [], unit, .start, rfl, rfl⟩
  | next _ ih =>
    obtain ⟨_, seen', _ | ⟨s, rest'⟩, hpoint, rfl, hrest⟩ := ih
    · cases hrest
    · obtain ⟨rfl, rfl⟩ := List.cons.inj hrest
      exact ⟨_, s :: seen', rest', hpoint.next, rfl, rfl⟩
  | enter _ hblocks ih =>
    obtain ⟨_, seen', _ | ⟨s, rest'⟩, hpoint, rfl, hrest⟩ := ih
    · cases hrest
    · obtain ⟨rfl, rfl⟩ := List.cons.inj hrest
      rw [blocks_unmark] at hblocks
      obtain ⟨before, _, hsplit, -, hafter⟩ := List.map_eq_append_iff.mp hblocks
      obtain ⟨body, after, rfl, rfl, -⟩ := List.map_eq_cons_iff.mp hafter
      exact ⟨_, seen', body, hpoint.enter hsplit, rfl, rfl⟩

/-- Marks have no part in whether lists keep their names apart. -/
theorem keepApart_unmarkAll {seen : List (Statement δ)} {bodies : List (List (Statement δ))} :
    KeepApart (unmarkAll seen) (bodies.map unmarkAll) ↔ KeepApart seen bodies := by
  have hexists (ss : List (Statement δ)) (name : Text) :
      (∃ s ∈ unmarkAll ss, s.Introduces name) ↔ ∃ s ∈ ss, s.Introduces name := by
    simp [unmarkAll_eq_map, introduces_unmark]
  simp only [KeepApart, List.pairwise_map, hexists]

namespace MarkedUnit

variable {blockScoped : Bool} {unit earlier seen rest : List (Statement Form)}

/-- With one scope for a unit no name is declared twice in it. -/
theorem nodup_of_sublist (hunit : MarkedUnit false unit) {ss : List (Statement Form)}
    (h : ss.Sublist (unitWalk unit)) : (declaredNames ss).Nodup := by
  obtain ⟨ts, scopes, rfl, hscoped, -⟩ := hunit
  exact (tracks_markAll ts scopes hscoped).nodup_declaredNames.sublist (h.filterMap _)

/-- A list of statements declares no name twice. -/
theorem nodup_declaredNames (hunit : MarkedUnit blockScoped unit)
    (h : Point unit earlier seen rest) : (declaredNames rest).Nodup := by
  -- With a scope for every block only the block itself matters, and else the whole unit.
  cases blockScoped with
  | true => exact (h.declaresNew hunit).nodup
  | false => exact hunit.nodup_of_sublist ((sublist_unitWalk rest).trans h.unitWalk_sublist)

/-- The blocks of a statement together declare no name twice, unless each has a scope of its own and
two of them introduce a name that was not in scope before. -/
theorem nodup_blocks_iff (hunit : MarkedUnit blockScoped unit) {s : Statement Form}
    (h : Point unit earlier seen (s :: rest)) :
    (s.blocks.flatMap declaredNames).Nodup ↔ (blockScoped = true → KeepApart seen s.blocks) := by
  cases blockScoped with
  | false =>
    -- All blocks of the statement are parts of one unit, which declares nothing twice.
    have hnested : s.blocks.flatten.Sublist (unitWalk (s :: rest)) :=
      (flatten_sublist_unitNested s).trans
        ((List.sublist_cons_self _ _).trans (List.sublist_append_left _ _))
    have hnames : declaredNames s.blocks.flatten = s.blocks.flatMap declaredNames :=
      List.filterMap_flatten
    rw [← hnames]
    exact ⟨fun _ => nofun, fun _ => hunit.nodup_of_sublist (hnested.trans h.unitWalk_sublist)⟩
  | true =>
    -- All blocks are entered with the same statements seen, so they agree on which names are new.
    have hblock (body : List (Statement Form)) (hbody : body ∈ s.blocks) :
        DeclaresNew seen body := by
      obtain ⟨before, after, hblocks⟩ := List.append_of_mem hbody
      exact (h.enter hblocks).declaresNew hunit
    have hnodup : ∀ body ∈ s.blocks, (declaredNames body).Nodup :=
      fun body hbody => (hblock body hbody).nodup
    rw [List.nodup_flatMap, and_iff_right hnodup, imp_iff_right rfl, KeepApart]
    refine List.Pairwise.iff_of_mem ?_
    intro body other hbody hother
    have hmem := (hblock body hbody).mem_iff
    have hmem' := (hblock other hother).mem_iff
    constructor
    · intro hdisjoint name hs ht
      by_contra hseen
      have hnew : ∀ r ∈ seen, ¬ r.Introduces name := fun r hr hname => hseen ⟨r, hr, hname⟩
      exact hdisjoint ((hmem name).mpr ⟨hnew, hs⟩) ((hmem' name).mpr ⟨hnew, ht⟩)
    · intro hapart name hs ht
      obtain ⟨hnew, hs⟩ := (hmem name).mp hs
      obtain ⟨-, ht⟩ := (hmem' name).mp ht
      obtain ⟨r, hr, hname⟩ := hapart name hs ht
      exact hnew r hr hname

end MarkedUnit

end Statement

/-! ## Blocks of a program -/

/-- A function has no blocks, since its body is a unit. -/
theorem Statement.isFunction_of_mem_blocks {δ : Type} {s : Statement δ} {body : List (Statement δ)}
    (h : body ∈ s.blocks) : s.isFunction = false := by
  cases s with
  | function => cases h
  | _ => rfl

namespace Braces

open Statement (declaredNames Point)

variable {d : Dialect} {t : Statement Form} {names : List Text}

/-- A block that is written at all has the names of its list. -/
theorem eq_of_mem_blockUnlessEmpty {ss : List (Statement Form)} {block : Holds × List Text}
    (h : block ∈ blockUnlessEmpty ss) : block = (.statements, declaredNames ss) := by
  unfold blockUnlessEmpty at h
  split at h
  · cases h
  · exact List.mem_singleton.mp h

/-- So has the block of a section. -/
theorem eq_of_mem_sectionBlock {block : Holds × List Text} (h : block ∈ sectionBlock d names) :
    block = (.statements, names) := by
  unfold sectionBlock at h
  split at h
  · exact List.mem_singleton.mp h
  · cases h

/-- The blocks of a switch: its own, and in some dialects those of its sections. -/
theorem mem_ownBlocks_switch {subject : Text} {cases : List (Text × List (Statement Form))}
    {otherwise : List (Statement Form)} {id : Option Text} {block : Holds × List Text}
    (h : block ∈ ownBlocks d (.switch subject cases otherwise id)) :
    block = (.sections, sharedNames d (cases.map (·.2) ++ [otherwise])) ∨
      ∃ body ∈ cases.map (·.2) ++ [otherwise], block = (.statements, declaredNames body) := by
  rcases List.mem_append.mp h with h | h
  · rcases List.mem_cons.mp h with h | h
    · exact Or.inl h
    · obtain ⟨case, hcase, h⟩ := List.mem_flatMap.mp h
      exact Or.inr ⟨case.2, List.mem_append_left _ (List.mem_map_of_mem hcase),
        eq_of_mem_sectionBlock h⟩
  · split at h
    · cases h
    · exact Or.inr ⟨otherwise, by simp, eq_of_mem_sectionBlock h⟩

/-- Between braces that hold statements stands a block of a statement or the body of a function. -/
theorem exists_of_mem_ownBlocks (h : (.statements, names) ∈ ownBlocks d t) :
    ∃ body, names = declaredNames body ∧ (body ∈ t.blocks ∨ body ∈ t.units) := by
  -- A branch or a loop has the blocks of its bodies, a function its own body.
  cases t with
  | ifElse condition body orElse id =>
    rcases List.mem_cons.mp h with h | h
    · exact ⟨body, (Prod.mk.inj h).2, Or.inl List.mem_cons_self⟩
    · have hblock := eq_of_mem_blockUnlessEmpty h
      exact ⟨orElse, (Prod.mk.inj hblock).2, Or.inl (List.mem_cons_of_mem _ List.mem_cons_self)⟩
  | switch subject cases otherwise id =>
    rcases mem_ownBlocks_switch h with h | ⟨body, hbody, h⟩
    · cases h
    · exact ⟨body, (Prod.mk.inj h).2, Or.inl hbody⟩
  | forRange var bound body id =>
    exact ⟨body, (Prod.mk.inj (List.mem_singleton.mp h)).2, Or.inl List.mem_cons_self⟩
  | whileLoop condition body id =>
    exact ⟨body, (Prod.mk.inj (List.mem_singleton.mp h)).2, Or.inl List.mem_cons_self⟩
  | function name params body id =>
    exact ⟨body, (Prod.mk.inj (List.mem_singleton.mp h)).2, Or.inr List.mem_cons_self⟩
  | _ => simp [ownBlocks] at h

/-- Only a switch has braces that hold sections. -/
theorem sections_mem_ownBlocks_iff :
    (.sections, names) ∈ ownBlocks d t ↔
      (∃ subject cases otherwise id, t = .switch subject cases otherwise id) ∧
        names = sharedNames d t.blocks := by
  cases t with
  | switch subject cases otherwise id =>
    constructor
    · intro h
      rcases mem_ownBlocks_switch h with h | ⟨body, -, h⟩
      · exact ⟨⟨subject, cases, otherwise, id, rfl⟩, (Prod.mk.inj h).2⟩
      · cases h
    · rintro ⟨-, rfl⟩
      exact List.mem_append_left _ List.mem_cons_self
  | ifElse condition body orElse id => simp [ownBlocks, blockUnlessEmpty]
  | _ => simp [ownBlocks]

end Braces

namespace Program

open Braces Statement

/-- A program in which no two sections of a switch introduce a name that is not in scope before
it. -/
def KeepsSectionsApart {δ : Type} (p : Program δ) : Prop :=
  ∀ unit ∈ p.units, ∀ earlier seen subject cases otherwise id rest,
    Point unit earlier seen (.switch subject cases otherwise id :: rest) →
      KeepApart seen (cases.map (·.2) ++ [otherwise])

/-- The units of a program without marks are its units without marks. -/
theorem units_unmark {δ : Type} (p : Program δ) : p.unmark.units = p.units.map unmarkAll := by
  have hdefined : p.unmark.walk.flatMap Statement.units =
      (p.walk.flatMap Statement.units).map unmarkAll := by
    rw [walk_unmark, List.flatMap_map, List.map_flatMap]
    simp only [Statement.units_unmark]
  have hentries : entryUnits (p.unmark.classes ++ p.unmark.functions) =
      (entryUnits (p.classes ++ p.functions)).map unmarkAll := by
    rw [← entryUnits_unmarkAll, unmarkAll_eq_map, List.map_append]
    simp [unmark, unmarkAll_eq_map]
  rw [units, hdefined, hentries, units, List.map_append, List.map_cons]
  rfl

/-- Marks have no part in which names the sections of switches introduce. -/
theorem keepsSectionsApart_unmark {δ : Type} (p : Program δ) :
    p.unmark.KeepsSectionsApart ↔ p.KeepsSectionsApart := by
  unfold KeepsSectionsApart
  rw [units_unmark, List.forall_mem_map]
  refine forall₂_congr fun unit hunit => ?_
  constructor
  · intro h earlier seen subject cases otherwise id rest hpoint
    obtain ⟨_, hunmarked⟩ := hpoint.exists_unmark
    have hapart : KeepApart (unmarkAll seen)
        (Statement.unmark (.switch subject cases otherwise id)).blocks :=
      h _ _ _ _ _ _ _ hunmarked
    rw [blocks_unmark] at hapart
    exact keepApart_unmarkAll.mp hapart
  · intro h earlier seen subject cases otherwise id rest hpoint
    obtain ⟨_, seen', _ | ⟨s, rest'⟩, hmarked, rfl, hrest⟩ := hpoint.exists_of_unmarkAll
    · cases hrest
    · obtain ⟨hs, -⟩ := List.cons.inj hrest
      have hswitch : KeepApart seen' s.blocks := by
        cases s with
        | switch => exact h _ _ _ _ _ _ _ hmarked
        | _ => cases hs
      rw [← keepApart_unmarkAll, ← blocks_unmark, ← hs] at hswitch
      exact hswitch

variable (d : Dialect) (blockScoped : Bool) (p : Program Unit)

/-- Between braces that hold statements no name is declared twice. -/
theorem nodup_of_statements {names : List Text}
    (h : (.statements, names) ∈ Code.blocksAll (programCode d (p.mark false blockScoped))) :
    names.Nodup := by
  -- The braces are those of the main body or belong to a statement.
  rcases (mem_blocksAll_programCode d _ (by simp)).mp h with h | h
  · obtain rfl := (Prod.mk.inj h).2
    have hmain : (p.mark false blockScoped).body ∈ (p.mark false blockScoped).units :=
      List.mem_append_left _ List.mem_cons_self
    exact (markedUnit_of_mem_units hmain).nodup_declaredNames .start
  · obtain ⟨t, ht, hown⟩ := List.mem_flatMap.mp h
    obtain ⟨body, rfl, hbody | hbody⟩ := exists_of_mem_ownBlocks hown
    · -- A block of the statement is entered from the point at which the statement stands.
      obtain ⟨before, after, hblocks⟩ := List.append_of_mem hbody
      obtain ⟨unit, hunit, _, _, _, hpoint⟩ :=
        exists_point_of_mem_walk ht (isFunction_of_mem_blocks hbody)
      exact (markedUnit_of_mem_units hunit).nodup_declaredNames (hpoint.enter hblocks)
    · -- The body of a function is a unit of its own.
      have hunit : body ∈ (p.mark false blockScoped).units :=
        List.mem_append_right _ (List.mem_flatMap.mpr ⟨t, ht, hbody⟩)
      exact (markedUnit_of_mem_units hunit).nodup_declaredNames .start

/-- Between the braces of a switch no name is declared twice, unless its sections have scopes but no
braces of their own and two of them introduce a name that is not in scope before the switch. -/
theorem nodup_sections_iff :
    (∀ names, (.sections, names) ∈ Code.blocksAll (programCode d (p.mark false blockScoped)) →
        names.Nodup) ↔
      (blockScoped = true → d.bracesCases = false → p.KeepsSectionsApart) := by
  have hmarks := (p.mark false blockScoped).keepsSectionsApart_unmark
  rw [unmark_mark] at hmarks
  rw [hmarks]
  constructor
  · intro h hscoped hbraces unit hunit earlier seen subject cases otherwise id rest hpoint
    have hown : (.sections, sharedNames d (cases.map (·.2) ++ [otherwise])) ∈
        ownBlocks d (.switch subject cases otherwise id) :=
      sections_mem_ownBlocks_iff.mpr ⟨⟨subject, cases, otherwise, id, rfl⟩, rfl⟩
    have hmem := List.mem_flatMap.mpr ⟨_, mem_walk_of_point hunit hpoint, hown⟩
    have hnodup := h _ ((mem_blocksAll_programCode d _ (by simp)).mpr (Or.inr hmem))
    rw [sharedNames, hbraces] at hnodup
    exact ((markedUnit_of_mem_units hunit).nodup_blocks_iff hpoint).mp hnodup hscoped
  · intro h names hmem
    rcases (mem_blocksAll_programCode d _ (by simp)).mp hmem with hmem | hmem
    · cases hmem
    · obtain ⟨t, ht, hown⟩ := List.mem_flatMap.mp hmem
      obtain ⟨⟨subject, cases, otherwise, id, rfl⟩, rfl⟩ := sections_mem_ownBlocks_iff.mp hown
      obtain ⟨unit, hunit, _, _, _, hpoint⟩ := exists_point_of_mem_walk ht rfl
      -- With braces of their own the sections share nothing.
      unfold sharedNames
      split
      · exact List.nodup_nil
      · rename_i hbraces
        refine ((markedUnit_of_mem_units hunit).nodup_blocks_iff hpoint).mpr fun hscoped => ?_
        exact h hscoped (Bool.not_eq_true _ ▸ hbraces) unit hunit _ _ _ _ _ _ _ hpoint

/-- A program in a brace language, with its source code read as a tree of blocks. Between braces
that hold statements, no name is declared twice. The sections of a switch may share its braces, and
then they declare no name twice either, with one exact exception: where every block has a scope of
its own, a name that two sections introduce is declared in both if it is not in scope before the
switch. -/
theorem declares_once_iff :
    TreeOf d blockScoped p (programCode d (p.mark false blockScoped)) ∧
    (p.mark false blockScoped).unmark = p ∧
    (∀ names, (.statements, names) ∈ Code.blocksAll (programCode d (p.mark false blockScoped)) →
      names.Nodup) ∧
    ((∀ block ∈ Code.blocksAll (programCode d (p.mark false blockScoped)), block.1 ≠ .members →
        block.2.Nodup) ↔
      (blockScoped = true → d.bracesCases = false → p.KeepsSectionsApart)) := by
  refine ⟨p.treeOf_programCode d blockScoped, p.unmark_mark false blockScoped,
    fun names => p.nodup_of_statements d blockScoped, ?_⟩
  rw [← p.nodup_sections_iff d blockScoped]
  constructor
  · intro h names hmem
    exact h _ hmem nofun
  · rintro h ⟨holds, names⟩ hmem hholds
    cases holds with
    | members => exact absurd rfl hholds
    | statements => exact p.nodup_of_statements d blockScoped hmem
    | sections => exact h names hmem

/-- A switch with two cases that introduce the same variable, which is not in scope before. -/
def twoSections : Program Unit where
  body := [.switch "k"
    [("1", [.declare () "x" "1" "int" none]), ("2", [.declare () "x" "2" "int" none])] [] none]

/-- In Java both cases declare the variable between the same braces. -/
theorem sections_declare_twice :
    (.sections, [("x" : Text), "x"]) ∈
        Code.blocksAll (programCode .java (twoSections.mark false true)) ∧
      twoSections.source .java true =
        "public class Main \x7b\n" ++ "    public static void main(String[] args) \x7b\n" ++
        "        switch (k) \x7b\n" ++
        "            case 1:\n" ++ "                int x = 1;\n" ++ "                break;\n" ++
        "            case 2:\n" ++ "                int x = 2;\n" ++ "                break;\n" ++
        "        \x7d\n" ++ "    \x7d\n" ++ "\x7d\n" := by
  decide +kernel

end Program

end BlockFlow
