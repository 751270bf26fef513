import BlockFlow.Program.Basic
import BlockFlow.Proofs.Positions

/-!
# Units of a program

A unit is a part of a program whose variables are known nowhere else: the main body, the body of a
function wherever the function stands, a member of a class that is no function, and any other entry
at the top level. What stands inside a definition does not belong to the unit of the definition.

A unit falls into blocks. `unitWalk` lists the statements of a unit in depth-first order, and a
`Point` of a unit comes with the statements before it, and with those of them that stand directly in
its own block or in one around it. Every statement that is not a function stands in some unit
(`exists_unit_of_mem_walk`), and every position in the order of a unit is a point of it
(`Point.exists_of_eq`).
-/

namespace BlockFlow

namespace Statement

variable {δ : Type}

/-- The name that a statement introduces, with its mark. -/
def introduction? : Statement δ → Option (Text × δ)
  | .declare mark name _ _ _ => some (name, mark)
  | .arrayValues mark name _ _ _ => some (name, mark)
  | .arraySize mark name _ _ _ => some (name, mark)
  | _ => none

/-- A statement that introduces a name. -/
def Introduces (s : Statement δ) (name : Text) : Prop :=
  s.introduction?.map (·.1) = some name

/-- Whether a statement defines a function. -/
def isFunction : Statement δ → Bool
  | .function .. => true
  | _ => false

/-! ## Blocks -/

/-- The blocks of a statement, in depth-first order. -/
def blocks : Statement δ → List (List (Statement δ))
  | .ifElse _ body orElse _ => [body, orElse]
  | .switch _ cases otherwise _ => cases.map (·.2) ++ [otherwise]
  | .forRange _ _ body _ => [body]
  | .whileLoop _ body _ => [body]
  | _ => []

mutual

/-- The statements of the same unit that are nested in a statement, in depth-first order. -/
def unitNested : Statement δ → List (Statement δ)
  | .ifElse _ body orElse _ => unitWalk body ++ unitWalk orElse
  | .switch _ cases otherwise _ => unitWalkCases cases ++ unitWalk otherwise
  | .forRange _ _ body _ => unitWalk body
  | .whileLoop _ body _ => unitWalk body
  | _ => []

/-- The statements of a list and those of the same unit that are nested in them, in depth-first
order. -/
def unitWalk : List (Statement δ) → List (Statement δ)
  | [] => []
  | s :: rest => (s :: unitNested s) ++ unitWalk rest

/-- The statements of the cases of a switch and those of the same unit that are nested in them. -/
def unitWalkCases : List (Text × List (Statement δ)) → List (Statement δ)
  | [] => []
  | (_, body) :: rest => unitWalk body ++ unitWalkCases rest

end

theorem unitWalkCases_eq_flatMap (cases : List (Text × List (Statement δ))) :
    unitWalkCases cases = (cases.map (·.2)).flatMap unitWalk := by
  induction cases with
  | nil => simp [unitWalkCases]
  | cons case rest ih => simp [unitWalkCases, ih]

theorem unitNested_eq_flatMap (s : Statement δ) : unitNested s = s.blocks.flatMap unitWalk := by
  cases s with
  | switch subject cases otherwise id =>
    simp [unitNested, blocks, unitWalkCases_eq_flatMap]
  | _ => simp [unitNested, blocks]

/-- What a unit holds of a list it holds of one of its statements. -/
theorem mem_unitWalk {t : Statement δ} {ss : List (Statement δ)} :
    t ∈ unitWalk ss ↔ ∃ s ∈ ss, t = s ∨ t ∈ unitNested s := by
  induction ss with
  | nil => simp [unitWalk]
  | cons s rest ih => simp [unitWalk, ih, or_assoc]

/-! ## Units -/

/-- Entries that know nothing of each other: each that is no function makes up a unit. -/
def entryUnits (ss : List (Statement δ)) : List (List (Statement δ)) :=
  (ss.filter (!·.isFunction)).map ([·])

/-- The units that a definition opens. -/
def units : Statement δ → List (List (Statement δ))
  | .function _ _ body _ => [body]
  | .classDef _ _ members _ => entryUnits members
  | _ => []

/-- Entries that are no functions stand in their units, with all that is nested in them. -/
theorem exists_mem_entryUnits {t : Statement δ} {ss : List (Statement δ)} (h : t ∈ unitWalk ss)
    (ht : t.isFunction = false) : ∃ unit ∈ entryUnits ss, t ∈ unitWalk unit := by
  obtain ⟨s, hs, hmem⟩ := mem_unitWalk.mp h
  -- A function holds nothing of the unit in which it stands but itself.
  have hfunction : s.isFunction = false := by
    cases s with
    | function name params body id =>
      rcases hmem with rfl | hmem
      · exact ht
      · simp [unitNested] at hmem
    | _ => rfl
  refine ⟨[s], ?_, mem_unitWalk.mpr ⟨s, List.mem_singleton_self s, hmem⟩⟩
  exact List.mem_map_of_mem (List.mem_filter.mpr ⟨hs, by simp [hfunction]⟩)

/-- A statement stands in one of the units that some definitions open. -/
def InUnitOf (t : Statement δ) (definitions : List (Statement δ)) : Prop :=
  ∃ s ∈ definitions, ∃ unit ∈ s.units, t ∈ unitWalk unit

/-- More definitions have more units. -/
theorem InUnitOf.mono {t : Statement δ} {ss ts : List (Statement δ)} (h : t.InUnitOf ss)
    (hsub : ss ⊆ ts) : t.InUnitOf ts := by
  obtain ⟨s, hs, hunit⟩ := h
  exact ⟨s, hsub hs, hunit⟩

mutual

/-- What is nested in a statement belongs to its unit or to that of a definition. -/
theorem mem_nested_cases : ∀ (s t : Statement δ), t ∈ nested s → t.isFunction = false →
    t ∈ unitNested s ∨ t.InUnitOf (s :: nested s)
  | .ifElse c body orElse id, t, h, ht => by
    rw [nested, List.mem_append] at h
    rw [unitNested, List.mem_append]
    rcases h with h | h
    · refine (mem_walkAll_cases body t h ht).imp Or.inl fun hin => hin.mono ?_
      simp [nested]
    · refine (mem_walkAll_cases orElse t h ht).imp Or.inr fun hin => hin.mono ?_
      simp [nested]
  | .switch c cases otherwise id, t, h, ht => by
    rw [nested, List.mem_append] at h
    rw [unitNested, List.mem_append]
    rcases h with h | h
    · refine (mem_walkCases_cases cases t h ht).imp Or.inl fun hin => hin.mono ?_
      simp [nested]
    · refine (mem_walkAll_cases otherwise t h ht).imp Or.inr fun hin => hin.mono ?_
      simp [nested]
  | .forRange v c body id, t, h, ht => by
    refine (mem_walkAll_cases body t h ht).imp_right fun hin => hin.mono ?_
    simp [nested]
  | .whileLoop c body id, t, h, ht => by
    refine (mem_walkAll_cases body t h ht).imp_right fun hin => hin.mono ?_
    simp [nested]
  | .function n params body id, t, h, ht => by
    right
    rcases mem_walkAll_cases body t h ht with hmem | hin
    · exact ⟨_, List.mem_cons_self, body, List.mem_singleton_self body, hmem⟩
    · exact hin.mono (by simp [nested])
  | .classDef n base members id, t, h, ht => by
    right
    rcases mem_walkAll_cases members t h ht with hmem | hin
    · exact ⟨_, List.mem_cons_self, exists_mem_entryUnits hmem ht⟩
    · exact hin.mono (by simp [nested])

/-- What is in a list belongs to the unit of the list or to that of a definition. -/
theorem mem_walkAll_cases : ∀ (ss : List (Statement δ)) (t : Statement δ), t ∈ walkAll ss →
    t.isFunction = false → t ∈ unitWalk ss ∨ t.InUnitOf (walkAll ss)
  | s :: rest, t, h, ht => by
    rw [walkAll, List.mem_append, List.mem_cons] at h
    rw [unitWalk, List.mem_append, List.mem_cons]
    rcases h with (rfl | h) | h
    · exact Or.inl (Or.inl (Or.inl rfl))
    · refine (mem_nested_cases s t h ht).imp (fun hmem => Or.inl (Or.inr hmem))
        fun hin => hin.mono ?_
      simp [walkAll]
    · refine (mem_walkAll_cases rest t h ht).imp Or.inr fun hin => hin.mono ?_
      simp [walkAll]

/-- What is in the cases of a switch belongs to their unit or to that of a definition. -/
theorem mem_walkCases_cases : ∀ (cases : List (Text × List (Statement δ))) (t : Statement δ),
    t ∈ walkCases cases → t.isFunction = false →
      t ∈ unitWalkCases cases ∨ t.InUnitOf (walkCases cases)
  | (_, body) :: rest, t, h, ht => by
    rw [walkCases, List.mem_append] at h
    rw [unitWalkCases, List.mem_append]
    rcases h with h | h
    · refine (mem_walkAll_cases body t h ht).imp Or.inl fun hin => hin.mono ?_
      simp [walkCases]
    · refine (mem_walkCases_cases rest t h ht).imp Or.inr fun hin => hin.mono ?_
      simp [walkCases]

end

/-! ## Points -/

/-- The points of a unit: the statements before the point in depth-first order, those of them that
stand directly in its block or in a block around it, latest first, and the rest of its block from
the point on. -/
inductive Point (unit : List (Statement δ)) :
    List (Statement δ) → List (Statement δ) → List (Statement δ) → Prop
  /-- The unit starts. -/
  | start : Point unit [] [] unit
  /-- A block goes on after a statement. -/
  | next {earlier seen rest : List (Statement δ)} {s : Statement δ}
      (h : Point unit earlier seen (s :: rest)) :
      Point unit (earlier ++ s :: unitNested s) (s :: seen) rest
  /-- A block of a statement starts. -/
  | enter {earlier seen rest body : List (Statement δ)} {s : Statement δ}
      {before after : List (List (Statement δ))} (h : Point unit earlier seen (s :: rest))
      (hblocks : s.blocks = before ++ body :: after) :
      Point unit (earlier ++ s :: before.flatMap unitWalk) seen body

namespace Point

variable {unit earlier seen rest : List (Statement δ)}

/-- A point comes after its earlier statements and before all others in depth-first order. -/
theorem unitWalk_eq (h : Point unit earlier seen rest) :
    ∃ later, unitWalk unit = earlier ++ unitWalk rest ++ later := by
  induction h with
  | start => exact ⟨[], by simp⟩
  | @next _ _ _ s _ ih =>
    obtain ⟨later, hlater⟩ := ih
    exact ⟨later, by simp [hlater, unitWalk]⟩
  | @enter _ _ rest _ s before after _ hblocks ih =>
    obtain ⟨later, hlater⟩ := ih
    refine ⟨after.flatMap unitWalk ++ unitWalk rest ++ later, ?_⟩
    rw [hlater, unitWalk, unitNested_eq_flatMap, hblocks]
    simp

/-- Every position in the depth-first order of a unit is a point. -/
theorem exists_of_eq (h : Point unit earlier seen rest) {pre post : List (Statement δ)}
    {s : Statement δ} (hs : unitWalk rest = pre ++ s :: post) :
    ∃ seen rest, Point unit (earlier ++ pre) seen (s :: rest) := by
  -- Both the blocks of the first statement and the rest of its block are shorter.
  induction hn : (unitWalk rest).length using Nat.strongRecOn
    generalizing earlier seen rest pre post with
  | ind n ih =>
    cases rest with
    | nil => simp [unitWalk] at hs
    | cons first rest =>
      rw [unitWalk, unitNested_eq_flatMap] at hs hn
      simp only [List.length_append, List.length_cons] at hn
      cases pre with
      | nil =>
        obtain ⟨rfl, -⟩ := List.cons.inj hs
        exact ⟨seen, rest, by simpa using h⟩
      | cons _ pre =>
        obtain ⟨rfl, htail⟩ := List.cons.inj hs
        -- The position is in a block of the first statement or in the rest of its own block.
        rcases append_eq_append_cons htail with ⟨mid, hblocks, -⟩ | ⟨mid, rfl, hrest⟩
        · obtain ⟨before, body, after, pre', post', hsplit, hbody, rfl, -⟩ :=
            flatMap_eq_append_cons hblocks
          have hlt : (unitWalk body).length < n := by
            simp only [hsplit, List.flatMap_append, List.flatMap_cons, List.length_append] at hn
            omega
          obtain ⟨seen', rest', hpoint⟩ := ih _ hlt (h.enter hsplit) hbody rfl
          exact ⟨seen', rest', by simpa using hpoint⟩
        · obtain ⟨seen', rest', hpoint⟩ := ih _ (by omega) h.next hrest rfl
          exact ⟨seen', rest', by simpa [unitNested_eq_flatMap] using hpoint⟩

end Point

end Statement

namespace Program

variable {δ : Type}

/-- The units of a program. -/
def units (p : Program δ) : List (List (Statement δ)) :=
  p.body :: Statement.entryUnits (p.classes ++ p.functions) ++ p.walk.flatMap Statement.units

/-- Every statement of a program that is no function stands in a unit. -/
theorem exists_unit_of_mem_walk {p : Program δ} {t : Statement δ} (h : t ∈ p.walk)
    (ht : t.isFunction = false) : ∃ unit ∈ p.units, t ∈ Statement.unitWalk unit := by
  -- The statement stands at the top level, or in a unit that a definition opens.
  rcases Statement.mem_walkAll_cases _ t h ht with hmem | ⟨s, hs, unit, hunit, hmem⟩
  · obtain ⟨s, hs, hmem⟩ := Statement.mem_unitWalk.mp hmem
    rcases List.mem_append.mp hs with hs | hs
    · have hentry := Statement.mem_unitWalk.mpr ⟨s, hs, hmem⟩
      obtain ⟨unit, hunit, hmem⟩ := Statement.exists_mem_entryUnits hentry ht
      exact ⟨unit, List.mem_append_left _ (List.mem_cons_of_mem _ hunit), hmem⟩
    · exact ⟨p.body, List.mem_append_left _ List.mem_cons_self,
        Statement.mem_unitWalk.mpr ⟨s, hs, hmem⟩⟩
  · exact ⟨unit, List.mem_append_right _ (List.mem_flatMap.mpr ⟨s, hs, hunit⟩), hmem⟩

end Program

end BlockFlow
