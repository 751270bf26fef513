import BlockFlow.Diagram.Conversion
import Mathlib.Data.List.Basic

/-!
# The parts of an assembled statement

A statement is assembled from a block and the lists that were followed from its handles. The shell
of a statement is what comes from the block alone. `shell_assemble` gives the block's share back and
`nested_assemble` the lists, in the order in which they were followed.
-/

namespace BlockFlow

namespace Statement

variable {δ : Type}

/-- A statement without its nested statements and, for a switch, without its cases. -/
def shell : Statement δ → Statement δ
  | .ifElse condition _ _ id => .ifElse condition [] [] id
  | .switch subject _ _ id => .switch subject [] [] id
  | .forRange var bound _ id => .forRange var bound [] id
  | .whileLoop condition _ id => .whileLoop condition [] id
  | .function name params _ id => .function name params [] id
  | .classDef name base _ id => .classDef name base [] id
  | s => s

@[simp]
theorem id_shell (s : Statement δ) : s.shell.id = s.id := by
  cases s <;> rfl

/-- The values of the cases of a switch; any other statement has none. -/
def caseValues : Statement δ → List Text
  | .switch _ cases _ _ => cases.map (·.1)
  | _ => []

theorem walkAll_cons (s : Statement δ) (rest : List (Statement δ)) :
    walkAll (s :: rest) = s.walk ++ walkAll rest :=
  rfl

/-- A statement of a list stands in the list itself or is nested in one that does. -/
theorem mem_walkAll {s : Statement δ} {ss : List (Statement δ)} :
    s ∈ walkAll ss ↔ s ∈ ss ∨ ∃ t ∈ ss, s ∈ nested t := by
  rw [walkAll_eq_flatMap, List.mem_flatMap]
  simp only [walk, List.mem_cons]
  constructor
  · rintro ⟨t, ht, rfl | hs⟩
    · exact Or.inl ht
    · exact Or.inr ⟨t, ht, hs⟩
  · rintro (hs | ⟨t, ht, hs⟩)
    · exact ⟨s, hs, Or.inl rfl⟩
    · exact ⟨t, ht, Or.inr hs⟩

theorem walkCases_eq_flatMap (cases : List (Text × List (Statement δ))) :
    walkCases cases = cases.flatMap fun case => walkAll case.2 := by
  induction cases with
  | nil => simp [walkCases]
  | cons case cases ih => simp [walkCases, ih]

/-- Of bodies that are paired with values there are as many left as there are values. -/
theorem map_snd_zip_eq_take (values : List Text) (bodies : List (List (Statement δ))) :
    (values.zip bodies).map (·.2) = bodies.take values.length := by
  induction values generalizing bodies with
  | nil => simp
  | cons value values ih =>
    cases bodies with
    | nil => simp
    | cons body bodies => simp [ih]

/-- Cases that are given by their values and their bodies hold the statements of those bodies. -/
theorem walkCases_zip (values : List Text) (bodies : List (List (Statement δ))) :
    walkCases (values.zip bodies) = (bodies.take values.length).flatMap walkAll := by
  rw [walkCases_eq_flatMap, ← map_snd_zip_eq_take, List.flatMap_map]

end Statement

namespace Node

/-- The handle of a case, by its place. -/
theorem caseHandle_natCast (i : Nat) : caseHandle (i : Int) = "case-" ++ toString i :=
  rfl

/-- A statement has the id of its block. -/
@[simp]
theorem id_statement (n : Node) : n.statement.id = some n.id := by
  unfold statement
  split <;> rfl

/-- Filling in nested statements changes nothing else. -/
@[simp]
theorem shell_assemble (n : Node) (bodies : List (List (Statement Unit))) :
    (n.assemble bodies).shell = n.statement := by
  unfold assemble statement
  cases n.kind <;> rfl

/-- So does an assembled one. -/
@[simp]
theorem id_assemble (n : Node) (bodies : List (List (Statement Unit))) :
    (n.assemble bodies).id = some n.id := by
  rw [← Statement.id_shell, shell_assemble, id_statement]

/-- A list of one body for every case and one for the default falls into its two parts. -/
theorem take_append_getD {α : Type} {n : Nat} {bodies : List (List α)}
    (h : bodies.length = n + 1) : bodies.take n ++ [bodies.getD n []] = bodies := by
  have hn : n < bodies.length := by omega
  have hlast : bodies.getD n [] = bodies[n] := by simp [List.getD, hn]
  rw [hlast, List.take_append_getElem hn, ← h, List.take_length]

/-- The statements nested in an assembled statement are those of its sections, section by
section. -/
theorem nested_assemble (n : Node) (expand : Bool) {bodies : List (List (Statement Unit))}
    (h : bodies.length = (n.sections expand).length) :
    Statement.nested (n.assemble bodies) = bodies.flatMap Statement.walkAll := by
  unfold sections at h
  unfold assemble statement
  cases hk : n.kind <;> simp only [hk] at h ⊢
  case ifElse =>
    obtain ⟨body, orElse, rfl⟩ := List.length_eq_two.1 h
    simp [Statement.nested]
  -- The last body is that of the default, and all before it are those of cases.
  case switch =>
    have hlen : bodies.length = n.caseValues.length + 1 := by simpa using h
    have hsplit := take_append_getD hlen
    rw [Statement.nested, Statement.walkCases_zip]
    calc (bodies.take n.caseValues.length).flatMap Statement.walkAll
          ++ Statement.walkAll (bodies.getD n.caseValues.length [])
        = (bodies.take n.caseValues.length
            ++ [bodies.getD n.caseValues.length []]).flatMap Statement.walkAll := by simp
      _ = bodies.flatMap Statement.walkAll := by rw [hsplit]
  case forRange | whileLoop =>
    obtain ⟨body, rfl⟩ := List.length_eq_one_iff.1 h
    simp [Statement.nested]
  case functionDefine | classDefine =>
    -- Without `expand` there is no section, and the body is the empty list.
    cases expand
    · obtain rfl := List.length_eq_zero_iff.1 h
      simp [Statement.nested, Statement.walkAll]
    · obtain ⟨body, rfl⟩ := List.length_eq_one_iff.1 h
      simp [Statement.nested]
  -- All other kinds have no sections.
  all_goals
    obtain rfl := List.length_eq_zero_iff.1 h
    simp [Statement.nested]

/-- A class with its members. -/
theorem assemble_classDefine {n : Node} (h : n.kind = .classDefine)
    (members : List (Statement Unit)) :
    n.assemble [members] =
      .classDef (n.text "className") (Text.trim (n.text "inherits")) members (some n.id) := by
  simp [assemble, statement, h]

/-- A function with its body. -/
theorem assemble_functionDefine {n : Node} (h : n.kind = .functionDefine)
    (body : List (Statement Unit)) :
    n.assemble [body] =
      .function (n.text "name") (Param.ofItems (Text.items (n.text "params"))) body
        (some n.id) := by
  simp [assemble, statement, h]

/-- The body of a definition holds all its nested statements, wherever the definition stands. -/
theorem nested_assemble_definition {n : Node} (body : List (Statement Unit))
    (h : n.kind = .classDefine ∨ n.kind = .functionDefine) :
    Statement.nested (n.assemble [body]) = Statement.walkAll body := by
  rcases h with h | h
  · rw [assemble_classDefine h, Statement.nested]
  · rw [assemble_functionDefine h, Statement.nested]

end Node

end BlockFlow
