import BlockFlow.Program.Basic

/-!
# Places in a program

A frame is a statement with one of its nested lists of statements taken out, and a place is a way
into a program that ends at such a list, or at the main body. Filling a place puts a list there.
Every statement of a program stands in a list at some place, but for the definitions at the top
level (`Program.exists_place`).
-/

namespace BlockFlow

/-- A statement with one of its nested lists taken out. -/
inductive Frame (δ : Type) where
  | ifBody (condition : Text) (orElse : List (Statement δ)) (id : Option Text)
  | elseBody (condition : Text) (body : List (Statement δ)) (id : Option Text)
  | caseBody (subject : Text) (before : List (Text × List (Statement δ))) (value : Text)
      (after : List (Text × List (Statement δ))) (otherwise : List (Statement δ))
      (id : Option Text)
  | defaultBody (subject : Text) (cases : List (Text × List (Statement δ))) (id : Option Text)
  | forBody (var bound : Text) (id : Option Text)
  | whileBody (condition : Text) (id : Option Text)
  | functionBody (name : Text) (params : List Param) (id : Option Text)
  | classBody (name base : Text) (id : Option Text)

/-- One step of the way to a list: the frame around it, and the statements on both sides. -/
structure Layer (δ : Type) where
  before : List (Statement δ)
  frame : Frame δ
  after : List (Statement δ)

variable {δ : Type}

namespace Frame

/-- The statement with a list put back. -/
def fill : Frame δ → List (Statement δ) → Statement δ
  | .ifBody condition orElse id, ss => .ifElse condition ss orElse id
  | .elseBody condition body id, ss => .ifElse condition body ss id
  | .caseBody subject before value after otherwise id, ss =>
    .switch subject (before ++ (value, ss) :: after) otherwise id
  | .defaultBody subject cases id, ss => .switch subject cases ss id
  | .forBody var bound id, ss => .forRange var bound ss id
  | .whileBody condition id, ss => .whileLoop condition ss id
  | .functionBody name params id, ss => .function name params ss id
  | .classBody name base id, ss => .classDef name base ss id

/-- Whether the list that was taken out holds the members of a class. -/
def isClass : Frame δ → Bool
  | .classBody .. => true
  | _ => false

end Frame

namespace Statement

/-- The statements of a list with another list put back, some layers down. -/
def fillAll : List (Layer δ) → List (Statement δ) → List (Statement δ)
  | [], ss => ss
  | layer :: path, ss => layer.before ++ layer.frame.fill (fillAll path ss) :: layer.after

/-- Whether the list some layers down holds the members of a class. -/
def endsInClass : Bool → List (Layer δ) → Bool
  | isClass, [] => isClass
  | _, layer :: path => endsInClass layer.frame.isClass path

/-- A place that is filled with statements is not empty. -/
theorem fillAll_ne_nil {ss : List (Statement δ)} (h : ss ≠ []) (path : List (Layer δ)) :
    fillAll path ss ≠ [] := by
  cases path with
  | nil => exact h
  | cons layer path => simp [fillAll]

/-- A statement stands among others or in a list nested in them. -/
def StandsIn (t : Statement δ) (ss : List (Statement δ)) : Prop :=
  ∃ path before after, ss = fillAll path (before ++ t :: after)

namespace StandsIn

variable {t : Statement δ} {ss : List (Statement δ)}

theorem cons (h : t.StandsIn ss) (s : Statement δ) : t.StandsIn (s :: ss) := by
  obtain ⟨path, before, after, rfl⟩ := h
  -- The new statement comes before the outermost layer, or before the list itself.
  cases path with
  | nil => exact ⟨[], s :: before, after, rfl⟩
  | cons layer path =>
    exact ⟨{ layer with before := s :: layer.before } :: path, before, after, rfl⟩

/-- What stands in a list stands in the statement that the list is put back into. -/
theorem of_frame (h : t.StandsIn ss) (frame : Frame δ) (rest : List (Statement δ)) :
    t.StandsIn (frame.fill ss :: rest) := by
  obtain ⟨path, before, after, rfl⟩ := h
  exact ⟨⟨[], frame, rest⟩ :: path, before, after, rfl⟩

end StandsIn

mutual

/-- What is nested in a statement stands in one of its lists. -/
theorem exists_frame_of_mem_nested (t : Statement δ) : ∀ s : Statement δ, t ∈ nested s →
    ∃ (frame : Frame δ) (ss : List (Statement δ)), s = frame.fill ss ∧ t.StandsIn ss
  | .ifElse condition body orElse id, h => by
    rcases List.mem_append.1 h with h | h
    · exact ⟨.ifBody condition orElse id, body, rfl, standsIn_of_mem_walkAll t body h⟩
    · exact ⟨.elseBody condition body id, orElse, rfl, standsIn_of_mem_walkAll t orElse h⟩
  | .switch subject cases otherwise id, h => by
    rcases List.mem_append.1 h with h | h
    · obtain ⟨before, value, body, after, rfl, hbody⟩ := exists_case_of_mem_walkCases t cases h
      exact ⟨.caseBody subject before value after otherwise id, body, rfl, hbody⟩
    · exact ⟨.defaultBody subject cases id, otherwise, rfl, standsIn_of_mem_walkAll t otherwise h⟩
  | .forRange var bound body id, h =>
    ⟨.forBody var bound id, body, rfl, standsIn_of_mem_walkAll t body h⟩
  | .whileLoop condition body id, h =>
    ⟨.whileBody condition id, body, rfl, standsIn_of_mem_walkAll t body h⟩
  | .function name params body id, h =>
    ⟨.functionBody name params id, body, rfl, standsIn_of_mem_walkAll t body h⟩
  | .classDef name base members id, h =>
    ⟨.classBody name base id, members, rfl, standsIn_of_mem_walkAll t members h⟩

/-- What a walk over statements meets stands among them or in a list nested in them. -/
theorem standsIn_of_mem_walkAll (t : Statement δ) : ∀ ss : List (Statement δ),
    t ∈ walkAll ss → t.StandsIn ss
  | s :: rest, h => by
    rw [walkAll, List.mem_append, List.mem_cons] at h
    -- The statement is the first one, nested in it, or further on.
    rcases h with (rfl | h) | h
    · exact ⟨[], [], rest, rfl⟩
    · obtain ⟨frame, ss, rfl, hss⟩ := exists_frame_of_mem_nested t s h
      exact hss.of_frame frame rest
    · exact (standsIn_of_mem_walkAll t rest h).cons s

/-- What a walk over cases meets stands in one of them. -/
theorem exists_case_of_mem_walkCases (t : Statement δ) :
    ∀ cases : List (Text × List (Statement δ)), t ∈ walkCases cases →
      ∃ before value body after, cases = before ++ (value, body) :: after ∧ t.StandsIn body
  | (value, body) :: rest, h => by
    rcases List.mem_append.1 h with h | h
    · exact ⟨[], value, body, rest, rfl, standsIn_of_mem_walkAll t body h⟩
    · obtain ⟨before, value', body', after, rfl, hbody⟩ := exists_case_of_mem_walkCases t rest h
      exact ⟨(value, body) :: before, value', body', after, rfl, hbody⟩

end

end Statement

open Statement (fillAll endsInClass)

/-- A way into a program that ends at a list of statements. -/
inductive Place (δ : Type) where
  | main (classes functions : List (Statement δ)) (path : List (Layer δ))
  | inClasses (layer : Layer δ) (path : List (Layer δ)) (functions body : List (Statement δ))
  | inFunctions (classes : List (Statement δ)) (layer : Layer δ) (path : List (Layer δ))
      (body : List (Statement δ))

namespace Place

/-- The program with a list put at a place. -/
def fill : Place δ → List (Statement δ) → Program δ
  | .main classes functions path, ss => ⟨classes, functions, fillAll path ss⟩
  | .inClasses layer path functions body, ss => ⟨fillAll (layer :: path) ss, functions, body⟩
  | .inFunctions classes layer path body, ss => ⟨classes, fillAll (layer :: path) ss, body⟩

/-- Whether the list at a place holds the members of a class. -/
def holdsMembers : Place δ → Bool
  | .main _ _ path => endsInClass false path
  | .inClasses layer path _ _ => endsInClass false (layer :: path)
  | .inFunctions _ layer path _ => endsInClass false (layer :: path)

end Place

/-- Every statement of a program is a definition at the top level or stands in a list at some
place. -/
theorem Program.exists_place {p : Program δ} {t : Statement δ} (h : t ∈ p.walk) :
    t ∈ p.classes ∨ t ∈ p.functions ∨
      ∃ (place : Place δ) (before after : List (Statement δ)),
        p = place.fill (before ++ t :: after) := by
  obtain ⟨classes, functions, body⟩ := p
  simp only [walk, Statement.walkAll_append, List.mem_append] at h
  rcases h with (h | h) | h
  · obtain ⟨path, before, after, rfl⟩ := Statement.standsIn_of_mem_walkAll t classes h
    -- Without any layer the statement is a definition at the top level.
    cases path with
    | nil => exact .inl (by simp [fillAll])
    | cons layer path =>
      exact .inr (.inr ⟨.inClasses layer path functions body, before, after, rfl⟩)
  · obtain ⟨path, before, after, rfl⟩ := Statement.standsIn_of_mem_walkAll t functions h
    cases path with
    | nil => exact .inr (.inl (by simp [fillAll]))
    | cons layer path =>
      exact .inr (.inr ⟨.inFunctions classes layer path body, before, after, rfl⟩)
  · obtain ⟨path, before, after, rfl⟩ := Statement.standsIn_of_mem_walkAll t body h
    exact .inr (.inr ⟨.main classes functions path, before, after, rfl⟩)

end BlockFlow
