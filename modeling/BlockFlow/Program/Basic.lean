import BlockFlow.Json.Basic

/-!
# Programs

A program has three lists of statements: classes, functions and the main body. A statement carries
the id of the block it came from, if it came from one, and the statements that introduce a variable
carry a mark of type `δ`. A program as it is built or loaded has no marks (`δ = Unit`); before it is
written out every mark says whether the statement declares its variable or assigns to it.
-/

namespace BlockFlow

/-- A parameter of a function. -/
structure Param where
  typeName : Text
  name : Text
deriving DecidableEq, Repr

/-- A statement, whose variable introductions carry marks of type `δ`. -/
inductive Statement (δ : Type) where
  | declare (mark : δ) (name value dataType : Text) (id : Option Text)
  | update (name value : Text) (id : Option Text)
  | arrayValues (mark : δ) (name dataType : Text) (values : List Text) (id : Option Text)
  | arraySize (mark : δ) (name dataType size : Text) (id : Option Text)
  | print (value : Text) (id : Option Text)
  | ifElse (condition : Text) (body orElse : List (Statement δ)) (id : Option Text)
  | switch (subject : Text) (cases : List (Text × List (Statement δ)))
      (otherwise : List (Statement δ)) (id : Option Text)
  | forRange (var bound : Text) (body : List (Statement δ)) (id : Option Text)
  | whileLoop (condition : Text) (body : List (Statement δ)) (id : Option Text)
  | function (name : Text) (params : List Param) (body : List (Statement δ))
      (id : Option Text)
  | call (name : Text) (args : List Text) (id : Option Text)
  | classDef (name base : Text) (members : List (Statement δ)) (id : Option Text)
  | create (var className : Text) (args : List Text) (id : Option Text)
  | unknown (kind : Text) (data : Json.Fields) (id : Option Text)

/-- A program. -/
structure Program (δ : Type) where
  classes : List (Statement δ) := []
  functions : List (Statement δ) := []
  body : List (Statement δ) := []

namespace Statement

variable {δ : Type}

/-- The id of the block a statement came from. -/
def id : Statement δ → Option Text
  | .declare _ _ _ _ id => id
  | .update _ _ id => id
  | .arrayValues _ _ _ _ id => id
  | .arraySize _ _ _ _ id => id
  | .print _ id => id
  | .ifElse _ _ _ id => id
  | .switch _ _ _ id => id
  | .forRange _ _ _ id => id
  | .whileLoop _ _ id => id
  | .function _ _ _ id => id
  | .call _ _ id => id
  | .classDef _ _ _ id => id
  | .create _ _ _ id => id
  | .unknown _ _ id => id

/-! ## Depth-first order -/

mutual

/-- The statements nested in a statement, in depth-first order. -/
def nested : Statement δ → List (Statement δ)
  | .ifElse _ body orElse _ => walkAll body ++ walkAll orElse
  | .switch _ cases otherwise _ => walkCases cases ++ walkAll otherwise
  | .forRange _ _ body _ => walkAll body
  | .whileLoop _ body _ => walkAll body
  | .function _ _ body _ => walkAll body
  | .classDef _ _ members _ => walkAll members
  | _ => []

/-- The statements of a list and all nested ones, in depth-first order. -/
def walkAll : List (Statement δ) → List (Statement δ)
  | [] => []
  | s :: rest => (s :: nested s) ++ walkAll rest

/-- The statements of the cases of a switch and all nested ones, in depth-first order. -/
def walkCases : List (Text × List (Statement δ)) → List (Statement δ)
  | [] => []
  | (_, body) :: rest => walkAll body ++ walkCases rest

end

/-- A statement and all statements nested in it, in depth-first order. -/
def walk (s : Statement δ) : List (Statement δ) :=
  s :: nested s

theorem walkAll_eq_flatMap (ss : List (Statement δ)) : walkAll ss = ss.flatMap walk := by
  induction ss with
  | nil => simp [walkAll]
  | cons s rest ih => simp [walkAll, walk, ih]

@[simp]
theorem walkAll_append (ss ts : List (Statement δ)) :
    walkAll (ss ++ ts) = walkAll ss ++ walkAll ts := by
  simp [walkAll_eq_flatMap]

/-! ## Equality -/

mutual

/-- Whether two statements are the same. -/
def same [DecidableEq δ] : Statement δ → Statement δ → Bool
  | .declare m n v t i, .declare m' n' v' t' i' =>
    decide (m = m' ∧ n = n' ∧ v = v' ∧ t = t' ∧ i = i')
  | .update n v i, .update n' v' i' => decide (n = n' ∧ v = v' ∧ i = i')
  | .arrayValues m n t v i, .arrayValues m' n' t' v' i' =>
    decide (m = m' ∧ n = n' ∧ t = t' ∧ v = v' ∧ i = i')
  | .arraySize m n t v i, .arraySize m' n' t' v' i' =>
    decide (m = m' ∧ n = n' ∧ t = t' ∧ v = v' ∧ i = i')
  | .print v i, .print v' i' => decide (v = v' ∧ i = i')
  | .ifElse c a b i, .ifElse c' a' b' i' =>
    decide (c = c' ∧ i = i') && sameAll a a' && sameAll b b'
  | .switch c a b i, .switch c' a' b' i' =>
    decide (c = c' ∧ i = i') && sameCases a a' && sameAll b b'
  | .forRange v c a i, .forRange v' c' a' i' =>
    decide (v = v' ∧ c = c' ∧ i = i') && sameAll a a'
  | .whileLoop c a i, .whileLoop c' a' i' => decide (c = c' ∧ i = i') && sameAll a a'
  | .function n p a i, .function n' p' a' i' =>
    decide (n = n' ∧ p = p' ∧ i = i') && sameAll a a'
  | .call n a i, .call n' a' i' => decide (n = n' ∧ a = a' ∧ i = i')
  | .classDef n b a i, .classDef n' b' a' i' =>
    decide (n = n' ∧ b = b' ∧ i = i') && sameAll a a'
  | .create v n a i, .create v' n' a' i' => decide (v = v' ∧ n = n' ∧ a = a' ∧ i = i')
  | .unknown k d i, .unknown k' d' i' => decide (k = k' ∧ d = d' ∧ i = i')
  | _, _ => false

/-- Whether two lists of statements are the same. -/
def sameAll [DecidableEq δ] : List (Statement δ) → List (Statement δ) → Bool
  | [], [] => true
  | s :: ss, t :: ts => same s t && sameAll ss ts
  | _, _ => false

/-- Whether two lists of cases are the same. -/
def sameCases [DecidableEq δ] :
    List (Text × List (Statement δ)) → List (Text × List (Statement δ)) → Bool
  | [], [] => true
  | (v, s) :: ss, (w, t) :: ts => decide (v = w) && sameAll s t && sameCases ss ts
  | _, _ => false

end

mutual

/-- Comparing statements decides their equality. -/
theorem same_iff_eq [DecidableEq δ] : ∀ s t : Statement δ, same s t = true ↔ s = t
  | .declare .., t => by cases t <;> simp [same]
  | .update .., t => by cases t <;> simp [same]
  | .arrayValues .., t => by cases t <;> simp [same]
  | .arraySize .., t => by cases t <;> simp [same]
  | .print .., t => by cases t <;> simp [same]
  | .ifElse _ a b _, t => by
    cases t <;> simp [same, sameAll_iff_eq a, sameAll_iff_eq b]
    grind
  | .switch _ a b _, t => by
    cases t <;> simp [same, sameCases_iff_eq a, sameAll_iff_eq b]
    grind
  | .forRange _ _ a _, t => by
    cases t <;> simp [same, sameAll_iff_eq a]
    grind
  | .whileLoop _ a _, t => by
    cases t <;> simp [same, sameAll_iff_eq a]
    grind
  | .function _ _ a _, t => by
    cases t <;> simp [same, sameAll_iff_eq a]
    grind
  | .call .., t => by cases t <;> simp [same]
  | .classDef _ _ a _, t => by
    cases t <;> simp [same, sameAll_iff_eq a]
    grind
  | .create .., t => by cases t <;> simp [same]
  | .unknown .., t => by cases t <;> simp [same]

/-- So it does for lists of statements. -/
theorem sameAll_iff_eq [DecidableEq δ] :
    ∀ ss ts : List (Statement δ), sameAll ss ts = true ↔ ss = ts
  | [], ts => by cases ts <;> simp [sameAll]
  | s :: ss, ts => by cases ts <;> simp [sameAll, same_iff_eq s, sameAll_iff_eq ss]

/-- So it does for the cases of switches. -/
theorem sameCases_iff_eq [DecidableEq δ] :
    ∀ ss ts : List (Text × List (Statement δ)), sameCases ss ts = true ↔ ss = ts
  | [], ts => by cases ts <;> simp [sameCases]
  | (v, s) :: ss, ts => by
    rcases ts with _ | ⟨⟨w, t⟩, ts⟩ <;>
      simp [sameCases, sameAll_iff_eq s, sameCases_iff_eq ss]

end

instance [DecidableEq δ] : DecidableEq (Statement δ) := fun s t =>
  decidable_of_iff _ (same_iff_eq s t)

end Statement

namespace Program

variable {δ : Type}

deriving instance DecidableEq for Program

/-- All statements of a program in depth-first order: classes, functions, main body. -/
def walk (p : Program δ) : List (Statement δ) :=
  Statement.walkAll (p.classes ++ p.functions ++ p.body)

end Program

end BlockFlow
