import BlockFlow.Text.Basic

/-!
# Scopes

The names a piece of code has introduced so far. With block scoping every block has a scope of its
own, which is forgotten at its end; otherwise there is one scope and blocks make no difference.
-/

namespace BlockFlow

/-- The names introduced so far: those of the innermost scope, latest first, and those of the
enclosing scopes, innermost first. There is always an innermost scope. -/
structure Scopes where
  blockScoped : Bool
  current : List Text
  enclosing : List (List Text)
deriving DecidableEq, Repr

namespace Scopes

/-- No names yet. -/
def new (blockScoped : Bool) : Scopes :=
  ⟨blockScoped, [], []⟩

/-- Every scope, innermost first. -/
def all (s : Scopes) : List (List Text) :=
  s.current :: s.enclosing

/-- Whether a name was introduced in a scope that is still open. -/
def isDeclared (s : Scopes) (name : Text) : Bool :=
  s.all.any (·.contains name)

/-- Introduces a name. The flag says whether it is new. -/
def declare (s : Scopes) (name : Text) : Bool × Scopes :=
  if s.isDeclared name then (false, s) else (true, { s with current := name :: s.current })

/-- Opens the scope of a block. -/
def enter (s : Scopes) : Scopes :=
  if s.blockScoped then { s with current := [], enclosing := s.current :: s.enclosing } else s

/-- Closes the scope of a block. -/
def leave (s : Scopes) : Scopes :=
  match s.blockScoped, s.enclosing with
  | true, outer :: rest => { s with current := outer, enclosing := rest }
  | _, _ => s

/-- After a block in which nothing is introduced the scopes are as before. -/
@[simp]
theorem leave_enter (s : Scopes) : s.enter.leave = s := by
  rcases s with ⟨_ | _, current, enclosing⟩ <;> rfl

/-- The names in scope after a name is introduced. -/
theorem isDeclared_declare (s : Scopes) (name other : Text) :
    (s.declare name).2.isDeclared other = (s.isDeclared other || other == name) := by
  unfold declare
  split
  · by_cases h : other = name <;> simp_all
  · by_cases h : other = name <;> simp [isDeclared, all, h]

end Scopes

end BlockFlow
