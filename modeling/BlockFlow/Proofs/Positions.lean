import Mathlib.Data.List.Basic

/-!
# Positions in lists

An entry of a list together with what comes before and after it is a position of the list. A
position in a list that is put together from parts is a position in one of the parts.
-/

namespace BlockFlow

variable {α β : Type}

/-- A position in two lists joined together is one in the first or one in the second. -/
theorem append_eq_append_cons {xs ys before after : List α} {a : α}
    (h : xs ++ ys = before ++ a :: after) :
    (∃ mid, xs = before ++ a :: mid ∧ after = mid ++ ys) ∨
      ∃ mid, before = xs ++ mid ∧ ys = mid ++ a :: after := by
  rcases List.append_eq_append_iff.mp h with hright | ⟨mid, hxs, hmid⟩
  · exact Or.inr hright
  · rcases List.cons_eq_append_iff.mp hmid with ⟨rfl, hys⟩ | ⟨mid, rfl, hafter⟩
    · exact Or.inr ⟨[], by simpa using hxs.symm, hys⟩
    · exact Or.inl ⟨mid, hxs, hafter⟩

/-- A position in a list of parts joined together is one in some part. -/
theorem flatMap_eq_append_cons {f : α → List β} {parts : List α} {before after : List β} {b : β}
    (h : parts.flatMap f = before ++ b :: after) :
    ∃ left part right before' after', parts = left ++ part :: right ∧
      f part = before' ++ b :: after' ∧ before = left.flatMap f ++ before' ∧
      after = after' ++ right.flatMap f := by
  induction parts generalizing before with
  | nil => simp at h
  | cons part parts ih =>
    rcases append_eq_append_cons h with ⟨mid, hpart, hafter⟩ | ⟨mid, rfl, hrest⟩
    · exact ⟨[], part, parts, before, mid, rfl, hpart, rfl, hafter⟩
    · obtain ⟨left, part', right, before', after', rfl, hpart, rfl, hafter⟩ := ih hrest
      exact ⟨part :: left, part', right, before', after', rfl, hpart, by simp, hafter⟩

end BlockFlow
