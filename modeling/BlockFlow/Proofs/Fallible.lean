/-!
# Steps that may fail

A sequence of steps succeeds when every step does, each with what the steps before it gave.
-/

namespace BlockFlow

/-- A step and all that follows it succeed together. -/
theorem bind_eq_ok_iff {ε α β : Type} {first : Except ε α} {next : α → Except ε β} {b : β} :
    first >>= next = .ok b ↔ ∃ a, first = .ok a ∧ next a = .ok b := by
  cases first with
  | error e => exact ⟨nofun, nofun⟩
  | ok a => exact ⟨fun h => ⟨a, rfl, h⟩, fun ⟨_, ha, h⟩ => Except.ok.inj ha ▸ h⟩

/-- The form in which steps are taken one after the other. -/
theorem bind_of {ε α β : Type} {first : Except ε α} {next : α → Except ε β} {a : α} {b : β}
    (h : first = .ok a) (hnext : next a = .ok b) : first >>= next = .ok b :=
  bind_eq_ok_iff.mpr ⟨a, h, hnext⟩

end BlockFlow
