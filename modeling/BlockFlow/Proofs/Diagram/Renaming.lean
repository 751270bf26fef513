import BlockFlow.Proofs.Diagram.Simulation
import BlockFlow.Proofs.Source.Anonymity
import Mathlib.Logic.Equiv.Basic

/-!
# Renaming blocks

The ids of blocks only tie arrows to blocks. A renaming that keeps different ids different, and the
id `start` as it is, turns a diagram into one that is simulated by it (`simulates_rename`), so that
the program is the same up to the renamed ids, and its code is the same altogether.
-/

namespace BlockFlow

/-- An arrow between renamed blocks. -/
def Edge.rename (r : Text → Text) (e : Edge) : Edge :=
  { e with source := r e.source, target := r e.target }

namespace Diagram

/-- A diagram whose blocks are renamed. -/
def rename (r : Text → Text) (g : Diagram) : Diagram where
  nodes := g.nodes.map (Node.rename r)
  edges := g.edges.map (Edge.rename r)

variable {r : Text → Text} (g : Diagram)

/-- A renamed block is found under its new id. -/
theorem node?_rename (hr : Function.Injective r) (id : Text) :
    (g.rename r).node? (r id) = (g.node? id).map (Node.rename r) := by
  have hid : ((fun n : Node => n.id == r id) ∘ Node.rename r) = fun n => n.id == id := by
    funext n
    simp [hr.eq_iff, Bool.beq_eq_decide_eq]
  rw [node?, node?, rename, List.find?_map, hid]

/-- A renamed arrow leads to the new id of its target. -/
theorem arrow?_rename (hr : Function.Injective r) (id : Text) (select : Json → Bool) :
    (g.rename r).arrow? (some (r id)) select = (g.arrow? (some id) select).map r := by
  have hsource : ((fun e : Edge => some e.source = some (r id) && select e.sourceHandle)
      ∘ Edge.rename r) = fun e => some e.source = some id && select e.sourceHandle := by
    funext e
    simp [Edge.rename, hr.eq_iff]
  rw [arrow?, arrow?, rename, List.find?_map, hsource, Option.map_map, Option.map_map]
  rfl

/-- Blocks keep their kinds and their order. -/
theorem filter_kind_rename (kind : Kind) :
    (g.rename r).nodes.filter (·.kind = kind) =
      (g.nodes.filter (·.kind = kind)).map (Node.rename r) := by
  rw [rename, List.filter_map]
  rfl

/-- The main body starts at the same block, be it by its kind or by its id. -/
theorem entry?_rename (hr : Function.Injective r) (hstart : r "start" = "start") :
    Diagram.entry? (g.rename r) = g.entry?.map (Node.rename r) := by
  have hid := g.node?_rename hr "start"
  rw [hstart] at hid
  have hkind : (g.rename r).nodes.find? (·.kind == .entry) =
      (g.nodes.find? (·.kind == .entry)).map (Node.rename r) := by
    rw [rename, List.find?_map]
    rfl
  unfold entry?
  rw [Option.map_or, hkind]
  exact congrArg _ hid

/-- A renamed diagram behaves like the diagram itself. -/
theorem simulates_rename (hr : Function.Injective r) (hstart : r "start" = "start") :
    Simulates r (fun _ => True) g (g.rename r) where
  injective := hr
  node id _ := g.node?_rename hr id
  arrow n _ select := g.arrow?_rename hr n.id fun j => select j.name?
  closed _ _ _ _ _ := trivial
  definitions kind _ := g.filter_kind_rename kind
  entry := g.entry?_rename hr hstart

/-- Renaming the blocks of a diagram renames the statements of its program and does not change the
code: code depends neither on ids nor on the data of unknown statements. -/
theorem build_rename (hr : Function.Injective r) (hstart : r "start" = "start") (expand : Bool) :
    (g.rename r).build expand = (g.build expand).rename r ∧
      (∀ language blockScoped, ((g.rename r).build expand).source language blockScoped =
        (g.build expand).source language blockScoped) ∧
      ∀ p q : Program Unit, p.bare = q.bare → ∀ language blockScoped,
        p.source language blockScoped = q.source language blockScoped := by
  have hbuild : (g.rename r).build expand = (g.build expand).rename r :=
    (g.simulates_rename hr hstart).build_eq
  refine ⟨hbuild, ?_, ?_⟩
  · intro language blockScoped
    rw [hbuild]
    exact Program.source_relabel _ _ language blockScoped _
  · intro p q h language blockScoped
    exact Program.source_congr h language blockScoped

/-- A diagram with a branch that leads back to itself and a block of no known kind. -/
def looped : Diagram where
  nodes := [⟨"start", "print", [("value", .str "x")]⟩, ⟨"a", "if", [("condition", .str "c")]⟩,
    ⟨"b", "shape", [("note", .str "b")]⟩]
  edges := [⟨"start", "a", .null, .null, none⟩, ⟨"a", "b", .str "true", .null, none⟩,
    ⟨"a", "start", .str "next", .null, none⟩, ⟨"b", "a", .null, .null, none⟩]

/-- Exchanges two ids. -/
def exchange : Text → Text :=
  Equiv.swap (Text.ofString "a") (Text.ofString "b")

/-- Two ids that are exchanged: the diagram is another one, its code is the same. -/
theorem build_rename_looped :
    Function.Injective exchange ∧ exchange "start" = "start" ∧
      (looped.rename exchange).build true = (looped.build true).rename exchange ∧
      looped.rename exchange ≠ looped ∧
      ((looped.rename exchange).build true).source .python true =
        (looped.build true).source .python true := by
  have hr : Function.Injective exchange := (Equiv.swap _ _).injective
  have hstart : exchange "start" = "start" := by decide
  obtain ⟨hbuild, hsource, -⟩ := build_rename looped hr hstart true
  exact ⟨hr, hstart, hbuild, by decide, hsource .python true⟩

end Diagram

end BlockFlow
