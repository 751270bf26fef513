import BlockFlow.Diagram.Conversion
import BlockFlow.Log

/-!
# Building programs from diagrams

Structured control flow is rebuilt by following arrows. Every block is placed at most once: a
sequence ends where it reaches a block that is missing or already placed, which also breaks cycles.
First the class blocks are placed, each with the sequence of its members, then the function blocks
that are still free, then the main body.
-/

namespace BlockFlow

namespace Build

/-- What is noticed while a program is built. -/
inductive Event where
  /-- A block of no known kind was placed. -/
  | unknownType (typeName id : Text)
  /-- Only the first of several arrows is followed. -/
  | manySuccessors (id followed : Text) (ignored : List Text)
  /-- A sequence ended at a block that does not exist. -/
  | missing (id : Text)
  /-- A sequence ended at a block that was placed before. -/
  | alreadyPlaced (id : Text)
  /-- There is no main body. -/
  | noEntry
deriving DecidableEq, Repr

/-- An event as an entry of the log. -/
def Event.entry : Event → Log.Entry
  | .unknownType typeName id =>
    ⟨.warning, .building, "Unknown node type '" ++ typeName ++ "' (node: " ++ id ++ ")"⟩
  | .manySuccessors id followed ignored =>
    ⟨.debug, .building, "Node '" ++ id ++ "' has " ++ toString (ignored.length + 1)
      ++ " successors; following '" ++ followed ++ "', ignoring "
      ++ Text.joined ", " ignored⟩
  | .missing id =>
    ⟨.debug, .building, "Edge points at missing node '" ++ id ++ "'; sequence ends"⟩
  | .alreadyPlaced id => ⟨.debug, .building, "Node '" ++ id ++ "' already placed; sequence ends"⟩
  | .noEntry => ⟨.debug, .building, "No entry node found; program body is empty"⟩

/-- How far a build has come: the ids placed so far and the events so far, latest first. -/
structure Progress where
  placed : List Text
  events : List Event

/-- Nothing is placed yet. -/
def Progress.start : Progress := ⟨[], []⟩

/-- Places a block. -/
def Progress.place (p : Progress) (id : Text) : Progress :=
  { p with placed := id :: p.placed }

/-- Records events, given in order. -/
def Progress.note (p : Progress) (events : List Event) : Progress :=
  { p with events := events.reverse ++ p.events }

end Build

open Build

/-- What is noticed when a block is turned into a statement. -/
def Node.events (n : Node) : List Event :=
  match n.kind with
  | .entry | .unknown => [.unknownType n.typeName n.id]
  | _ => []

namespace Diagram

/-- What is noticed when the first arrow of a block is followed. -/
def choiceEvents (g : Diagram) (id : Text) : List Event :=
  match g.outgoing id with
  | first :: second :: rest =>
    [.manySuccessors id first.target ((second :: rest).map (·.target))]
  | _ => []

/-- What is noticed when the sequence goes on after a block. -/
def successorEvents (g : Diagram) (expand : Bool) (n : Node) : List Event :=
  match n.kind, expand with
  | .ifElse, _ | .switch, _ | .forRange, _ | .whileLoop, _ => []
  | .functionDefine, true | .classDefine, true => []
  | _, _ => g.choiceEvents n.id

/-- Follows each of a list of starts in turn. -/
def walkEach (follow : Option Text → Progress → List (Statement Unit) × Progress) :
    List (Option Text) → Progress → List (List (Statement Unit)) × Progress
  | [], p => ([], p)
  | start :: rest, p =>
    let body := follow start p
    let bodies := walkEach follow rest body.2
    (body.1 :: bodies.1, bodies.2)

/-- The sequence of statements that starts at a block. Every step places a block, so one more step
than there are blocks is never needed; the first argument bounds their number. -/
def walk (g : Diagram) (expand : Bool) :
    Nat → Option Text → Progress → List (Statement Unit) × Progress
  | 0, _, p => ([], p)
  | _ + 1, none, p => ([], p)
  | fuel + 1, some id, p =>
    match g.node? id with
    | none => ([], p.note [.missing id])
    | some node =>
      if p.placed.contains id then ([], p.note [.alreadyPlaced id])
      else
        let bodies :=
          walkEach (walk g expand fuel) ((node.sections expand).map (g.handleTarget? id))
            ((p.place id).note node.events)
        let rest :=
          walk g expand fuel (g.successor? expand node)
            (bodies.2.note (g.successorEvents expand node))
        (node.assemble bodies.1 :: rest.1, rest.2)

/-- A bound that no walk reaches. -/
def fuel (g : Diagram) : Nat :=
  g.nodes.length + 1

/-- Places the blocks of a kind that are still free, in order, each with the sequence that starts at
one of its handles. -/
def placeDefinitions (g : Diagram) (expand : Bool) (kind : Kind) (handle : Text) :
    List Node → Progress → List (Statement Unit) × Progress
  | [], p => ([], p)
  | node :: rest, p =>
    if node.kind = kind ∧ node.id ∉ p.placed then
      let body := g.walk expand g.fuel (g.handleTarget? node.id handle) (p.place node.id)
      let others := placeDefinitions g expand kind handle rest body.2
      (node.assemble [body.1] :: others.1, others.2)
    else placeDefinitions g expand kind handle rest p

/-- Builds the main body. -/
def placeBody (g : Diagram) (expand : Bool) (p : Progress) :
    List (Statement Unit) × Progress :=
  match g.entry? with
  | none => ([], p.note [.noEntry])
  | some entry =>
    g.walk expand g.fuel (g.firstTarget? entry.id)
      ((p.place entry.id).note (g.choiceEvents entry.id))

/-- Builds the program of a diagram, and tells how the build went. -/
def buildWithProgress (g : Diagram) (expand : Bool) : Program Unit × Progress :=
  let classes := g.placeDefinitions expand .classDefine "members" g.nodes .start
  let functions := g.placeDefinitions expand .functionDefine "body" g.nodes classes.2
  let body := g.placeBody expand functions.2
  (⟨classes.1, functions.1, body.1⟩, body.2)

/-- Builds the program of a diagram. -/
def build (g : Diagram) (expand : Bool) : Program Unit :=
  (g.buildWithProgress expand).1

/-- What is noticed while the program of a diagram is built, in order. -/
def buildEvents (g : Diagram) (expand : Bool) : List Event :=
  (g.buildWithProgress expand).2.events.reverse

end Diagram

end BlockFlow
