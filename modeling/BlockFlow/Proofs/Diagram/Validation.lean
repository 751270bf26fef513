import Mathlib.Data.List.Forall2
import BlockFlow.Diagram.Loading
import BlockFlow.Diagram.Schema
import BlockFlow.Proofs.Diagram.Closed
import BlockFlow.Proofs.Fallible

/-!
# Validated diagrams

What the schema lets through is read without loss: every entry of the two lists becomes the block or
the arrow it describes (`Node.Describes`, `Edge.Describes`). The diagram is closed, and the schema
warns of exactly the blocks of unknown kind, so every unknown statement of the built program is one
it warned of or the statement of an entry block.
-/

namespace BlockFlow

/-! ## Entries -/

/-- An entry of the block list describes a block: it has the id, the type and the data of the block,
and no data at all where the block has none. -/
def Node.Describes (entry : Json) (n : Node) : Prop :=
  ∃ fields, entry = .obj fields ∧ Json.Fields.get fields "id" = .str n.id ∧
    Json.Fields.get fields "type" = .str n.typeName ∧
    (Json.Fields.get fields "data" = .obj n.data ∨
      Json.Fields.has fields "data" = false ∧ n.data = [])

/-- An entry of the arrow list describes an arrow: it has the ends and the handles of the arrow, and
each handle is a string or null. -/
def Edge.Describes (entry : Json) (e : Edge) : Prop :=
  ∃ fields, entry = .obj fields ∧ Json.Fields.get fields "source" = .str e.source ∧
    Json.Fields.get fields "target" = .str e.target ∧
    Json.Fields.get fields "sourceHandle" = e.sourceHandle ∧
    Json.Fields.get fields "targetHandle" = e.targetHandle ∧
    (∀ handle ∈ [e.sourceHandle, e.targetHandle], handle = .null ∨ ∃ name, handle = .str name) ∧
    e.id = Json.Fields.text? fields "id"

/-- A field that is not there reads as null. -/
theorem Json.Fields.get_of_not_has {fields : Json.Fields} {key : Text}
    (h : Json.Fields.has fields key = false) : Json.Fields.get fields key = .null := by
  have hnone : Json.Fields.get? fields key = none := by simpa [has] using h
  simp [get, hnone]

/-- An entry that describes a block is read as the block. -/
theorem Node.ofJson?_of_describes {entry : Json} {n : Node} (h : Node.Describes entry n) :
    Node.ofJson? entry = some n := by
  obtain ⟨fields, rfl, hid, htype, hdata⟩ := h
  obtain ⟨id, typeName, data⟩ := n
  have htypeName : (if (Json.str typeName).isFilled then (Json.str typeName).text else "") =
      typeName := by
    cases typeName <;> rfl
  -- The data of a block is given, or the block has none.
  rcases hdata with hdata | ⟨hdata, hnil⟩
  · simp only [Node.ofJson?, Json.Fields.text?, hid, htype, htypeName, hdata]
    rfl
  · obtain rfl : data = [] := hnil
    have hnull := Json.Fields.get_of_not_has hdata
    simp only [Node.ofJson?, Json.Fields.text?, hid, htype, htypeName, hnull]
    rfl

/-- An entry that describes an arrow is read as the arrow. -/
theorem Edge.ofJson?_of_describes {entry : Json} {e : Edge} (h : Edge.Describes entry e) :
    Edge.ofJson? entry = some e := by
  obtain ⟨fields, rfl, hsource, htarget, hsourceHandle, htargetHandle, -, hid⟩ := h
  obtain ⟨source, target, sourceHandle, targetHandle, id⟩ := e
  simp_all [Edge.ofJson?, Json.Fields.text?, Json.text]

/-- Entries that describe blocks and arrows are all read, in order, and nothing is reported. -/
theorem Diagram.load_of_describes {nodes edges : List Json} {g : Diagram}
    (hnodes : List.Forall₂ Node.Describes nodes g.nodes)
    (hedges : List.Forall₂ Edge.Describes edges g.edges) :
    Diagram.load (.arr nodes) (.arr edges) = (.ok g, []) := by
  have hread {α : Type} {f : Json → Option α} {entries : List Json} {values : List α}
      (h : List.Forall₂ (fun entry value => f entry = some value) entries values) :
      entries.filterMap f = values := by
    induction h with
    | nil => rfl
    | cons h _ ih => rw [List.filterMap_cons_some h, ih]
  have hkept {α : Type} {R : Json → α → Prop} {f : Json → Option Log.Entry} {entries : List Json}
      {values : List α} (h : List.Forall₂ R entries values)
      (hf : ∀ entry value, R entry value → f entry = none) : entries.filterMap f = [] := by
    induction h with
    | nil => rfl
    | cons h _ ih => rw [List.filterMap_cons_none (hf _ _ h), ih]
  have hnodeRemarks : nodes.filterMap Node.remark? = [] :=
    hkept hnodes fun entry n h => by simp [Node.remark?, Node.ofJson?_of_describes h]
  have hedgeRemarks : edges.filterMap Edge.remark? = [] :=
    hkept hedges fun entry e h => by simp [Edge.remark?, Edge.ofJson?_of_describes h]
  simp only [Diagram.load, Json.entries, Json.entries?, Diagram.ofEntries, hnodeRemarks,
    hedgeRemarks, hread (hnodes.imp fun _ _ => Node.ofJson?_of_describes),
    hread (hedges.imp fun _ _ => Edge.ofJson?_of_describes), List.append_nil]

/-! ## Checks -/

namespace Schema

/-- A requirement that is met holds. -/
theorem of_require {condition : Bool} {violation : Violation} {u : Unit}
    (h : require condition violation = .ok u) : condition = true := by
  unfold require at h
  split at h
  · assumption
  · cases h

/-- A field that has to be a string is one. -/
theorem of_stringAt {fields : Json.Fields} {key s : Text} {violation : Violation}
    (h : stringAt fields key violation = .ok s) : Json.Fields.get fields key = .str s := by
  unfold stringAt at h
  split at h
  case h_1 t ht =>
    obtain rfl := Except.ok.inj h
    exact ht
  case h_2 => cases h

/-- An entry that has to be an object is one. -/
theorem of_fieldsOf {entry : Json} {violation : Violation} {fields : Json.Fields}
    (h : fieldsOf entry violation = .ok fields) : entry = .obj fields := by
  unfold fieldsOf at h
  split at h
  · obtain rfl := Except.ok.inj h
    rfl
  · cases h

/-- A part that has to be a list is one. -/
theorem of_listAt {fields : Json.Fields} {part : Part} {items : List Json}
    (h : listAt fields part = .ok items) : Json.Fields.get fields part.name = .arr items := by
  unfold listAt at h
  split at h
  case h_1 items' hitems =>
    obtain rfl := Except.ok.inj h
    exact hitems
  case h_2 => cases h

/-- A checked handle is null or a string. -/
theorem of_checkHandle {fields : Json.Fields} {index : Nat} {key : Text} {u : Unit}
    (h : checkHandle fields index key = .ok u) :
    Json.Fields.get fields key = .null ∨ ∃ name, Json.Fields.get fields key = .str name := by
  unfold checkHandle at h
  split at h
  case h_1 hnull => exact .inl hnull
  case h_2 name hname => exact .inr ⟨name, hname⟩
  case h_3 => cases h

/-- The warning about a block, if its kind is unknown. -/
def warning? (index : Nat) (n : Node) : Option Warning :=
  if n.kind = .unknown then some ⟨index, n.typeName⟩ else none

/-- The warnings about blocks that are counted from an index on. -/
def warnings (index : Nat) (nodes : List Node) : List Warning :=
  (nodes.zipIdx index).filterMap fun n => warning? n.2 n.1

theorem warnings_cons (index : Nat) (n : Node) (nodes : List Node) :
    warnings index (n :: nodes) = (warning? index n).toList ++ warnings (index + 1) nodes := by
  cases h : warning? index n <;> simp [warnings, h]

/-- There is a warning at an index exactly if the block there is of unknown kind. -/
theorem mem_warnings {i : Nat} {typeName : Text} {nodes : List Node} :
    ⟨i, typeName⟩ ∈ warnings 0 nodes ↔
      ∃ n, nodes[i]? = some n ∧ n.kind = .unknown ∧ n.typeName = typeName := by
  rw [warnings, List.mem_filterMap]
  constructor
  · rintro ⟨⟨n, i'⟩, hmem, hwarning⟩
    unfold warning? at hwarning
    split at hwarning
    case isTrue hkind =>
      obtain ⟨rfl, htype⟩ := Warning.mk.inj (Option.some.inj hwarning)
      exact ⟨n, List.mem_zipIdx_iff_getElem?.1 hmem, hkind, htype⟩
    case isFalse => cases hwarning
  · rintro ⟨n, hn, hkind, rfl⟩
    exact ⟨(n, i), List.mem_zipIdx_iff_getElem?.2 hn, if_pos hkind⟩

/-- A checked entry of the block list describes a block with a new id. -/
theorem of_checkNode {strict : Bool} {ids : List Text} {index : Nat} {entry : Json} {id : Text}
    {warning : Option Warning} (h : checkNode strict ids index entry = .ok (id, warning)) :
    ∃ n, Node.Describes entry n ∧ n.id = id ∧ id ∉ ids ∧ warning = warning? index n ∧
      (strict = true → n.kind ≠ .unknown) := by
  obtain ⟨fields, hfields, h⟩ := bind_eq_ok_iff.mp h
  obtain ⟨_, -, h⟩ := bind_eq_ok_iff.mp h
  obtain ⟨_, -, h⟩ := bind_eq_ok_iff.mp h
  obtain ⟨id', hid, h⟩ := bind_eq_ok_iff.mp h
  obtain ⟨typeName, htype, h⟩ := bind_eq_ok_iff.mp h
  obtain ⟨_, hnew, h⟩ := bind_eq_ok_iff.mp h
  obtain ⟨_, hdata, h⟩ := bind_eq_ok_iff.mp h
  have hnew : id' ∉ ids := by simpa using of_require hnew
  have hdata := of_require hdata
  -- Without data the kind is that of a block without data.
  obtain ⟨data, hgiven, h⟩ : ∃ data : Json.Fields,
      (Json.Fields.get fields "data" = .obj data ∨
        Json.Fields.has fields "data" = false ∧ data = []) ∧
      (if Kind.resolve typeName data = .unknown then do
        require (!strict) (.unknownType index typeName)
        return (id', some ⟨index, typeName⟩)
      else return (id', none)) = Except.ok (id, warning) := by
    cases hget : Json.Fields.get fields "data" with
    | obj data =>
      rw [hget] at h
      exact ⟨data, .inl rfl, h⟩
    | _ =>
      rw [hget] at h hdata
      exact ⟨[], .inr ⟨by simpa [Json.isObject] using hdata, rfl⟩, h⟩
  refine ⟨⟨id', typeName, data⟩,
    ⟨fields, of_fieldsOf hfields, of_stringAt hid, of_stringAt htype, hgiven⟩, ?_⟩
  -- An unknown kind passes with a warning, and not at all in strict mode.
  split at h
  case isTrue hkind =>
    obtain ⟨_, hstrict, h⟩ := bind_eq_ok_iff.mp h
    obtain ⟨rfl, rfl⟩ := Prod.mk.inj (Except.ok.inj h)
    have hlax := of_require hstrict
    exact ⟨rfl, hnew, (if_pos hkind).symm, fun h => by simp [h] at hlax⟩
  case isFalse hkind =>
    obtain ⟨rfl, rfl⟩ := Prod.mk.inj (Except.ok.inj h)
    exact ⟨rfl, hnew, (if_neg hkind).symm, fun _ => hkind⟩

/-- What a check of the block list gives. -/
theorem of_checkNodes {strict : Bool} {ids ids' : List Text} {index : Nat} {entries : List Json}
    {ws : List Warning} (h : checkNodes strict ids index entries = (ws, .ok ids')) :
    ∃ nodes : List Node, List.Forall₂ Node.Describes entries nodes ∧
      (nodes.map (·.id)).Nodup ∧ (∀ n ∈ nodes, n.id ∉ ids) ∧
      (∀ id ∈ ids', id ∈ ids ∨ ∃ n ∈ nodes, n.id = id) ∧ ws = warnings index nodes ∧
      (strict = true → ∀ n ∈ nodes, n.kind ≠ .unknown) := by
  induction entries generalizing ids index ws with
  | nil =>
    obtain ⟨rfl, hids⟩ := Prod.mk.inj h
    obtain rfl := Except.ok.inj hids
    exact ⟨[], .nil, .nil, nofun, fun id hid => .inl hid, rfl, fun _ => nofun⟩
  | cons entry rest ih =>
    rw [checkNodes] at h
    split at h
    case h_1 => cases h
    case h_2 id warning hentry =>
      obtain ⟨n, hdescribes, rfl, hnew, rfl, hstrict⟩ := of_checkNode hentry
      obtain ⟨hws, hids⟩ := Prod.mk.inj h
      have hrest : checkNodes strict (n.id :: ids) (index + 1) rest =
          ((checkNodes strict (n.id :: ids) (index + 1) rest).1, .ok ids') :=
        Prod.ext rfl hids
      obtain ⟨nodes, hnodes, hdistinct, hfree, hsubset, hwarnings, hkinds⟩ := ih hrest
      refine ⟨n :: nodes, .cons hdescribes hnodes, ?_, ?_, ?_, ?_, ?_⟩
      -- The ids checked so far include that of the first block, so the rest is free of it.
      · refine List.nodup_cons.2 ⟨fun hmem => ?_, hdistinct⟩
        obtain ⟨m, hm, hid⟩ := List.mem_map.1 hmem
        exact hfree m hm (by simp [hid])
      · refine List.forall_mem_cons.2 ⟨hnew, fun m hm hid => ?_⟩
        exact hfree m hm (List.mem_cons_of_mem _ hid)
      · intro id hid
        -- A known id was known before, or it is that of the first block or of a later one.
        rcases hsubset id hid with hid | ⟨m, hm, hid⟩
        · rcases List.mem_cons.1 hid with rfl | hid
          · exact .inr ⟨n, List.mem_cons_self, rfl⟩
          · exact .inl hid
        · exact .inr ⟨m, List.mem_cons_of_mem _ hm, hid⟩
      · rw [← hws, hwarnings, warnings_cons]
      · intro hstrict'
        exact List.forall_mem_cons.2 ⟨hstrict hstrict', hkinds hstrict'⟩

/-- A checked entry of the arrow list describes an arrow between known ids. -/
theorem of_checkEdge {ids : List Text} {index : Nat} {entry : Json} {u : Unit}
    (h : checkEdge ids index entry = .ok u) :
    ∃ e, Edge.Describes entry e ∧ e.source ∈ ids ∧ e.target ∈ ids := by
  obtain ⟨fields, hfields, h⟩ := bind_eq_ok_iff.mp h
  obtain ⟨_, -, h⟩ := bind_eq_ok_iff.mp h
  obtain ⟨_, -, h⟩ := bind_eq_ok_iff.mp h
  obtain ⟨source, hsource, h⟩ := bind_eq_ok_iff.mp h
  obtain ⟨target, htarget, h⟩ := bind_eq_ok_iff.mp h
  obtain ⟨_, hsourceHandle, h⟩ := bind_eq_ok_iff.mp h
  obtain ⟨_, htargetHandle, h⟩ := bind_eq_ok_iff.mp h
  obtain ⟨_, hknown, h⟩ := bind_eq_ok_iff.mp h
  refine ⟨⟨source, target, _, _, _⟩, ⟨fields, of_fieldsOf hfields, of_stringAt hsource,
    of_stringAt htarget, rfl, rfl, ?_, rfl⟩, ?_, ?_⟩
  · simp only [List.forall_mem_cons]
    exact ⟨of_checkHandle hsourceHandle, of_checkHandle htargetHandle, nofun⟩
  · simpa using of_require hknown
  · simpa using of_require h

/-- A checked list of arrows describes arrows between known ids. -/
theorem of_checkEdges {ids : List Text} {index : Nat} {entries : List Json} {u : Unit}
    (h : checkEdges ids index entries = .ok u) :
    ∃ edges : List Edge, List.Forall₂ Edge.Describes entries edges ∧
      ∀ e ∈ edges, e.source ∈ ids ∧ e.target ∈ ids := by
  induction entries generalizing index with
  | nil => exact ⟨[], .nil, nofun⟩
  | cons entry rest ih =>
    obtain ⟨_, hentry, h⟩ := bind_eq_ok_iff.mp h
    obtain ⟨e, hdescribes, hends⟩ := of_checkEdge hentry
    obtain ⟨edges, hedges, hknown⟩ := ih h
    exact ⟨e :: edges, .cons hdescribes hedges, List.forall_mem_cons.2 ⟨hends, hknown⟩⟩

/-- The two lists are those of the diagram, be it wrapped in a project or not. -/
theorem of_parts {j : Json} {nodes edges : List Json} (h : parts j = .ok (nodes, edges)) :
    ∃ fields, unwrap j = .obj fields ∧ Json.Fields.get fields "nodes" = .arr nodes ∧
      Json.Fields.get fields "edges" = .arr edges := by
  obtain ⟨fields, hfields, h⟩ := bind_eq_ok_iff.mp h
  obtain ⟨_, -, h⟩ := bind_eq_ok_iff.mp h
  obtain ⟨_, -, h⟩ := bind_eq_ok_iff.mp h
  obtain ⟨nodes', hnodes, h⟩ := bind_eq_ok_iff.mp h
  obtain ⟨edges', hedges, h⟩ := bind_eq_ok_iff.mp h
  obtain ⟨rfl, rfl⟩ := Prod.mk.inj (Except.ok.inj h)
  have hnodes := of_listAt hnodes
  have hedges := of_listAt hedges
  exact ⟨fields, of_fieldsOf hfields, hnodes, hedges⟩

/-- A diagram is let through when both of its lists pass their checks. -/
theorem of_validate {strict : Bool} {j : Json} {ws : List Warning} {nodes edges : List Json}
    (h : validate strict j = (ws, .ok (nodes, edges))) :
    parts j = .ok (nodes, edges) ∧ ∃ ids, checkNodes strict [] 0 nodes = (ws, .ok ids) ∧
      checkEdges ids 0 edges = .ok () := by
  unfold validate at h
  split at h
  case h_1 => cases h
  case h_2 nodes' edges' hparts =>
    dsimp only at h
    split at h
    case h_1 => cases h
    case h_2 ids hids =>
      obtain ⟨rfl, hresult⟩ := Prod.mk.inj h
      cases hedges : checkEdges ids 0 edges' with
      | error violation =>
        rw [hedges] at hresult
        cases hresult
      | ok =>
        rw [hedges] at hresult
        obtain ⟨rfl, rfl⟩ := Prod.mk.inj (Except.ok.inj hresult)
        exact ⟨hparts, ids, Prod.ext rfl hids, hedges⟩

end Schema

/-! ## Building what was checked -/

/-- What holds of a diagram that was checked and then read from its two lists. -/
structure Schema.Lossless (strict : Bool) (ws : List Warning) (nodes edges : List Json)
    (g : Diagram) : Prop where
  /-- Nothing is dropped, and nothing is reported. -/
  loaded : Diagram.load (.arr nodes) (.arr edges) = (.ok g, [])
  /-- The blocks are the entries of the first list, in order. -/
  nodes : List.Forall₂ Node.Describes nodes g.nodes
  /-- The arrows are the entries of the second list, in order. -/
  edges : List.Forall₂ Edge.Describes edges g.edges
  closed : g.Closed
  /-- No missing block is noticed in a build. -/
  unbroken : ∀ expand id, .missing id ∉ g.buildEvents expand
  /-- A list of the program ends only where there is no target or where the target is taken. -/
  ends : ∀ expand kept earlier target, g.Slot expand (g.build expand) kept earlier target [] →
    ∀ id ∈ target, Diagram.Taken kept earlier id
  /-- The warnings are about the blocks of unknown kind, of which there are none in strict mode. -/
  warned : ∀ i n, g.nodes[i]? = some n →
    (n.kind = .unknown ↔ ⟨i, n.typeName⟩ ∈ ws) ∧ (strict = true → n.kind ≠ .unknown)
  /-- An unknown statement is that of an entry block or of one that was warned of. -/
  unknown : ∀ expand kind data id, .unknown kind data id ∈ (g.build expand).walk →
    ∃ i n, g.nodes[i]? = some n ∧ n.statement = .unknown kind data id ∧
      (n.kind = .entry ∨ strict = false ∧ ⟨i, n.typeName⟩ ∈ ws)

/-- Only an entry block and a block of unknown kind have an unknown statement. -/
theorem Node.kind_of_statement_eq_unknown {n : Node} {kind : Text} {data : Json.Fields}
    {id : Option Text} (h : n.statement = .unknown kind data id) :
    n.kind = .entry ∨ n.kind = .unknown := by
  unfold Node.statement at h
  cases hkind : n.kind <;> simp_all

/-- An unknown statement of a built program is that of an entry block or of one of unknown kind. -/
theorem Diagram.exists_node_of_unknown_mem_build {g : Diagram} {expand : Bool} {kind : Text}
    {data : Json.Fields} {id : Option Text} (h : .unknown kind data id ∈ (g.build expand).walk) :
    ∃ (i : Nat) (n : Node), g.nodes[i]? = some n ∧ n.statement = .unknown kind data id ∧
      (n.kind = .entry ∨ n.kind = .unknown) := by
  obtain ⟨n, hn, hshell⟩ := exists_node_of_mem_walk_build h
  obtain ⟨i, hi⟩ := List.mem_iff_getElem?.1 hn
  have hstatement : n.statement = .unknown kind data id := hshell.symm
  exact ⟨i, n, hi, hstatement, Node.kind_of_statement_eq_unknown hstatement⟩

/-- A diagram that the schema lets through is read without loss from its two lists, it is closed,
and each unknown statement of its program is that of an entry block or of one the schema warned
of. -/
theorem Schema.lossless_of_validate {strict : Bool} {j : Json} {ws : List Warning}
    {nodes edges : List Json} (h : validate strict j = (ws, .ok (nodes, edges))) :
    (∃ fields, unwrap j = .obj fields ∧ Json.Fields.get fields "nodes" = .arr nodes ∧
      Json.Fields.get fields "edges" = .arr edges) ∧
    ∃ g, Lossless strict ws nodes edges g := by
  obtain ⟨hparts, ids, hnodes, hedges⟩ := of_validate h
  obtain ⟨blocks, hblocks, hdistinct, -, hids, rfl, hstrict⟩ := of_checkNodes hnodes
  obtain ⟨arrows, harrows, hends⟩ := of_checkEdges hedges
  have hknown {id : Text} (hid : id ∈ ids) : ∃ n ∈ blocks, n.id = id :=
    (hids id hid).resolve_left List.not_mem_nil
  let g : Diagram := ⟨blocks, arrows⟩
  have hclosed : g.Closed :=
    ⟨hdistinct, fun e he => hknown (hends e he).1, fun e he => hknown (hends e he).2⟩
  have hwarned (i : Nat) (n : Node) (hn : g.nodes[i]? = some n) :
      n.kind = .unknown ↔ ⟨i, n.typeName⟩ ∈ warnings 0 blocks := by
    rw [mem_warnings]
    constructor
    · exact fun hkind => ⟨n, hn, hkind, rfl⟩
    · rintro ⟨m, hm, hkind, -⟩
      obtain rfl : n = m := Option.some.inj (hn.symm.trans hm)
      exact hkind
  have hknownKind (i : Nat) (n : Node) (hn : g.nodes[i]? = some n) (h : strict = true) :
      n.kind ≠ .unknown :=
    hstrict h n (List.mem_of_getElem? hn)
  refine ⟨of_parts hparts, g, ?_⟩
  exact {
    loaded := Diagram.load_of_describes hblocks harrows
    nodes := hblocks
    edges := harrows
    closed := hclosed
    unbroken := fun expand id => hclosed.unbroken_build expand id
    ends := fun expand kept earlier target hslot id hid => hclosed.taken_of_slot_nil hslot hid
    warned := fun i n hn => ⟨hwarned i n hn, hknownKind i n hn⟩
    unknown := fun expand kind data id hmem => by
      obtain ⟨i, n, hn, hstatement, hkind⟩ := Diagram.exists_node_of_unknown_mem_build hmem
      refine ⟨i, n, hn, hstatement, hkind.imp_right fun hkind => ⟨?_, (hwarned i n hn).1 hkind⟩⟩
      exact Bool.eq_false_iff.2 fun h => hknownKind i n hn h hkind }

/-- A saved project with a block of unknown type passes with a warning and is read without loss. -/
theorem Schema.lossless_of_validate_project : ∃ nodes edges : List Json,
    validate false (.obj [("name", .str "demo"), ("diagram", .obj [
      ("nodes", .arr [.obj [("id", .str "s"), ("type", .str "start")],
        .obj [("id", .str "a"), ("type", .str "mystery"), ("data", .obj [])],
        .obj [("id", .str "b"), ("type", .str "print"), ("data", .obj [("value", .str "1")])]]),
      ("edges", .arr [.obj [("source", .str "s"), ("target", .str "a"), ("sourceHandle", .null)],
        .obj [("source", .str "a"), ("target", .str "b"), ("sourceHandle", .str "next")]])])]) =
      ([⟨1, "mystery"⟩], .ok (nodes, edges)) ∧
    ∃ g, Lossless false [⟨1, "mystery"⟩] nodes edges g := by
  refine ⟨_, _, (and_iff_left_of_imp fun h => ?_).2 rfl⟩
  exact (lossless_of_validate h).2

end BlockFlow
