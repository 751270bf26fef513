import BlockFlow.Proofs.Diagram.Validation

/-!
# What the schema accepts

The schema as a condition on the saved value (`Schema.Conforms`), without the order in which a check
goes through it: the two lists are there, every entry has the shape of a block or of an arrow, ids
are distinct, arrows join listed blocks, and in strict mode every kind is known. A value passes the
check exactly when it meets the condition, and the warnings can be read off the list of blocks.
-/

namespace BlockFlow

/-! ## Shapes -/

namespace Json

/-- Whether a value is a string. -/
def isString : Json → Bool
  | .str _ => true
  | _ => false

/-- Whether a value is an object with a certain field, be it null or not. -/
def has (j : Json) (key : Text) : Bool :=
  match j with
  | .obj fields => Fields.has fields key
  | _ => false

/-- The fields of a value; what is not an object has none. -/
def fields : Json → Fields
  | .obj fields => fields
  | _ => []

/-- The values that are strings. -/
theorem isString_iff {j : Json} : j.isString = true ↔ ∃ s, j = .str s := by
  cases j <;> simp [isString]

/-- The values that are objects. -/
theorem isObject_iff {j : Json} : j.isObject = true ↔ ∃ fields, j = .obj fields := by
  cases j <;> simp [isObject]

/-- A field that is not null is present. -/
theorem Fields.has_of_get_ne_null {fields : Fields} {key : Text}
    (h : Fields.get fields key ≠ .null) : Fields.has fields key = true := by
  by_contra hhas
  exact h (Fields.get_of_not_has (Bool.eq_false_iff.2 hhas))

end Json

/-- The block that an entry of the block list stands for. -/
def Node.ofEntry (entry : Json) : Node :=
  ⟨(entry.get "id").text, (entry.get "type").text, (entry.get "data").fields⟩

namespace Schema

/-- The shape of an entry of the block list. -/
structure IsBlock (entry : Json) : Prop where
  object : entry.isObject = true
  id : (entry.get "id").isString = true
  type : (entry.get "type").isString = true
  data : entry.has "data" = true → (entry.get "data").isObject = true

/-- The shape of an entry of the arrow list, where certain ids are listed. -/
structure IsArrow (ids : List Json) (entry : Json) : Prop where
  object : entry.isObject = true
  ends : ∀ key ∈ [Text.ofString "source", "target"],
    (entry.get key).isString = true ∧ entry.get key ∈ ids
  handles : ∀ key ∈ [Text.ofString "sourceHandle", "targetHandle"],
    entry.get key ≠ .null → (entry.get key).isString = true

/-- A saved value holds a diagram with two lists of entries. -/
structure Conforms (strict : Bool) (j : Json) (nodes edges : List Json) : Prop where
  object : (unwrap j).isObject = true
  nodeList : (unwrap j).get "nodes" = .arr nodes
  edgeList : (unwrap j).get "edges" = .arr edges
  blocks : ∀ entry ∈ nodes, IsBlock entry
  distinct : (nodes.map (·.get "id")).Nodup
  known : strict = true → ∀ entry ∈ nodes, (Node.ofEntry entry).kind ≠ .unknown
  arrows : ∀ entry ∈ edges, IsArrow (nodes.map (·.get "id")) entry

/-! ## Entries as blocks and arrows -/

variable {strict : Bool} {entry : Json} {n : Node}

/-- Only one block is described by an entry. -/
theorem eq_ofEntry_of_describes (h : Node.Describes entry n) : n = Node.ofEntry entry := by
  obtain ⟨fields, rfl, hid, htype, hdata⟩ := h
  obtain ⟨id, typeName, data⟩ := n
  simp only [Node.ofEntry, Json.get, hid, htype, Node.mk.injEq]
  refine ⟨rfl, rfl, ?_⟩
  rcases hdata with hdata | ⟨hdata, rfl⟩
  · rw [hdata]
    rfl
  · rw [Json.Fields.get_of_not_has hdata]
    rfl

/-- An entry that describes a block has the shape of one. -/
theorem isBlock_of_describes (h : Node.Describes entry n) : IsBlock entry := by
  obtain ⟨fields, rfl, hid, htype, hdata⟩ := h
  refine ⟨rfl, ?_, ?_, ?_⟩
  · rw [Json.get, hid]
    rfl
  · rw [Json.get, htype]
    rfl
  · intro hhas
    rcases hdata with hdata | ⟨hdata, -⟩
    · rw [Json.get, hdata]
      rfl
    · rw [Json.has, hdata] at hhas
      cases hhas

/-- The id of an entry is the id of the block it describes. -/
theorem get_id_of_describes (h : Node.Describes entry n) : entry.get "id" = .str n.id := by
  obtain ⟨fields, rfl, hid, -⟩ := h
  exact hid

/-- An entry of the right shape describes the block it stands for. -/
theorem describes_ofEntry (h : IsBlock entry) : Node.Describes entry (Node.ofEntry entry) := by
  obtain ⟨fields, rfl⟩ := Json.isObject_iff.1 h.object
  obtain ⟨id, hid⟩ := Json.isString_iff.1 h.id
  obtain ⟨typeName, htype⟩ := Json.isString_iff.1 h.type
  refine ⟨fields, rfl, ?_, ?_, ?_⟩
  · rw [Node.ofEntry, hid]
    exact hid
  · rw [Node.ofEntry, htype]
    exact htype
  · by_cases hhas : Json.Fields.has fields "data" = true
    · obtain ⟨data, hdata⟩ := Json.isObject_iff.1 (h.data hhas)
      rw [Node.ofEntry, hdata]
      exact .inl hdata
    · have hhas := Bool.eq_false_iff.2 hhas
      have hnull : (Json.obj fields).get "data" = .null := Json.Fields.get_of_not_has hhas
      rw [Node.ofEntry, hnull]
      exact .inr ⟨hhas, rfl⟩

/-- An entry that describes an arrow between listed ids has the shape of one. -/
theorem isArrow_of_describes {ids : List Json} {e : Edge} (h : Edge.Describes entry e)
    (hsource : .str e.source ∈ ids) (htarget : .str e.target ∈ ids) : IsArrow ids entry := by
  obtain ⟨fields, rfl, hsource', htarget', hsourceHandle, htargetHandle, hhandles, -⟩ := h
  have hhandle (handle : Json) (hmem : handle ∈ [e.sourceHandle, e.targetHandle])
      (hnull : handle ≠ .null) : handle.isString = true :=
    Json.isString_iff.2 ((hhandles handle hmem).resolve_left hnull)
  refine ⟨rfl, ?_, ?_⟩
  · simp only [List.forall_mem_cons, Json.get, hsource', htarget']
    exact ⟨⟨rfl, hsource⟩, ⟨rfl, htarget⟩, nofun⟩
  · simp only [List.forall_mem_cons, Json.get, hsourceHandle, htargetHandle]
    exact ⟨hhandle _ (by simp), hhandle _ (by simp), nofun⟩

/-! ## Checks that succeed -/

/-- A condition that holds is let through. -/
theorem require_of {condition : Bool} (h : condition = true) (violation : Violation) :
    require condition violation = .ok () :=
  if_pos h

/-- A field that is not null is there. -/
theorem require_has_of {fields : Json.Fields} {key : Text} {value : Json}
    (h : Json.Fields.get fields key = value) (hvalue : value ≠ .null) (violation : Violation) :
    require (Json.Fields.has fields key) violation = .ok () :=
  require_of (Json.Fields.has_of_get_ne_null (h ▸ hvalue)) violation

/-- A string is found where it is. -/
theorem stringAt_of {fields : Json.Fields} {key s : Text} (h : Json.Fields.get fields key = .str s)
    (violation : Violation) : stringAt fields key violation = .ok s := by
  simp only [stringAt, h]

/-- A list is found where it is. -/
theorem listAt_of {fields : Json.Fields} {part : Part} {items : List Json}
    (h : Json.Fields.get fields part.name = .arr items) : listAt fields part = .ok items := by
  simp only [listAt, h]

/-- A handle passes if it is null or a string. -/
theorem checkHandle_of {fields : Json.Fields} {key : Text} (index : Nat)
    (h : Json.Fields.get fields key ≠ .null → (Json.Fields.get fields key).isString = true) :
    checkHandle fields index key = .ok () := by
  unfold checkHandle
  cases hget : Json.Fields.get fields key <;> simp_all [Json.isString]

/-- The end of a check of a block, where its kind decides. -/
theorem checkKind_of {n : Node} (hknown : strict = true → n.kind ≠ .unknown) (index : Nat) :
    (if n.kind = .unknown then do
      require (!strict) (.unknownType index n.typeName)
      return (n.id, some ⟨index, n.typeName⟩)
    else return (n.id, none)) = Except.ok (n.id, warning? index n) := by
  -- Only an unknown kind is looked at again, and in strict mode there is none.
  by_cases hkind : n.kind = .unknown
  · have hlax : (!strict) = true := by
      rw [Bool.not_eq_true']
      exact Bool.eq_false_iff.2 fun h => hknown h hkind
    rw [if_pos hkind, require_of hlax, warning?, if_pos hkind]
    rfl
  · rw [if_neg hkind, warning?, if_neg hkind]
    rfl

/-- An entry that describes a block passes if the id is new and the kind need not or can be
known. -/
theorem checkNode_of_describes {ids : List Text} (h : Node.Describes entry n) (hnew : n.id ∉ ids)
    (hknown : strict = true → n.kind ≠ .unknown) (index : Nat) :
    checkNode strict ids index entry = .ok (n.id, warning? index n) := by
  obtain ⟨fields, rfl, hid, htype, hdata⟩ := h
  have hfresh : (!ids.contains n.id) = true := by simpa using hnew
  have hend := checkKind_of hknown index
  refine bind_of rfl ?_
  refine bind_of (require_has_of hid nofun _) ?_
  refine bind_of (require_has_of htype nofun _) ?_
  refine bind_of (stringAt_of hid _) ?_
  refine bind_of (stringAt_of htype _) ?_
  refine bind_of (require_of hfresh _) ?_
  -- The data may be missing, but not be anything other than an object.
  rcases hdata with hdata | ⟨hdata, hnil⟩
  · rw [hdata]
    exact bind_of (require_of (by simp [Json.isObject]) _) hend
  · rw [Json.Fields.get_of_not_has hdata, hdata]
    rw [Node.kind, hnil] at hend
    exact bind_of rfl hend

/-- Entries that describe blocks with new and distinct ids pass one after the other. -/
theorem checkNodes_of_describes {entries : List Json} {nodes : List Node} {ids : List Text}
    (h : List.Forall₂ Node.Describes entries nodes) (hdistinct : (nodes.map (·.id)).Nodup)
    (hnew : ∀ n ∈ nodes, n.id ∉ ids) (hknown : strict = true → ∀ n ∈ nodes, n.kind ≠ .unknown)
    (index : Nat) :
    checkNodes strict ids index entries =
      (warnings index nodes, .ok ((nodes.map (·.id)).reverse ++ ids)) := by
  induction h generalizing ids index with
  | nil => rfl
  | @cons entry n entries nodes hentry _ ih =>
    rw [List.map_cons, List.nodup_cons] at hdistinct
    rw [List.forall_mem_cons] at hnew
    have hcheck := checkNode_of_describes hentry hnew.1
      (fun h => hknown h n List.mem_cons_self) index
    -- The ids that were seen grow with every entry, so the induction runs over them.
    have hnew' : ∀ m ∈ nodes, m.id ∉ n.id :: ids := by
      intro m hm hmem
      rcases List.mem_cons.1 hmem with hid | hmem
      · exact hdistinct.1 (hid ▸ List.mem_map_of_mem hm)
      · exact hnew.2 m hm hmem
    have hrest := ih hdistinct.2 hnew' (fun h m hm => hknown h m (List.mem_cons_of_mem _ hm))
      (index + 1)
    simp [checkNodes, hcheck, hrest, warnings_cons]

/-- An arrow between listed ids passes. -/
theorem checkEdge_of_isArrow {ids : List Text} (h : IsArrow (ids.map .str) entry) (index : Nat) :
    checkEdge ids index entry = .ok () := by
  obtain ⟨fields, rfl⟩ := Json.isObject_iff.1 h.object
  obtain ⟨⟨hsource, hsourceMem⟩, ⟨htarget, htargetMem⟩, -⟩ := by
    simpa only [List.forall_mem_cons] using h.ends
  obtain ⟨hsourceHandle, htargetHandle, -⟩ := by
    simpa only [List.forall_mem_cons] using h.handles
  obtain ⟨source, hsource⟩ := Json.isString_iff.1 hsource
  obtain ⟨target, htarget⟩ := Json.isString_iff.1 htarget
  have hmem {key id : Text} (hget : (Json.obj fields).get key = .str id)
      (hlisted : (Json.obj fields).get key ∈ ids.map .str) : ids.contains id = true := by
    rw [hget] at hlisted
    simpa using hlisted
  -- The ids are compared as texts, but listed as values.
  refine bind_of rfl ?_
  refine bind_of (require_has_of hsource nofun _) ?_
  refine bind_of (require_has_of htarget nofun _) ?_
  refine bind_of (stringAt_of hsource _) ?_
  refine bind_of (stringAt_of htarget _) ?_
  refine bind_of (checkHandle_of index hsourceHandle) ?_
  refine bind_of (checkHandle_of index htargetHandle) ?_
  refine bind_of (require_of (hmem hsource hsourceMem) _) ?_
  exact require_of (hmem htarget htargetMem) _

/-- Arrows between listed ids pass one after the other. -/
theorem checkEdges_of_isArrow (ids : List Text) {entries : List Json}
    (h : ∀ entry ∈ entries, IsArrow (ids.map .str) entry) (index : Nat) :
    checkEdges ids index entries = .ok () := by
  induction entries generalizing index with
  | nil => rfl
  | cons entry rest ih =>
    rw [List.forall_mem_cons] at h
    exact bind_of (checkEdge_of_isArrow h.1 index) (ih h.2 (index + 1))

/-- The two lists are found in an object that has them. -/
theorem parts_of {j : Json} {nodes edges : List Json} (hobject : (unwrap j).isObject = true)
    (hnodes : (unwrap j).get "nodes" = .arr nodes) (hedges : (unwrap j).get "edges" = .arr edges) :
    parts j = .ok (nodes, edges) := by
  obtain ⟨fields, hfields⟩ := Json.isObject_iff.1 hobject
  rw [hfields] at hnodes hedges
  refine bind_of (a := fields) (by rw [hfields]; rfl) ?_
  refine bind_of (require_has_of hnodes nofun _) ?_
  refine bind_of (require_has_of hedges nofun _) ?_
  refine bind_of (listAt_of hnodes) ?_
  exact bind_of (listAt_of hedges) rfl

/-! ## Checked values -/

/-- Entries of the right shape are those that describe the blocks they stand for. -/
theorem forall₂_ofEntry_iff {entries : List Json} :
    List.Forall₂ Node.Describes entries (entries.map Node.ofEntry) ↔
      ∀ entry ∈ entries, IsBlock entry := by
  rw [List.forall₂_map_right_iff, List.forall₂_same]
  exact forall₂_congr fun entry _ => ⟨isBlock_of_describes, describes_ofEntry⟩

/-- The blocks that entries describe are those the entries stand for. -/
theorem eq_map_ofEntry {entries : List Json} {nodes : List Node}
    (h : List.Forall₂ Node.Describes entries nodes) : nodes = entries.map Node.ofEntry := by
  induction h with
  | nil => rfl
  | cons h _ ih => rw [List.map_cons, ← ih, ← eq_ofEntry_of_describes h]

/-- The ids of the listed blocks, as values and as texts. -/
theorem map_get_id {entries : List Json} {nodes : List Node}
    (h : List.Forall₂ Node.Describes entries nodes) :
    entries.map (·.get "id") = (nodes.map (·.id)).map .str := by
  induction h with
  | nil => rfl
  | cons h _ ih => rw [List.map_cons, List.map_cons, List.map_cons, ih, get_id_of_describes h]

/-- Strings with different texts are different values. -/
theorem str_injective : Function.Injective Json.str :=
  fun _ _ h => Json.str.inj h

/-- Arrows that pass lead between listed ids. -/
theorem isArrow_of_checkEdges {ids : List Text} {index : Nat} {entries : List Json} {u : Unit}
    (h : checkEdges ids index entries = .ok u) :
    ∀ entry ∈ entries, IsArrow (ids.map .str) entry := by
  induction entries generalizing index with
  | nil => exact List.forall_mem_nil _
  | cons entry rest ih =>
    obtain ⟨_, hentry, h⟩ := bind_eq_ok_iff.mp h
    obtain ⟨e, he, hsource, htarget⟩ := of_checkEdge hentry
    have harrow :=
      isArrow_of_describes he (List.mem_map_of_mem hsource) (List.mem_map_of_mem htarget)
    exact List.forall_mem_cons.2 ⟨harrow, ih h⟩

/-- An arrow may lead to any of the listed ids. -/
theorem IsArrow.mono {ids ids' : List Json} (h : IsArrow ids entry) (hsubset : ids ⊆ ids') :
    IsArrow ids' entry :=
  ⟨h.object, fun key hkey => (h.ends key hkey).imp_right (@hsubset _), h.handles⟩

/-- What the check lets through conforms, and has the warnings of its blocks. -/
theorem conforms_of_validate {j : Json} {ws : List Warning} {nodes edges : List Json}
    (h : validate strict j = (ws, .ok (nodes, edges))) :
    Conforms strict j nodes edges ∧ ws = warnings 0 (nodes.map Node.ofEntry) := by
  obtain ⟨hparts, ids, hnodes, hedges⟩ := of_validate h
  obtain ⟨fields, hfields, hnodeList, hedgeList⟩ := of_parts hparts
  obtain ⟨blocks, hblocks, hdistinct, -, hids, rfl, hstrict⟩ := of_checkNodes hnodes
  have hlisted : ids.map Json.str ⊆ nodes.map (·.get "id") := by
    rw [map_get_id hblocks]
    refine List.map_subset _ fun id hid => ?_
    obtain ⟨n, hn, rfl⟩ := (hids id hid).resolve_left List.not_mem_nil
    -- The check lists the ids last first; for an arrow their order makes no difference.
    exact List.mem_map_of_mem hn
  obtain rfl := eq_map_ofEntry hblocks
  refine ⟨?_, rfl⟩
  exact {
    object := by rw [hfields]; rfl
    nodeList := by rw [hfields]; exact hnodeList
    edgeList := by rw [hfields]; exact hedgeList
    blocks := forall₂_ofEntry_iff.1 hblocks
    distinct := by
      rw [map_get_id hblocks]
      exact hdistinct.map str_injective
    known := fun h entry hentry => hstrict h _ (List.mem_map_of_mem hentry)
    arrows := fun entry hentry => (isArrow_of_checkEdges hedges entry hentry).mono hlisted }

/-- What conforms is let through, with the warnings of its blocks. -/
theorem validate_of_conforms {j : Json} {nodes edges : List Json}
    (h : Conforms strict j nodes edges) :
    validate strict j = (warnings 0 (nodes.map Node.ofEntry), .ok (nodes, edges)) := by
  have hblocks := forall₂_ofEntry_iff.2 h.blocks
  have hdistinct := h.distinct
  have harrows := h.arrows
  rw [map_get_id hblocks] at hdistinct harrows
  have hnew : ∀ n ∈ nodes.map Node.ofEntry, n.id ∉ [] := fun _ _ => List.not_mem_nil
  have hnodes := checkNodes_of_describes hblocks (List.Nodup.of_map _ hdistinct) hnew
    (fun hstrict => by simpa using h.known hstrict) 0
  have hedges := checkEdges_of_isArrow (((nodes.map Node.ofEntry).map (·.id)).reverse ++ [])
    (fun entry hentry => (harrows entry hentry).mono (by simp)) 0
  simp only [validate, parts_of h.object h.nodeList h.edgeList, hnodes, hedges]
  rfl

/-- A value is let through exactly when it conforms to the schema, and then there is one warning for
each block of unknown kind, in the order of the blocks. -/
theorem validate_accepts_iff_conforms (strict : Bool) (j : Json) (ws : List Warning)
    (nodes edges : List Json) :
    validate strict j = (ws, .ok (nodes, edges)) ↔
      Conforms strict j nodes edges ∧ ws = warnings 0 (nodes.map Node.ofEntry) := by
  constructor
  · exact conforms_of_validate
  · rintro ⟨h, rfl⟩
    exact validate_of_conforms h

end Schema

end BlockFlow
