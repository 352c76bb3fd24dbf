import Flowline.Proofs.Fields
import Flowline.Proofs.Graph.Index
import Flowline.Proofs.Graph.Kind
import Mathlib.Data.List.Forall2

/-!
# The index of a submission

The ids of an accepted submission are the plain texts of the submitted ones, and no two are alike.
So the tables of its index are what a search of the lists of nodes and edges finds: the node with an
id, the targets of an id, how many edges lead to it, and where a walk begins. Every edge is counted
once, also one that comes again, leads back or names an id that is no node's.
-/

namespace Flowline

-- ---------------------------------------------------------------------------
-- Submitted ids
-- ---------------------------------------------------------------------------

namespace Loaded

variable {fields : Fields Value} {name : String} {default a : α} {read : Value → Loaded α}

theorem field_singleton_eq_accepted_iff :
    field fields [name] default read = .accepted a ↔
      (∃ v, Fields.find? fields name = some v ∧ read v = .accepted a) ∨
        Fields.find? fields name = none ∧ default = a := by
  rw [field, firstOf?]
  cases Fields.find? fields name <;> simp [firstOf?]

theorem required_eq_accepted_iff :
    required fields name read = .accepted a ↔
      ∃ v, Fields.find? fields name = some v ∧ read v = .accepted a := by
  rw [required]
  cases Fields.find? fields name <;> simp [problem]

theorem forall₂_of_items {read : α → Loaded β} {start : Nat} {xs : List α} {ys : List β}
    (accepted : items read start xs = .accepted ys) :
    List.Forall₂ (fun x y => read x = .accepted y) xs ys := by
  induction xs generalizing start ys with
  | nil =>
    cases accepted
    exact .nil
  | cons x xs ih =>
    simp only [items, fmap_eq_map, seq_eq_accepted_iff, map_eq_accepted_iff,
      under_eq_accepted_iff] at accepted
    obtain ⟨_, ys, ⟨y, first, rfl⟩, others, rfl⟩ := accepted
    exact .cons first (ih others)

end Loaded

namespace Value

def plainText : Value → String
  | .null => ""
  | v => v.display

def textAt (name : String) : Value → String
  | .record fields => ((Fields.find? fields name).getD .null).plainText
  | _ => ""

def itemsAt (name : String) : Value → List Value
  | .record fields =>
    match Fields.find? fields name with
    | some (.list items) => items
    | _ => []
  | _ => []

variable {v : Value} {s name : String} {fields : Fields Value}

theorem eq_of_readText (read : v.readText = .accepted s) : s = v.plainText := by
  cases v with
  | null => exact (Loaded.accepted.inj read).symm
  | _ =>
    rw [readText.eq_def] at read
    dsimp only at read
    split at read
    · exact (Loaded.accepted.inj read).symm
    · cases read

theorem eq_of_readPlainText (read : v.readPlainText = .accepted s) : s = v.plainText := by
  cases v with
  | text t => exact (Loaded.accepted.inj read).symm
  | _ => cases read

theorem eq_of_required {read : Value → Loaded String}
    (each : ∀ {v s}, read v = .accepted s → s = v.plainText)
    (accepted : Loaded.required fields name read = .accepted s) :
    s = (record fields).textAt name := by
  obtain ⟨v, found, accepted⟩ := Loaded.required_eq_accepted_iff.mp accepted
  rw [textAt, found, Option.getD_some]
  exact each accepted

end Value

theorem Node.id_of_load {v : Value} {node : Node} (accepted : load v = .accepted node) :
    node.id = v.textAt "id" := by
  cases v with
  | record fields =>
    rw [load] at accepted
    split at accepted
    · exact Value.eq_of_required Value.eq_of_readText (loadFields_eq_accepted_iff.mp accepted).1
    · obtain ⟨_, -, accepted⟩ := Loaded.andThen_eq_accepted_iff.mp accepted
      obtain ⟨_, -, accepted⟩ := Loaded.andThen_eq_accepted_iff.mp accepted
      exact Value.eq_of_required Value.eq_of_readText (loadFields_eq_accepted_iff.mp accepted).1
  | _ => cases accepted

theorem Edge.eq_of_load {v : Value} {edge : Edge} (accepted : load v = .accepted edge) :
    edge = ⟨v.textAt "source", v.textAt "target"⟩ := by
  cases v with
  | record fields =>
    simp only [load, Loaded.fmap_eq_map, Loaded.seq_eq_accepted_iff,
      Loaded.map_eq_accepted_iff] at accepted
    obtain ⟨_, _, ⟨_, source, rfl⟩, target, rfl⟩ := accepted
    rw [Value.eq_of_required Value.eq_of_readPlainText source,
      Value.eq_of_required Value.eq_of_readPlainText target]
  | _ => cases accepted

namespace Graph

variable {v : Value} {graph : Graph}

theorem forall₂_of_readList {read : Value → Loaded α} {xs : List α}
    (accepted : readList read v = .accepted xs) :
    ∃ items, v = .list items ∧ List.Forall₂ (fun item x => read item = .accepted x) items xs := by
  cases v with
  | list items => exact ⟨items, rfl, Loaded.forall₂_of_items accepted⟩
  | _ => cases accepted

theorem nodes_of_check {found : Value} {nodes : List Node} {population : Population}
    (accepted : Population.check found nodes = .accepted population) :
    population.nodes = nodes := by
  rw [Population.check] at accepted
  split at accepted
  · cases accepted
    rfl
  · cases accepted

theorem parts_of_load (accepted : load v = .accepted graph) :
    List.Forall₂ (fun item node => Node.load item = .accepted node) (v.itemsAt "nodes")
        graph.nodes ∧
      List.Forall₂ (fun item edge => Edge.load item = .accepted edge) (v.itemsAt "edges")
        graph.edges := by
  cases v with
  | record fields =>
    simp only [load, Loaded.fmap_eq_map, Loaded.seq_eq_accepted_iff,
      Loaded.map_eq_accepted_iff] at accepted
    obtain ⟨_, input, ⟨_, edges, ⟨population, populated, rfl⟩, linked, rfl⟩, -, rfl⟩ := accepted
    rw [Loaded.field_singleton_eq_accepted_iff] at populated linked
    constructor
    · rcases populated with ⟨w, found, populated⟩ | ⟨absent, rfl⟩
      · obtain ⟨nodes, read, checked⟩ := Loaded.andThen_eq_accepted_iff.mp populated
        obtain ⟨items, rfl, each⟩ := forall₂_of_readList read
        obtain rfl := nodes_of_check checked
        rw [Value.itemsAt, found]
        exact each
      · rw [Value.itemsAt, absent]
        exact .nil
    · rcases linked with ⟨w, found, linked⟩ | ⟨absent, rfl⟩
      · obtain ⟨items, rfl, each⟩ := forall₂_of_readList linked
        rw [Value.itemsAt, found]
        exact each
      · rw [Value.itemsAt, absent]
        exact .nil
  | _ => cases accepted

theorem map_eq_of_forall₂ {R : α → β → Prop} {f : α → γ} {g : β → γ} {xs : List α} {ys : List β}
    (each : List.Forall₂ R xs ys) (same : ∀ x y, R x y → g y = f x) : ys.map g = xs.map f := by
  induction each with
  | nil => rfl
  | cons first _ ih => rw [List.map_cons, List.map_cons, same _ _ first, ih]

theorem ids_of_load (accepted : load v = .accepted graph) :
    graph.nodes.map Node.id = (v.itemsAt "nodes").map (Value.textAt "id") :=
  map_eq_of_forall₂ (parts_of_load accepted).1 fun _ _ => Node.id_of_load

theorem edges_of_load (accepted : load v = .accepted graph) :
    graph.edges = (v.itemsAt "edges").map fun item =>
      ⟨item.textAt "source", item.textAt "target"⟩ := by
  rw [← List.map_id graph.edges]
  exact map_eq_of_forall₂ (parts_of_load accepted).2 fun _ _ => Edge.eq_of_load

end Graph

-- ---------------------------------------------------------------------------
-- Tables of degrees
-- ---------------------------------------------------------------------------

namespace Index

variable {inDegree : Fields Nat} {id : String}

def total : Fields Nat → Nat
  | [] => 0
  | (_, count) :: rest => count + total rest

theorem total_put (inDegree : Fields Nat) (id : String) :
    total (Fields.put inDegree id ((Fields.find? inDegree id).getD 0 + 1)) =
      total inDegree + 1 := by
  induction inDegree with
  | nil => rfl
  | cons entry rest ih =>
    obtain ⟨known, count⟩ := entry
    by_cases same : known = id
    · simp [total, Fields.put, Fields.find?, same]
      omega
    · simp [total, Fields.put, Fields.find?, same, ih]
      omega

theorem total_zeros (ids : List α) (id : α → String) :
    total (ids.map fun item => (id item, 0)) = 0 := by
  induction ids with
  | nil => rfl
  | cons item ids ih => simpa [total] using ih

theorem total_foldl_countEdge (edges : List Edge) (inDegree : Fields Nat) :
    total (edges.foldl countEdge inDegree) = total inDegree + edges.length := by
  induction edges generalizing inDegree with
  | nil => rfl
  | cons edge rest ih =>
    rw [List.foldl_cons, ih, countEdge, total_put, List.length_cons]
    omega

theorem mem_keys_foldl_countEdge (edges : List Edge) (inDegree : Fields Nat) :
    id ∈ Fields.keys (edges.foldl countEdge inDegree) ↔
      id ∈ Fields.keys inDegree ∨ id ∈ edges.map Edge.target := by
  induction edges generalizing inDegree with
  | nil => simp
  | cons edge rest ih =>
    rw [List.foldl_cons, ih, countEdge, Fields.keys_put]
    split <;> grind

theorem nodup_keys_foldl_countEdge (edges : List Edge) (distinct : (Fields.keys inDegree).Nodup) :
    (Fields.keys (edges.foldl countEdge inDegree)).Nodup := by
  induction edges generalizing inDegree with
  | nil => exact distinct
  | cons edge rest ih => exact ih (Fields.nodup_keys_put _ _ _ distinct)

end Index

-- ---------------------------------------------------------------------------
-- Where a walk begins
-- ---------------------------------------------------------------------------

def IsFirst (P : α → Prop) (xs : List α) (x : α) : Prop :=
  P x ∧ ∃ before after, xs = before ++ x :: after ∧ ∀ other ∈ before, ¬P other

/-- The node at which a walk begins. -/
inductive Graph.Begins (graph : Graph) : Node → Prop
  | start (first : IsFirst (·.kind = .start) graph.nodes node) : Begins graph node
  | free (none : ∀ other ∈ graph.nodes, other.kind ≠ .start)
      (first : IsFirst (graph.degree ·.id = 0) graph.nodes node) : Begins graph node
  | front (none : ∀ other ∈ graph.nodes, other.kind ≠ .start)
      (linked : ∀ other ∈ graph.nodes, graph.degree other.id ≠ 0)
      (first : graph.nodes.head? = some node) : Begins graph node

theorem isFirst_iff {P : α → Prop} {p : α → Bool} (decides : ∀ x, p x = true ↔ P x) {xs : List α}
    {x : α} : IsFirst P xs x ↔ xs.find? p = some x := by
  simp only [IsFirst, List.find?_eq_some_iff_append, ← decides, Bool.not_eq_true,
    Bool.not_eq_eq_eq_not, Bool.not_true]

theorem Graph.begins_iff {graph : Graph} {node : Node} :
    graph.Begins node ↔ graph.entrance? = some node := by
  have start (node : Node) : (node.kind == .start) = true ↔ node.kind = .start := beq_iff_eq
  have free (node : Node) : (!graph.edges.any (·.target == node.id)) = true ↔
      graph.degree node.id = 0 := by
    rw [degree_eq_zero_iff, Bool.not_eq_true']
  simp only [entrance?, Option.or_eq_some_iff, List.find?_eq_none, ← isFirst_iff start,
    ← isFirst_iff free, start, free]
  constructor
  · rintro (first | ⟨none, first⟩ | ⟨none, linked, first⟩)
    · exact .inl first
    · exact .inr ⟨none, .inl first⟩
    · exact .inr ⟨none, .inr ⟨linked, first⟩⟩
  · rintro (first | ⟨none, first | ⟨linked, first⟩⟩)
    · exact .start first
    · exact .free none first
    · exact .front none linked first

-- ---------------------------------------------------------------------------
-- Indices
-- ---------------------------------------------------------------------------

/-- The tables of an index hold what a search of the lists of nodes and edges finds. -/
structure Index.Tabulates (index : Index) (graph : Graph) : Prop where
  ids : Fields.keys index.nodes = graph.nodes.map Node.id
  nodes : ∀ id node, Fields.find? index.nodes id = some node ↔ node ∈ graph.nodes ∧ node.id = id
  successors : ∀ source, index.successors source =
    (graph.edges.filter (·.source == source)).map Edge.target
  known : ∀ id, id ∈ graph.nodes.map Node.id ∨ id ∈ graph.edges.map Edge.target →
    Fields.find? index.inDegree id = some (graph.edges.countP (·.target == id))
  unknown : ∀ id, ¬(id ∈ graph.nodes.map Node.id ∨ id ∈ graph.edges.map Edge.target) →
    Fields.find? index.inDegree id = none
  distinct : (Fields.keys index.inDegree).Nodup
  sum : total index.inDegree = graph.edges.length
  start : index.start = none ↔ graph.nodes = []
  begins : ∀ node, index.start = some node ↔ graph.Begins node

namespace Index

variable (graph : Graph)

theorem find?_nodes_ofGraph (id : String) (node : Node) :
    Fields.find? (ofGraph graph).nodes id = some node ↔ node ∈ graph.nodes ∧ node.id = id := by
  have found : Fields.find? (ofGraph graph).nodes id = graph.node? id := node?_ofGraph graph id
  rw [found]
  constructor
  · exact fun h => ⟨Graph.mem_of_node? h, Graph.id_of_node? h⟩
  · rintro ⟨mem, rfl⟩
    exact Graph.node?_id mem

theorem keys_uncounted :
    Fields.keys (graph.nodes.map fun node => (node.id, 0)) = graph.nodes.map Node.id := by
  simp [Fields.keys]

theorem mem_keys_inDegree (id : String) : id ∈ Fields.keys (ofGraph graph).inDegree ↔
    id ∈ graph.nodes.map Node.id ∨ id ∈ graph.edges.map Edge.target := by
  rw [ofGraph, mem_keys_foldl_countEdge, keys_uncounted]

theorem tabulates_ofGraph : (ofGraph graph).Tabulates graph where
  ids := by simp [ofGraph, Fields.keys]
  nodes := find?_nodes_ofGraph graph
  successors := successors_ofGraph graph
  known id mem := by
    have count := inDegree_ofGraph graph id
    rw [← mem_keys_inDegree] at mem
    cases found : Fields.find? (ofGraph graph).inDegree id with
    | none => exact absurd mem (Fields.find?_eq_none_iff.mp found)
    | some n =>
      rw [found, Option.getD_some] at count
      rw [count, Graph.degree]
  unknown id absent := by
    rwa [Fields.find?_eq_none_iff, mem_keys_inDegree]
  distinct := nodup_keys_foldl_countEdge _ (keys_uncounted graph ▸ graph.ids_nodup)
  sum := by
    have counted := total_foldl_countEdge graph.edges (graph.nodes.map fun node => (node.id, 0))
    rwa [total_zeros, Nat.zero_add] at counted
  start := by rw [start_ofGraph, Graph.entrance?_eq_none_iff]
  begins node := by rw [start_ofGraph, Graph.begins_iff]

end Index

/-- The ids of an accepted submission are the texts of the submitted ones and differ from each
other, its edges are those submitted, and the tables of its index hold what a search of the nodes
and edges finds. -/
theorem Graph.tabulates_of_load {v : Value} {graph : Graph} (accepted : load v = .accepted graph) :
    graph.nodes.map Node.id = (v.itemsAt "nodes").map (Value.textAt "id") ∧
      ((v.itemsAt "nodes").map (Value.textAt "id")).Nodup ∧
      graph.edges = (v.itemsAt "edges").map
        (fun item => ⟨item.textAt "source", item.textAt "target"⟩) ∧
      (Index.ofGraph graph).Tabulates graph := by
  have ids := ids_of_load accepted
  exact ⟨ids, ids ▸ graph.ids_nodup, edges_of_load accepted, Index.tabulates_ofGraph graph⟩

/-- Ids that are no texts, and edges that come again, lead back or name no node. -/
def tangled : Value :=
  let node (id : Value) : Value := .record [("id", id), ("type", .text "output")]
  let edge (source target : String) : Value :=
    .record [("source", .text source), ("target", .text target)]
  .record
    [("nodes", .list [node (.bool true), node .null, .record [("id", .text "a")]]),
     ("edges", .list
        [edge "True" "True", edge "True" "b", edge "b" "True", edge "True" "b"])]

def untangled : Graph where
  nodes :=
    [⟨"True", "output", [], .output⟩, ⟨"", "output", [], .output⟩,
      ⟨"a", "", [], .custom "custom" []⟩]
  edges := [⟨"True", "True"⟩, ⟨"True", "b"⟩, ⟨"b", "True"⟩, ⟨"True", "b"⟩]

theorem tabulates_of_load_tangled : Graph.load tangled = .accepted untangled ∧
    ["True", "", "a"].Nodup ∧ (Index.ofGraph untangled).successors "True" = ["True", "b", "b"] ∧
    (Index.ofGraph untangled).successors "b" = ["True"] ∧
    Fields.find? (Index.ofGraph untangled).inDegree "b" = some 2 ∧
    Index.total (Index.ofGraph untangled).inDegree = 4 := by
  have accepted : Graph.load tangled = .accepted untangled := by rfl
  obtain ⟨-, distinct, -, tables⟩ := Graph.tabulates_of_load accepted
  exact ⟨accepted, distinct, tables.successors "True", tables.successors "b",
    tables.known "b" (by decide), tables.sum⟩

end Flowline
