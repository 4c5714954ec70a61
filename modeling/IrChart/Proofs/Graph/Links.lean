import IrChart.Graph.Links
import IrChart.Proofs.Ordered

/-!
# Links and edges

What the links of a graph say about its edges. An edge refers to the first node that carries its id
(`FirstCarrier`). The inputs of a node are the other nodes that its edges refer to
(`mem_listedInputs`), visited in the reverse of the order in which they are first listed
(`inputsOf_ofGraph`), and two nodes are adjacent if one of them lists the other
(`adjacent_ofGraph_iff`).
-/

namespace IrChart

namespace Graph

variable {g : Graph}

/-- `i` is the first node that carries the id. -/
def FirstCarrier (g : Graph) (id : String) (i : Fin g.size) : Prop :=
  (g.nodeAt i).id = id ∧ ∀ j < i, (g.nodeAt j).id ≠ id

/-- The first node that carries the id, if one does. -/
def carrier? (g : Graph) (id : String) : Option (Fin g.size) :=
  (List.finRange g.size).find? fun i => (g.nodeAt i).id == id

theorem carrier?_eq_some_iff {id : String} {i : Fin g.size} :
    g.carrier? id = some i ↔ g.FirstCarrier id i := by
  rw [carrier?, List.find?_eq_some_iff_getElem, FirstCarrier]
  constructor
  · rintro ⟨here, place, bound, rfl, before⟩
    refine ⟨by simpa using here, ?_⟩
    intro j earlier
    have passed := before j.val (by simpa [Fin.lt_def] using earlier)
    simpa using passed
  · rintro ⟨here, before⟩
    refine ⟨by simpa using here, i.val, by simp, by simp, ?_⟩
    intro j earlier
    have passed := before ⟨j, Nat.lt_trans earlier i.isLt⟩ earlier
    simpa using passed

/-- The index of the carriers finds the first one. -/
theorem getElem?_carriers (g : Graph) (id : String) : g.carriers[id]? = g.carrier? id := by
  have indexed := getElem?_foldl_insertIfNew (fun i => (g.table.get i).id) (fun i => i)
    (List.finRange g.size) ∅ id
  rw [Std.HashMap.getElem?_empty, Option.none_or, Option.map_id'] at indexed
  exact indexed

/-- The nodes other than `self` that the edges refer to, each once, in the order in which they are
first listed. -/
def targets (g : Graph) (self : Fin g.size) (edges : List Edge) : List (Fin g.size) :=
  ((edges.filterMap (g.carrier? ·.id)).filter (· ≠ self)).eraseDups

theorem mem_targets {self i : Fin g.size} {edges : List Edge} :
    i ∈ g.targets self edges ↔ i ≠ self ∧ ∃ e ∈ edges, g.FirstCarrier e.id i := by
  simp [targets, List.mem_eraseDups, carrier?_eq_some_iff, and_comm]

/-- The inputs of a node, special ones last, in the order in which they are first listed. -/
def listedInputs (g : Graph) (i : Fin g.size) : List (Fin g.size) :=
  g.targets i ((g.nodeAt i).inputs ++ (g.nodeAt i).specials)

/-- `i` lists `j` as an input or a special input. -/
def HasInput (g : Graph) (i j : Fin g.size) : Prop :=
  j ≠ i ∧ ∃ e ∈ (g.nodeAt i).inputs ++ (g.nodeAt i).specials, g.FirstCarrier e.id j

theorem mem_listedInputs {i j : Fin g.size} : j ∈ g.listedInputs i ↔ g.HasInput i j := mem_targets

/-- An edge of `i`, in whichever list, refers to `j`. -/
def Lists (g : Graph) (i j : Fin g.size) : Prop :=
  ∃ e ∈ (g.nodeAt i).edges, g.FirstCarrier e.id j

/-- The nodes are different, and one of them lists the other. -/
def Linked (g : Graph) (i j : Fin g.size) : Prop := i ≠ j ∧ (g.Lists i j ∨ g.Lists j i)

end Graph

namespace Links

variable {g : Graph}

/-- Links are visited in the reverse of the order of their edges. -/
theorem targets_carriers (g : Graph) (self : Fin g.size) (edges : List Edge) :
    targets g.carriers self edges = (g.targets self edges).reverse := by
  have found : (fun e : Edge => g.carriers[e.id]?) = fun e => g.carrier? e.id := by
    funext e
    exact g.getElem?_carriers e.id
  rw [targets, Graph.targets, found, Distinct.toList_ofList_eq_eraseDups]

/-- The links of a graph, without an index of its ids. -/
theorem ofGraph_eq (g : Graph) :
    ofGraph g =
      { inputs := .ofFn fun i => (g.listedInputs i).reverse
        outputs := .ofFn fun i => (g.targets i (g.nodeAt i).outputs).reverse } := by
  simp only [ofGraph, targets_carriers]
  rfl

theorem inputsOf_ofGraph (g : Graph) (i : Fin g.size) :
    (ofGraph g).inputsOf i = (g.listedInputs i).reverse := by
  rw [ofGraph_eq]
  exact Vector.getElem_ofFn i.isLt

theorem outputsOf_ofGraph (g : Graph) (i : Fin g.size) :
    (ofGraph g).outputsOf i = (g.targets i (g.nodeAt i).outputs).reverse := by
  rw [ofGraph_eq]
  exact Vector.getElem_ofFn i.isLt

/-- A node lists another one among its inputs or among its outputs. -/
theorem mem_links_ofGraph_iff {i j : Fin g.size} :
    (j ∈ (ofGraph g).inputsOf i ∨ j ∈ (ofGraph g).outputsOf i) ↔ j ≠ i ∧ g.Lists i j := by
  rw [inputsOf_ofGraph, outputsOf_ofGraph, List.mem_reverse, List.mem_reverse,
    Graph.listedInputs, Graph.mem_targets, Graph.mem_targets, ← and_or_left, Graph.Lists,
    Node.edges]
  simp only [List.mem_append, or_and_right, exists_or]

/-- Adjacent nodes are those of which one lists the other. -/
theorem adjacent_ofGraph_iff {i j : Fin g.size} :
    (ofGraph g).adjacent i j = true ↔ g.Linked i j := by
  have sides : (ofGraph g).adjacent i j = true ↔
      (j ∈ (ofGraph g).inputsOf i ∨ j ∈ (ofGraph g).outputsOf i) ∨
        (i ∈ (ofGraph g).inputsOf j ∨ i ∈ (ofGraph g).outputsOf j) := by
    simp [adjacent, or_assoc]
  rw [sides, mem_links_ofGraph_iff, mem_links_ofGraph_iff, Graph.Linked]
  constructor
  · rintro (⟨other, lists⟩ | ⟨other, lists⟩)
    · exact ⟨other.symm, .inl lists⟩
    · exact ⟨other, .inr lists⟩
  · rintro ⟨other, lists | lists⟩
    · exact .inl ⟨other.symm, lists⟩
    · exact .inr ⟨other, lists⟩

end Links
end IrChart
