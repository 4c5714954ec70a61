import IrChart.Dump.Parse

/-!
# Drafts of graphs

`Draft.Valid` holds of every draft that lines give: its nodes have different numerals for ids, the
index knows exactly these ids, and the type of every node is noted (`valid_ofLines`). Where no
record is broken and no id occurs twice, every record becomes a node and nothing is warned about
(`ofLines_of_whole`).
-/

namespace IrChart

namespace Record.Reading
open Dump

/-- The record that a line holds, if it holds a complete one. -/
def record? : Reading → Option Record
  | complete record => some record
  | _ => none

/-- The line holds a complete record or none at all. -/
def Whole : Reading → Prop
  | other => True
  | complete _ => True
  | _ => False

instance (reading : Reading) : Decidable reading.Whole :=
  match reading with
  | other => isTrue trivial
  | complete _ => isTrue trivial
  | headless => isFalse not_false
  | incomplete .. => isFalse not_false

private theorem ofHead_complete_id {id type : String} {focus : Bool} {ws : List String}
    {record : Record} (read : ofHead id focus type ws = complete record) : record.id = id := by
  unfold ofHead at read
  split at read
  · cases read
  · split at read
    · split at read
      · cases read
      · cases read
        rfl
    · cases read

/-- Only a numeral is the id of a record. -/
theorem isNumeral_of_complete {ws : List String} {record : Record}
    (read : ofWords ws = complete record) : isNumeral record.id = true := by
  unfold ofWords at read
  split at read
  · split at read
    · cases read
    · rename_i numeral
      split at read <;>
        · rw [ofHead_complete_id read]
          simpa using numeral
  · cases read

end Record.Reading

/-- The edges of a record have no type before they are resolved. -/
theorem Record.untyped_node (r : Record) (line : Nat) :
    ∀ e ∈ (r.node line).edges, e.type = unknownType := by
  intro e member
  simp only [Node.edges, Record.node, ← List.map_append, List.mem_map] at member
  obtain ⟨id, -, rfl⟩ := member
  rfl

/-- The node that a line gives, if no line before it has its id. -/
def SourceLine.node? (line : SourceLine) : Option Node :=
  (Record.Reading.ofWords line.words).record?.map (·.node line.number)

namespace Draft

/-! ### Parts of a draft -/

@[simp] theorem nodes_warn (d : Draft) (w : Diagnostic) : (d.warn w).nodes = d.nodes := rfl
@[simp] theorem types_warn (d : Draft) (w : Diagnostic) : (d.warn w).types = d.types := rfl
@[simp] theorem firsts_warn (d : Draft) (w : Diagnostic) : (d.warn w).firsts = d.firsts := rfl

@[simp] theorem nodes_noteType (d : Draft) (type : String) :
    (d.noteType type).nodes = d.nodes := rfl
@[simp] theorem firsts_noteType (d : Draft) (type : String) :
    (d.noteType type).firsts = d.firsts := rfl
@[simp] theorem warnings_noteType (d : Draft) (type : String) :
    (d.noteType type).warnings = d.warnings := rfl

/-- The ids of the nodes so far. -/
def ids (d : Draft) : List String := d.nodes.toList.map (·.id)

/-! ### What every draft satisfies -/

/-- The nodes have different ids, all numerals; the index holds exactly these ids; the types of the
nodes are noted, and their edges have no type yet. -/
structure Valid (d : Draft) : Prop where
  nodup : d.ids.Nodup
  mem_firsts : ∀ id, id ∈ d.firsts ↔ id ∈ d.ids
  numeral : ∀ node ∈ d.nodes.toList, isNumeral node.id = true
  typed : ∀ node ∈ d.nodes.toList, node.type ∈ d.types.toList
  untyped : ∀ node ∈ d.nodes.toList, ∀ e ∈ node.edges, e.type = unknownType

theorem valid_empty : Valid {} where
  nodup := by simp [ids]
  mem_firsts id := by simp [ids]
  numeral := by simp
  typed := by simp
  untyped := by simp

theorem Valid.warn {d : Draft} (h : d.Valid) (w : Diagnostic) : (d.warn w).Valid :=
  ⟨h.nodup, h.mem_firsts, h.numeral, h.typed, h.untyped⟩

theorem Valid.noteType {d : Draft} (h : d.Valid) (type : String) : (d.noteType type).Valid where
  nodup := h.nodup
  mem_firsts := h.mem_firsts
  numeral := h.numeral
  typed node member := by
    simp only [Draft.noteType, Distinct.mem_toList_insert]
    exact .inl (h.typed node member)
  untyped := h.untyped

theorem add_of_mem {d : Draft} {record : Record} (line : SourceLine)
    (taken : record.id ∈ d.firsts) : ∃ w, d.add record line = d.warn w := by
  obtain ⟨first, found⟩ := Option.isSome_iff_exists.1
    (Std.HashMap.isSome_getElem?_iff_mem.2 taken)
  exact ⟨_, by rw [add, found]⟩

theorem add_of_not_mem {d : Draft} {record : Record} (line : SourceLine)
    (free : record.id ∉ d.firsts) : d.add record line =
      { d with
        nodes := d.nodes.push (record.node line.number)
        firsts := d.firsts.insert record.id line.span } := by
  have absent : d.firsts[record.id]? = none := Std.HashMap.getElem?_eq_none free
  rw [add, absent]

theorem Valid.add {d : Draft} (h : d.Valid) {record : Record} (line : SourceLine)
    (numeral : isNumeral record.id = true) (typed : record.type ∈ d.types.toList) :
    (d.add record line).Valid := by
  by_cases taken : record.id ∈ d.firsts
  · obtain ⟨w, same⟩ := add_of_mem line taken
    rw [same]
    exact h.warn w
  · have fresh : record.id ∉ d.ids := fun member => taken ((h.mem_firsts _).2 member)
    have last : (d.nodes.push (record.node line.number)).toList =
        d.nodes.toList ++ [record.node line.number] := by simp
    rw [add_of_not_mem line taken]
    constructor
    · simp only [ids, last, List.map_append, List.nodup_append]
      refine ⟨h.nodup, by simp, ?_⟩
      intro id old id' new same
      simp only [List.map_cons, List.map_nil, List.mem_singleton] at new
      rw [same, new] at old
      exact fresh old
    · intro id
      simp only [Std.HashMap.mem_insert, beq_iff_eq, h.mem_firsts, ids, last, List.map_append,
        List.mem_append, List.map_cons, List.map_nil, List.mem_singleton]
      rw [or_comm, eq_comm]
      rfl
    · rw [last, List.forall_mem_append, List.forall_mem_singleton]
      exact ⟨h.numeral, numeral⟩
    · rw [last, List.forall_mem_append, List.forall_mem_singleton]
      exact ⟨h.typed, typed⟩
    · rw [last, List.forall_mem_append, List.forall_mem_singleton]
      exact ⟨h.untyped, record.untyped_node line.number⟩

/-- One line keeps a draft valid. -/
theorem Valid.step {d : Draft} (h : d.Valid) (line : SourceLine) : (d.step line).Valid := by
  unfold Draft.step
  split
  · exact h
  · exact h.warn _
  · exact (h.noteType _).warn _
  · rename_i record read
    apply (h.noteType record.type).add line (Record.Reading.isNumeral_of_complete read)
    rw [Draft.noteType, Distinct.mem_toList_insert]
    exact .inr rfl

/-- So do any number of lines. -/
theorem Valid.foldl_step {d : Draft} (h : d.Valid) (lines : List SourceLine) :
    (lines.foldl Draft.step d).Valid := by
  induction lines generalizing d with
  | nil => exact h
  | cons line lines ih => exact ih (h.step line)

theorem valid_ofLines (lines : List SourceLine) : (ofLines lines).Valid :=
  valid_empty.foldl_step lines

/-! ### Runs in which no record is dropped -/

/-- A line that holds no broken record and no id of the draft adds its node and warns about
nothing. -/
theorem step_of_whole {d : Draft} (h : d.Valid) {line : SourceLine}
    (whole : (Record.Reading.ofWords line.words).Whole)
    (fresh : ∀ node ∈ line.node?, node.id ∉ d.ids) :
    (d.step line).nodes.toList = d.nodes.toList ++ line.node?.toList ∧
      (d.step line).warnings = d.warnings := by
  unfold Draft.step
  cases read : Record.Reading.ofWords line.words with
  | other => simp [SourceLine.node?, read, Record.Reading.record?]
  | headless => simp [read, Record.Reading.Whole] at whole
  | incomplete id type gap => simp [read, Record.Reading.Whole] at whole
  | complete record =>
    have node : line.node? = some (record.node line.number) := by
      simp [SourceLine.node?, read, Record.Reading.record?]
    have free : record.id ∉ (d.noteType record.type).firsts := by
      rw [firsts_noteType, h.mem_firsts]
      exact fresh _ node
    simp only [add_of_not_mem line free, node]
    simp

/-- In a run without broken records and with different ids every record becomes a node, and nothing
is warned about. -/
theorem foldl_step_of_whole {d : Draft} (h : d.Valid) {lines : List SourceLine}
    (whole : ∀ line ∈ lines, (Record.Reading.ofWords line.words).Whole)
    (distinct : (d.ids ++ (lines.filterMap (·.node?)).map (·.id)).Nodup) :
    (lines.foldl Draft.step d).nodes.toList = d.nodes.toList ++ lines.filterMap (·.node?) ∧
      (lines.foldl Draft.step d).warnings = d.warnings := by
  induction lines generalizing d with
  | nil => simp
  | cons line lines ih =>
    have split : (line :: lines).filterMap (·.node?) =
        line.node?.toList ++ lines.filterMap (·.node?) := by
      cases node : line.node? <;> simp [node]
    rw [split, List.map_append, ← List.append_assoc] at distinct
    have fresh : ∀ node ∈ line.node?, node.id ∉ d.ids := by
      intro node given member
      have apart := (List.nodup_append.1 (List.nodup_append.1 distinct).1).2.2
      rw [Option.mem_def] at given
      exact apart _ member node.id (by simp [given]) rfl
    obtain ⟨nodes, warnings⟩ := step_of_whole h (whole line (by simp)) fresh
    have ids : (d.step line).ids = d.ids ++ line.node?.toList.map (·.id) := by
      simp [Draft.ids, nodes]
    obtain ⟨allNodes, allWarnings⟩ := ih (h.step line)
      (fun later member => whole later (List.mem_cons_of_mem line member)) (by rwa [ids])
    refine ⟨?_, ?_⟩
    · rw [List.foldl_cons, allNodes, nodes, split, List.append_assoc]
    · rw [List.foldl_cons, allWarnings, warnings]

theorem ofLines_of_whole {lines : List SourceLine}
    (whole : ∀ line ∈ lines, (Record.Reading.ofWords line.words).Whole)
    (distinct : ((lines.filterMap (·.node?)).map (·.id)).Nodup) :
    (ofLines lines).nodes.toList = lines.filterMap (·.node?) ∧ (ofLines lines).warnings = #[] := by
  have run := foldl_step_of_whole valid_empty whole (by simpa [ids] using distinct)
  rwa [Array.toList_empty, List.nil_append] at run

end Draft
end IrChart
