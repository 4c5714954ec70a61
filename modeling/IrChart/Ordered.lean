/-!
# Collections that keep the order of insertion

Lists without repetition and maps from texts. Both keep what is added later behind what was added
before. The types of a graph and the links of a node are such lists; colors and places are such
maps.
-/

namespace IrChart

/-! ## Lists without repetition

`Distinct α` is a list whose elements differ pairwise, in the order in which they were first
added. It holds the node types of a graph and the targets of a node's edges.
-/

/-- A list without repetition. -/
structure Distinct (α : Type) where
  toList : List α
  nodup : toList.Nodup
  deriving DecidableEq, Repr

namespace Distinct

variable {α : Type} [DecidableEq α]

/-- No elements. -/
def empty : Distinct α := ⟨[], List.nodup_nil⟩

/-- `s` with `a` at its end, or `s` itself if it holds `a` already. -/
def insert (s : Distinct α) (a : α) : Distinct α :=
  if h : a ∈ s.toList then s
  else ⟨s.toList ++ [a], by
    refine List.nodup_append.2 ⟨s.nodup, by simp, ?_⟩
    intro x hx y hy hxy
    simp only [List.mem_singleton] at hy
    exact h (hy ▸ hxy ▸ hx)⟩

/-- The elements of `xs` in the order of their first occurrence. -/
def ofList (xs : List α) : Distinct α := xs.foldl insert empty

omit [DecidableEq α] in
@[simp] theorem toList_empty : (empty : Distinct α).toList = [] := rfl

theorem toList_insert (s : Distinct α) (a : α) :
    (s.insert a).toList = if a ∈ s.toList then s.toList else s.toList ++ [a] := by
  unfold insert; split <;> rfl

@[simp] theorem mem_toList_insert (s : Distinct α) (a b : α) :
    b ∈ (s.insert a).toList ↔ b ∈ s.toList ∨ b = a := by
  rw [toList_insert]; split <;> simp_all

private theorem mem_foldl_insert (xs : List α) (s : Distinct α) (b : α) :
    b ∈ (xs.foldl insert s).toList ↔ b ∈ s.toList ∨ b ∈ xs := by
  induction xs generalizing s with
  | nil => simp
  | cons a xs ih => simp [ih, or_assoc]

@[simp] theorem mem_toList_ofList (xs : List α) (b : α) : b ∈ (ofList xs).toList ↔ b ∈ xs := by
  simp [ofList, mem_foldl_insert]

instance : Inhabited (Distinct α) := ⟨empty⟩

end Distinct

/-! ## Maps

`Keyed β` maps texts to values. A key keeps the place of its first insertion; a later insertion
replaces its value. The two views are `keys`, a list without repetition, and `get?`.
-/

/-- Entries with pairwise different keys, in the order in which the keys were first inserted. -/
structure Keyed (β : Type) where
  entries : List (String × β)
  nodup : (entries.map Prod.fst).Nodup

namespace Keyed

variable {β : Type}

/-- No entries. -/
def empty : Keyed β := ⟨[], List.nodup_nil⟩

/-- The keys in order. -/
def keys (m : Keyed β) : List String := m.entries.map Prod.fst

/-- The value of `key`, if it has one. -/
def get? (m : Keyed β) (key : String) : Option β :=
  (m.entries.find? (·.1 == key)).map Prod.snd

/-- The entry with `key` holds `value`, any other entry is kept. -/
def replaceIn (key : String) (value : β) (entry : String × β) : String × β :=
  if entry.1 = key then (entry.1, value) else entry

theorem map_fst_replaceIn (key : String) (value : β) (entries : List (String × β)) :
    (entries.map (replaceIn key value)).map Prod.fst = entries.map Prod.fst := by
  rw [List.map_map]
  refine List.map_congr_left fun entry _ => ?_
  simp only [Function.comp_apply, replaceIn]
  split <;> rfl

/-- `m` with `key` mapped to `value`: in place if `m` has the key, at the end otherwise. -/
def insert (m : Keyed β) (key : String) (value : β) : Keyed β :=
  if h : key ∈ m.entries.map Prod.fst then
    ⟨m.entries.map (replaceIn key value), by rw [map_fst_replaceIn]; exact m.nodup⟩
  else
    ⟨m.entries ++ [(key, value)], by
      rw [List.map_append, List.nodup_append]
      refine ⟨m.nodup, by simp, ?_⟩
      intro x hx y hy hxy
      simp only [List.map_cons, List.map_nil, List.mem_singleton] at hy
      exact h (hy ▸ hxy ▸ hx)⟩

/-- Inserts the entries one after another. -/
def insertAll (m : Keyed β) (entries : List (String × β)) : Keyed β :=
  entries.foldl (fun m entry => m.insert entry.1 entry.2) m

/-- The map that `entries` give when they are inserted in order. -/
def ofList (entries : List (String × β)) : Keyed β := empty.insertAll entries

@[simp] theorem keys_empty : (empty : Keyed β).keys = [] := rfl

theorem keys_nodup (m : Keyed β) : m.keys.Nodup := m.nodup

theorem keys_insert (m : Keyed β) (key : String) (value : β) :
    (m.insert key value).keys = if key ∈ m.keys then m.keys else m.keys ++ [key] := by
  unfold insert keys
  split
  · exact map_fst_replaceIn key value m.entries
  · simp

theorem get?_insert (m : Keyed β) (key : String) (value : β) (k : String) :
    (m.insert key value).get? k = if k = key then some value else m.get? k := by
  unfold insert get?
  split
  · rename_i h
    simp only [List.find?_map, Option.map_map]
    by_cases hk : k = key
    · subst hk
      obtain ⟨entry, he, hke⟩ := List.mem_map.1 h
      have hfind : (m.entries.find? ((fun x => x.1 == k) ∘ replaceIn k value)).isSome := by
        rw [List.find?_isSome]
        exact ⟨entry, he, by simp [replaceIn, hke]⟩
      obtain ⟨found, hfound⟩ := Option.isSome_iff_exists.1 hfind
      have hk := List.find?_some hfound
      simp only [Function.comp_apply, beq_iff_eq] at hk
      have hkey : found.1 = k := by
        unfold replaceIn at hk; split at hk <;> simp_all
      simp [hfound, replaceIn, hkey]
    · rw [if_neg hk]
      have hcomp : ((fun x : String × β => x.1 == k) ∘ replaceIn key value) =
          (fun x => x.1 == k) := by
        funext entry
        simp only [Function.comp_apply, replaceIn]
        split <;> rfl
      rw [hcomp]
      cases hf : m.entries.find? (fun x => x.1 == k) with
      | none => rfl
      | some found =>
        have hfk := List.find?_some hf
        simp only [beq_iff_eq] at hfk
        have : ¬ found.1 = key := by rw [hfk]; exact hk
        simp [replaceIn, this]
  · rename_i h
    rw [List.find?_append]
    by_cases hk : k = key
    · subst hk
      have : m.entries.find? (fun x => x.1 == k) = none := by
        rw [List.find?_eq_none]
        intro entry he hke
        exact h (List.mem_map.2 ⟨entry, he, by simpa using hke⟩)
      simp [this]
    · have : ([(key, value)] : List (String × β)).find? (fun x => x.1 == k) = none := by
        simp [Ne.symm hk]
      rw [this, Option.or_none, if_neg hk]

instance : Inhabited (Keyed β) := ⟨empty⟩

end Keyed
end IrChart
