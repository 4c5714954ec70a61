import IrChart.Ordered
import Mathlib.Data.List.Induction
import Mathlib.Data.List.Nodup

/-!
# Keys of ordered maps

The keys of a map are the keys that were inserted, in the order of their first insertion
(`keySet_insertAll`). A map that was given every key once has its entries in the given order, and
inserting keys that a map has already changes no key. The value of a key is the one that was
inserted with it last (`get?_insertAll`).
-/

namespace IrChart

namespace Distinct

variable {α : Type} [DecidableEq α]

omit [DecidableEq α] in
theorem ext_toList {s t : Distinct α} (same : s.toList = t.toList) : s = t := by
  cases s
  cases t
  cases same
  rfl

theorem toList_foldl_insert {s : Distinct α} {xs : List α} (fresh : (s.toList ++ xs).Nodup) :
    (xs.foldl insert s).toList = s.toList ++ xs := by
  induction xs generalizing s with
  | nil => simp
  | cons x xs ih =>
    have absent : x ∉ s.toList := by
      intro member
      exact (List.nodup_append.1 fresh).2.2 x member x (by simp) rfl
    have grown : (s.insert x).toList = s.toList ++ [x] := by rw [toList_insert, if_neg absent]
    rw [List.foldl_cons, ih (by simpa [grown] using fresh), grown, List.append_assoc]
    rfl

/-- A list without repetition is kept. -/
theorem toList_ofList {xs : List α} (distinct : xs.Nodup) : (ofList xs).toList = xs := by
  have run := toList_foldl_insert (s := empty) (by simpa using distinct)
  rwa [toList_empty, List.nil_append] at run

theorem insert_of_mem {s : Distinct α} {a : α} (member : a ∈ s.toList) : s.insert a = s := by
  unfold insert
  rw [dif_pos member]

theorem foldl_insert_of_subset {s : Distinct α} {xs : List α} (subset : xs ⊆ s.toList) :
    xs.foldl insert s = s := by
  induction xs with
  | nil => rfl
  | cons x xs ih =>
    obtain ⟨member, later⟩ := List.cons_subset.1 subset
    rw [List.foldl_cons, insert_of_mem member, ih later]

theorem ofList_append_singleton (xs : List α) (x : α) :
    ofList (xs ++ [x]) = (ofList xs).insert x := by
  rw [ofList, List.foldl_append]
  rfl

/-- The elements are those of the list, without all but the first occurrence of each. -/
theorem toList_ofList_eq_eraseDups (xs : List α) : (ofList xs).toList = xs.eraseDups := by
  induction xs using List.reverseRecOn with
  | nil => rfl
  | append_singleton xs x ih =>
    rw [ofList_append_singleton, toList_insert, ih, List.eraseDups_append]
    by_cases known : x ∈ xs
    · simp [List.removeAll, known]
    · simp [List.removeAll, known, List.eraseDups_cons]

/-- Of a second list only what is new comes behind a first one. -/
theorem toList_ofList_append {xs ys : List α} (distinct : xs.Nodup) (distinct' : ys.Nodup) :
    (ofList (xs ++ ys)).toList = xs ++ ys.filter (· ∉ xs) := by
  have kept {zs : List α} (nodup : zs.Nodup) : zs.eraseDups = zs := by
    rw [← toList_ofList_eq_eraseDups, toList_ofList nodup]
  have new : ys.removeAll xs = ys.filter (· ∉ xs) := by simp [List.removeAll]
  rw [toList_ofList_eq_eraseDups, List.eraseDups_append, new, kept distinct,
    kept (distinct'.filter _)]

theorem map_toList_ofList {β : Type} [DecidableEq β] {f : α → β}
    (injective : f.Injective) (xs : List α) :
    (ofList xs).toList.map f = (ofList (xs.map f)).toList := by
  induction xs using List.reverseRecOn with
  | nil => rfl
  | append_singleton xs x ih =>
    rw [List.map_append, List.map_singleton, ofList_append_singleton, ofList_append_singleton,
      toList_insert, toList_insert, ← ih]
    simp only [List.mem_map_of_injective injective]
    split
    · rfl
    · rw [List.map_append, List.map_singleton]

/-- Values stand in the order of the places where they are listed first. -/
theorem pairwise_idxOf_ofList (values : List (Option α))
    (wanted : α → Bool) :
    (ofList ((values.filterMap id).filter wanted)).toList.Pairwise fun a b =>
      values.idxOf (some a) < values.idxOf (some b) := by
  induction values using List.reverseRecOn with
  | nil => exact .nil
  | append_singleton values value ih =>
    have listed {a : α} (member : a ∈ (ofList ((values.filterMap id).filter wanted)).toList) :
        some a ∈ values := by
      rw [mem_toList_ofList, List.mem_filter] at member
      simpa using member.1
    have kept : (ofList ((values.filterMap id).filter wanted)).toList.Pairwise fun a b =>
        (values ++ [value]).idxOf (some a) < (values ++ [value]).idxOf (some b) := by
      apply ih.imp_of_mem
      intro a b inA inB less
      rwa [List.idxOf_append_of_mem (listed inA), List.idxOf_append_of_mem (listed inB)]
    rw [List.filterMap_append, List.filter_append]
    cases value with
    | none => simpa using kept
    | some b =>
      by_cases want : wanted b = true
      · have last : (([some b] : List (Option α)).filterMap id).filter wanted = [b] := by
          simp [want]
        rw [last, ofList_append_singleton, toList_insert]
        split
        · exact kept
        · rename_i new
          have first : some b ∉ values := by simpa [want] using new
          rw [List.pairwise_append]
          refine ⟨kept, List.pairwise_singleton .., ?_⟩
          intro a inA b' isLast
          obtain rfl := List.mem_singleton.1 isLast
          rw [List.idxOf_append_of_mem (listed inA), List.idxOf_append_of_notMem first]
          exact Nat.lt_of_lt_of_le (List.idxOf_lt_length_of_mem (listed inA)) (Nat.le_add_right ..)
      · simpa [want] using kept

end Distinct

/-- `a` stands at the place `i` of the list and at no later one. -/
def IsLastAt {α : Type} (xs : List α) (a : α) (i : Nat) : Prop :=
  xs[i]? = some a ∧ ∀ j, i < j → xs[j]? ≠ some a

namespace Keyed

variable {β : Type}

/-- The keys in order, as a list without repetition. -/
def keySet (m : Keyed β) : Distinct String := ⟨m.keys, m.keys_nodup⟩

theorem keySet_insert (m : Keyed β) (key : String) (value : β) :
    (m.insert key value).keySet = m.keySet.insert key := by
  apply Distinct.ext_toList
  rw [Distinct.toList_insert]
  exact keys_insert m key value

/-- The keys are those that were inserted, in the order of their first insertion. -/
theorem keySet_insertAll (m : Keyed β) (entries : List (String × β)) :
    (m.insertAll entries).keySet = (entries.map Prod.fst).foldl Distinct.insert m.keySet := by
  induction entries generalizing m with
  | nil => rfl
  | cons entry entries ih =>
    rw [List.map_cons, List.foldl_cons, ← keySet_insert m entry.1 entry.2]
    exact ih (m.insert entry.1 entry.2)

theorem keySet_ofList (entries : List (String × β)) :
    (ofList entries).keySet = Distinct.ofList (entries.map Prod.fst) :=
  keySet_insertAll empty entries

theorem keys_ofList (entries : List (String × β)) :
    (ofList entries).keys = (Distinct.ofList (entries.map Prod.fst)).toList :=
  congrArg Distinct.toList (keySet_ofList entries)

/-- Keys that a map has already keep their places. -/
theorem keys_insertAll_of_subset {m : Keyed β} {entries : List (String × β)}
    (subset : entries.map Prod.fst ⊆ m.keys) : (m.insertAll entries).keys = m.keys := by
  have kept : (m.insertAll entries).keySet = m.keySet := by
    rw [keySet_insertAll, Distinct.foldl_insert_of_subset subset]
  exact congrArg Distinct.toList kept

theorem mem_keys_insert {m : Keyed β} {key : String} {value : β} {k : String} :
    k ∈ (m.insert key value).keys ↔ k ∈ m.keys ∨ k = key := by
  rw [keys_insert]
  split
  · rename_i member
    constructor
    · exact .inl
    · rintro (old | rfl)
      · exact old
      · exact member
  · simp

theorem mem_keys_insertAll {m : Keyed β} {entries : List (String × β)} {k : String} :
    k ∈ (m.insertAll entries).keys ↔ k ∈ m.keys ∨ k ∈ entries.map Prod.fst := by
  induction entries generalizing m with
  | nil => simp [insertAll]
  | cons entry entries ih =>
    have step : m.insertAll (entry :: entries) = (m.insert entry.1 entry.2).insertAll entries := rfl
    rw [step, ih, mem_keys_insert, List.map_cons, List.mem_cons, or_assoc]

theorem mem_keys_ofList {entries : List (String × β)} {k : String} :
    k ∈ (ofList entries).keys ↔ k ∈ entries.map Prod.fst := by
  rw [ofList, mem_keys_insertAll]
  simp

/-- A key has a value exactly if it is one of the keys. -/
theorem get?_isSome_iff {m : Keyed β} {key : String} : (m.get? key).isSome ↔ key ∈ m.keys := by
  rw [get?, Option.isSome_map, List.find?_isSome, keys, List.mem_map]
  simp

theorem get?_eq_none {m : Keyed β} {key : String} (absent : key ∉ m.keys) :
    m.get? key = none := by
  rw [← get?_isSome_iff] at absent
  simpa using absent

/-- Keys that are all given one value have it. -/
theorem get?_insertAll_map (m : Keyed β) (keys : List String) (value : β) (k : String) :
    (m.insertAll (keys.map (·, value))).get? k = if k ∈ keys then some value else m.get? k := by
  induction keys generalizing m with
  | nil => rfl
  | cons key keys ih =>
    have step : m.insertAll ((key :: keys).map (·, value)) =
        (m.insert key value).insertAll (keys.map (·, value)) := rfl
    rw [step, ih, get?_insert]
    by_cases here : k = key <;> by_cases later : k ∈ keys <;> simp [here, later]

/-- The value of a key is the last one that was inserted with it. -/
theorem get?_insertAll (m : Keyed β) (entries : List (String × β)) (k : String) :
    (m.insertAll entries).get? k =
      ((entries.reverse.find? (·.1 == k)).map Prod.snd).or (m.get? k) := by
  induction entries generalizing m with
  | nil => rfl
  | cons entry entries ih =>
    have step : m.insertAll (entry :: entries) = (m.insert entry.1 entry.2).insertAll entries := rfl
    rw [step, ih, get?_insert, List.reverse_cons, List.find?_append]
    cases entries.reverse.find? (·.1 == k) with
    | some last => rfl
    | none =>
      by_cases here : k = entry.1
      · simp [here]
      · simp [here, Ne.symm here]

/-- Keys and values that are inserted in pairs leave each key with the value at its last place. -/
theorem get?_ofList_zip {keys : List String} {values : List β} {k : String} {i : Nat}
    (last : IsLastAt keys k i) (covered : keys.length ≤ values.length) :
    (ofList (keys.zip values)).get? k = values[i]? := by
  have inside : i < values.length :=
    Nat.lt_of_lt_of_le (List.getElem?_eq_some_iff.1 last.1).1 covered
  have value : values[i]? = some values[i] := List.getElem?_eq_getElem inside
  have here : (keys.zip values)[i]? = some (k, values[i]) :=
    List.getElem?_zip_eq_some.2 ⟨last.1, value⟩
  have later : ((keys.zip values).drop (i + 1)).reverse.find? (·.1 == k) = none := by
    rw [List.find?_eq_none]
    intro entry member same
    obtain ⟨j, found⟩ := List.mem_iff_getElem?.1 (List.mem_reverse.1 member)
    rw [List.getElem?_drop, List.getElem?_zip_eq_some] at found
    apply last.2 (i + 1 + j) (by omega)
    rw [found.1, eq_of_beq same]
  have split : keys.zip values =
      (keys.zip values).take i ++ (k, values[i]) :: (keys.zip values).drop (i + 1) := by
    obtain ⟨bound, entry⟩ := List.getElem?_eq_some_iff.1 here
    rw [← entry, ← List.drop_eq_getElem_cons bound, List.take_append_drop]
  rw [ofList, get?_insertAll, value, split, List.reverse_append, List.reverse_cons,
    List.find?_append, List.find?_append, later]
  simp

theorem get?_of_mem {m : Keyed β} {entry : String × β} (member : entry ∈ m.entries) :
    m.get? entry.1 = some entry.2 := by
  have found : (m.entries.find? (·.1 == entry.1)).isSome :=
    List.find?_isSome.2 ⟨entry, member, by simp⟩
  obtain ⟨first, here⟩ := Option.isSome_iff_exists.1 found
  have key : first.1 = entry.1 := by simpa using List.find?_some here
  have same := List.inj_on_of_nodup_map m.nodup (List.mem_of_find?_eq_some here) member key
  rw [get?, here, same, Option.map_some]

/-- A map is given by its keys in order and their values. -/
theorem ext_get? {m m' : Keyed β} (keys : m.keys = m'.keys)
    (values : ∀ k ∈ m.keys, m.get? k = m'.get? k) : m = m' := by
  have entries (m : Keyed β) :
      m.entries.map (fun entry => (entry.1, some entry.2)) = m.keys.map fun k => (k, m.get? k) := by
    rw [Keyed.keys, List.map_map]
    apply List.map_congr_left
    intro entry member
    exact Prod.ext rfl (get?_of_mem member).symm
  have same : m.keys.map (fun k => (k, m.get? k)) = m'.keys.map fun k => (k, m'.get? k) := by
    rw [← keys]
    apply List.map_congr_left
    intro k member
    rw [values k member]
  rw [← entries, ← entries] at same
  have equal : m.entries = m'.entries := by
    refine (List.map_inj_right ?_).1 same
    rintro ⟨key, value⟩ ⟨key', value'⟩ pairs
    cases pairs
    rfl
  cases m
  cases m'
  cases equal
  rfl

/-- Once every key was inserted again, nothing is left of the old values. -/
theorem insertAll_eq_of_keys {m m' : Keyed β} {entries : List (String × β)}
    (keys : m.keys = m'.keys) (covered : m.keys ⊆ entries.map Prod.fst) :
    m.insertAll entries = m'.insertAll entries := by
  have sets : m.keySet = m'.keySet := Distinct.ext_toList keys
  apply ext_get?
  · show (m.insertAll entries).keySet.toList = (m'.insertAll entries).keySet.toList
    rw [keySet_insertAll, keySet_insertAll, sets]
  · intro k member
    have inserted : k ∈ entries.map Prod.fst :=
      (mem_keys_insertAll.1 member).elim (fun old => covered old) id
    obtain ⟨entry, given, rfl⟩ := List.mem_map.1 inserted
    have found : (entries.reverse.find? (·.1 == entry.1)).isSome :=
      List.find?_isSome.2 ⟨entry, List.mem_reverse.2 given, by simp⟩
    obtain ⟨last, here⟩ := Option.isSome_iff_exists.1 found
    rw [get?_insertAll, get?_insertAll, here]
    rfl

section Values

variable {P : β → Prop}

/-- Values are those of a map before, or those that were inserted. -/
theorem forall_insert {m : Keyed β} (old : ∀ entry ∈ m.entries, P entry.2) (key : String)
    {value : β} (new : P value) : ∀ entry ∈ (m.insert key value).entries, P entry.2 := by
  intro entry member
  unfold insert at member
  split at member
  · obtain ⟨entry', old', rfl⟩ := List.mem_map.1 member
    unfold replaceIn
    split
    · exact new
    · exact old entry' old'
  · rcases List.mem_append.1 member with old' | last
    · exact old entry old'
    · rw [List.mem_singleton.1 last]
      exact new

theorem forall_insertAll {m : Keyed β} {entries : List (String × β)}
    (old : ∀ entry ∈ m.entries, P entry.2) (new : ∀ entry ∈ entries, P entry.2) :
    ∀ entry ∈ (m.insertAll entries).entries, P entry.2 := by
  induction entries generalizing m with
  | nil => exact old
  | cons entry entries ih =>
    apply ih (forall_insert old entry.1 (new entry (List.mem_cons_self ..)))
    intro entry' member
    exact new entry' (List.mem_cons_of_mem entry member)

theorem forall_ofList {entries : List (String × β)} (new : ∀ entry ∈ entries, P entry.2) :
    ∀ entry ∈ (ofList entries).entries, P entry.2 := by
  apply forall_insertAll _ new
  intro entry member
  cases member

end Values

end Keyed
end IrChart
