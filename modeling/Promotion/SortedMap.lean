/-!
# Sorted Maps

Finite maps from text keys, listed in the order of their keys.

The order is that of the characters' code points, which is also the order of
the keys' UTF-8 bytes. A map has one entry per key, so two maps with the same
entries are equal and their listings agree: what a map writes depends only on
what it holds.

## Main definitions

* `SortedMap`: The entries of a map, with keys that strictly ascend.
* `SortedMap.get?`, `SortedMap.insert`: Look-up and update.
* `SortedMap.ofList`: The map of a list of entries; a later entry replaces an
  earlier one of its key.

## Theorems

* `SortedMap.get?_insert`, `SortedMap.get?_ofList_map`: What is found in a map.
* `SortedMap.ofList_toList`: A map is the map of its own listing.
-/

namespace Promotion

/-- A finite map from text keys, listed in the order of its keys. -/
structure SortedMap (α : Type) where
  /-- The entries, keys ascending. -/
  toList : List (String × α)
  /-- Each key comes before all that follow it. -/
  ascending : toList.Pairwise (fun a b => a.1 < b.1)
  deriving DecidableEq

attribute [ext] SortedMap

namespace SortedMap

variable {α : Type}

/-- The map without entries. -/
def empty : SortedMap α := ⟨[], .nil⟩

instance : Inhabited (SortedMap α) := ⟨empty⟩

/-- Puts an entry in its place in an ascending list. -/
def insertEntry (key : String) (value : α) : List (String × α) → List (String × α)
  | [] => [(key, value)]
  | (k, v) :: rest =>
    if key < k then (key, value) :: (k, v) :: rest
    else if key = k then (key, value) :: rest
    else (k, v) :: insertEntry key value rest

/-- What an insertion holds was there before or is the new entry. -/
theorem mem_insertEntry {key : String} {value : α} {entry : String × α} :
    ∀ {entries : List (String × α)}, entry ∈ insertEntry key value entries →
      entry = (key, value) ∨ entry ∈ entries
  | [], h => by simpa [insertEntry] using h
  | (k, v) :: rest, h => by
    rw [insertEntry] at h
    split at h
    · simpa using h
    · split at h
      · rcases List.mem_cons.1 h with h | h
        · exact .inl h
        · exact .inr (List.mem_cons_of_mem _ h)
      · rcases List.mem_cons.1 h with h | h
        · exact .inr (h ▸ List.mem_cons_self)
        · exact (mem_insertEntry h).imp id (List.mem_cons_of_mem _)

/-- An insertion keeps the order. -/
theorem pairwise_insertEntry {key : String} {value : α} :
    ∀ {entries : List (String × α)}, entries.Pairwise (fun a b => a.1 < b.1) →
      (insertEntry key value entries).Pairwise (fun a b => a.1 < b.1)
  | [], _ => by simp [insertEntry]
  | (k, v) :: rest, h => by
    have hk := List.pairwise_cons.1 h
    rw [insertEntry]
    split
    next hlt =>
      refine List.pairwise_cons.2 ⟨fun e he => ?_, h⟩
      rcases List.mem_cons.1 he with he | he
      · exact he ▸ hlt
      · exact String.lt_trans hlt (hk.1 e he)
    next hlt =>
      split
      next heq => exact List.pairwise_cons.2 ⟨fun e he => heq ▸ hk.1 e he, hk.2⟩
      next hne =>
        refine List.pairwise_cons.2 ⟨fun e he => ?_, pairwise_insertEntry hk.2⟩
        rcases mem_insertEntry he with he | he
        · subst he
          exact Std.lt_of_le_of_ne (Std.not_lt.1 hlt) (Ne.symm hne)
        · exact hk.1 e he

/-- Adds an entry; it replaces the one of its key. -/
def insert (m : SortedMap α) (key : String) (value : α) : SortedMap α :=
  ⟨insertEntry key value m.toList, pairwise_insertEntry m.ascending⟩

/-- The map of a list of entries; a later entry replaces an earlier one of its key. -/
def ofList (entries : List (String × α)) : SortedMap α :=
  entries.foldl (fun m e => m.insert e.1 e.2) empty

/-- The value of a key. -/
def get? (m : SortedMap α) (key : String) : Option α :=
  m.toList.lookup key

theorem lookup_cons_eq (key : String) (value : α) (entries : List (String × α)) (k : String) :
    ((key, value) :: entries).lookup k = if k = key then some value else entries.lookup k := by
  rw [List.lookup_cons]
  by_cases hk : k = key
  · simp [hk]
  · simp [beq_false_of_ne hk, hk]

/-- An insertion changes what is found under its key, and nothing else. -/
theorem lookup_insertEntry (key : String) (value : α) (k : String) :
    ∀ entries : List (String × α), (insertEntry key value entries).lookup k =
      if k = key then some value else entries.lookup k
  | [] => lookup_cons_eq key value [] k
  | (other, old) :: rest => by
    rw [insertEntry]
    split
    · exact lookup_cons_eq key value _ k
    · split
      next heq =>
        rw [lookup_cons_eq, lookup_cons_eq, heq]
        by_cases hk : k = other <;> simp [hk]
      next hne =>
        rw [lookup_cons_eq, lookup_cons_eq, lookup_insertEntry key value k rest]
        by_cases hk : k = other
        · simp [hk, Ne.symm hne]
        · simp [hk]

theorem get?_insert (m : SortedMap α) (key : String) (value : α) (k : String) :
    (m.insert key value).get? k = if k = key then some value else m.get? k :=
  lookup_insertEntry key value k m.toList

/-- In a map of some keys with a value for each, these keys are found and no others. -/
theorem get?_ofList_map (keys : List String) (f : String → α) (k : String) :
    (ofList (keys.map fun key => (key, f key))).get? k = if k ∈ keys then some (f k) else none := by
  have hfold : ∀ m : SortedMap α,
      ((keys.map fun key => (key, f key)).foldl (fun m e => m.insert e.1 e.2) m).get? k =
        if k ∈ keys then some (f k) else m.get? k := by
    induction keys with
    | nil => simp
    | cons key rest ih =>
      intro m
      rw [List.map_cons, List.foldl_cons, ih, get?_insert]
      by_cases hrest : k ∈ rest
      · simp [hrest]
      · by_cases hk : k = key
        · simp [hk]
        · simp [hrest, hk]
  exact hfold empty

/-- An entry above all others goes to the end. -/
theorem insertEntry_of_forall_lt {key : String} {value : α} :
    ∀ {entries : List (String × α)}, (∀ e ∈ entries, e.1 < key) →
      insertEntry key value entries = entries ++ [(key, value)]
  | [], _ => rfl
  | (k, v) :: rest, h => by
    have hk : k < key := h (k, v) List.mem_cons_self
    have hrest : insertEntry key value rest = rest ++ [(key, value)] :=
      insertEntry_of_forall_lt fun e he => h e (List.mem_cons_of_mem _ he)
    rw [insertEntry, if_neg (String.lt_asymm hk), if_neg (fun he => ?_), hrest]
    · rfl
    · exact String.lt_irrefl k (he ▸ hk)

/-- Inserting ascending entries one by one appends them. -/
theorem toList_foldl_insert {entries : List (String × α)} {m : SortedMap α}
    (h : (m.toList ++ entries).Pairwise (fun a b => a.1 < b.1)) :
    (entries.foldl (fun m e => m.insert e.1 e.2) m).toList = m.toList ++ entries := by
  induction entries generalizing m with
  | nil => simp
  | cons e rest ih =>
    have hlt : ∀ a ∈ m.toList, a.1 < e.1 := fun a ha =>
      (List.pairwise_append.1 h).2.2 a ha e List.mem_cons_self
    have hins : (m.insert e.1 e.2).toList = m.toList ++ [e] := insertEntry_of_forall_lt hlt
    rw [List.foldl_cons, ih (by simpa [hins] using h), hins]
    simp

/-- A map is the map of its own listing. -/
theorem ofList_toList (m : SortedMap α) : ofList m.toList = m := by
  have hm : ((empty : SortedMap α).toList ++ m.toList).Pairwise (fun a b => a.1 < b.1) := by
    simpa [empty] using m.ascending
  have h := toList_foldl_insert hm
  exact SortedMap.ext (by simpa [ofList, empty] using h)

end SortedMap

end Promotion
