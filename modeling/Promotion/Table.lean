/-!
# Tables

Finite maps as lists of entries, for keys of any type.

A table has at most one entry per key. Where an entry stands in the list means
nothing: what a table says is what `find?` finds.

## Main definitions

* `Table`: A list of entries.
* `Table.find?`, `Table.insert`, `Table.erase`: Look-up and update.

## Theorems

* `Table.find?_insert`, `Table.find?_erase`: What an update changes.
-/

namespace Promotion

/-- A finite map as a list of entries. -/
structure Table (κ α : Type) where
  entries : List (κ × α)
  deriving Repr

namespace Table

variable {κ α : Type}

/-- The table without entries. -/
def empty : Table κ α := ⟨[]⟩

instance : Inhabited (Table κ α) := ⟨empty⟩

variable [DecidableEq κ]

/-- The value of a key. -/
def find? (t : Table κ α) (key : κ) : Option α :=
  (t.entries.find? fun e => e.1 = key).map Prod.snd

/-- Takes a key's entry out. -/
def erase (t : Table κ α) (key : κ) : Table κ α :=
  ⟨t.entries.filter fun e => e.1 ≠ key⟩

/-- Adds an entry; it replaces the one of its key. -/
def insert (t : Table κ α) (key : κ) (value : α) : Table κ α :=
  ⟨(t.erase key).entries ++ [(key, value)]⟩

/-- The number of entries. -/
def size (t : Table κ α) : Nat := t.entries.length

/-- Without its entry a key has no value, and the others have theirs. -/
theorem find?_erase (t : Table κ α) (key other : κ) :
    (t.erase key).find? other = if other = key then none else t.find? other := by
  obtain ⟨entries⟩ := t
  induction entries with
  | nil => simp [erase, find?]
  | cons e rest ih =>
    simp only [erase, find?] at ih ⊢
    by_cases he : e.1 = key <;> by_cases ho : e.1 = other <;> by_cases hk : other = key <;>
      simp_all

/-- A key has the value it was given last, and the others have theirs. -/
theorem find?_insert (t : Table κ α) (key other : κ) (value : α) :
    (t.insert key value).find? other = if other = key then some value else t.find? other := by
  have h := find?_erase t key other
  simp only [find?, insert, List.find?_append] at h ⊢
  by_cases hk : other = key
  · subst hk
    simp only [if_pos, Option.map_eq_none_iff] at h
    simp [h]
  · simp only [if_neg hk] at h ⊢
    have hne : ¬ key = other := fun he => hk he.symm
    simpa [hne] using h

end Table

end Promotion
