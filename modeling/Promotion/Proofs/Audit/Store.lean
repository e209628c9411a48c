import Promotion.Audit.Store
import Promotion.Proofs.Audit.FileStore

/-!
# What a Log Keeps

A log by its entries, wherever it is kept.

A log in memory has its entries at hand. A log in a file has them in the file,
and there they are only safe if whatever is appended starts on a line of its
own. `Keeps` says both, so that it holds again with one entry more after every
record that is appended, and so that the entries can always be had.

## Main definitions

* `Audit.Store.Keeps`: A log has some entries, and will have what is appended.

## Theorems

* `Audit.Store.append_eq_error`: A log that refuses a record is as it was.
* `Audit.Store.Keeps.append`: A record that was appended is kept.
* `Audit.Store.keeps_new`: A new log keeps nothing yet.
-/

namespace Promotion

namespace Audit

namespace Store

/-- A log in memory refuses a record and is as it was, or has one entry more. -/
theorem memory_append_cases (m : MemoryStore) (record : Record) (now : Timestamp) :
    (∃ e, m.append record now = (.error e, m)) ∨
      m.append record now = (.ok (m.chain.nextEntry record now),
        ⟨m.entries ++ [m.chain.nextEntry record now],
          m.chain.push (m.chain.nextEntry record now)⟩) := by
  unfold MemoryStore.append
  cases record.dryRun with
  | true => exact .inl ⟨_, rfl⟩
  | false => exact .inr rfl

/-- A log that refuses a record is as it was. -/
theorem append_eq_error {store store' : Store} {record : Record} {now : Timestamp}
    {e : Error} (h : store.append record now = (.error e, store')) : store' = store := by
  cases store with
  | memory m =>
      rcases memory_append_cases m record now with ⟨f, hrefused⟩ | hkept
      · simp only [Store.append, hrefused] at h
        cases h
        rfl
      · simp only [Store.append, hkept] at h
        cases h
  | file f place =>
      rcases f.append_cases place record now with ⟨f', hrefused⟩ | ⟨content, -, hkept⟩
      · simp only [Store.append, hrefused] at h
        cases h
        rfl
      · simp only [Store.append, hkept] at h
        cases h

/-- A log has some entries, and will have whatever is appended to it. -/
def Keeps (store : Store) (es : List Entry) : Prop :=
  match store with
  | memory m => m.entries = es
  | file _ place =>
    place.entries = .ok es ∧ ∀ content, place.content? = some content → EndsClean content

/-- A new log keeps nothing yet: one in memory, or in a file that is empty or still to be made. -/
theorem keeps_new : (memory .empty).Keeps [] ∧ (file ⟨.empty⟩ .vacant).Keeps [] ∧
    (file ⟨.empty⟩ (.file [])).Keeps [] := by
  refine ⟨rfl, ⟨rfl, ?_⟩, ⟨rfl, ?_⟩⟩
  all_goals
    rintro content ⟨⟩
    exact nofun

/-- The entries that a log keeps can be had. -/
theorem Keeps.entries_eq {store : Store} {es : List Entry} (h : store.Keeps es) :
    store.entries = .ok es := by
  cases store with
  | memory m => exact congrArg Except.ok h
  | file f place => exact h.1

/-- A record that was appended is kept behind what was there. -/
theorem Keeps.append {store store' : Store} {es : List Entry} (h : store.Keeps es)
    {record : Record} {now : Timestamp} {entry : Entry}
    (happend : store.append record now = (.ok entry, store')) :
    store'.Keeps (es ++ [entry]) ∧ entry.record = record := by
  cases store with
  | memory m =>
      rcases memory_append_cases m record now with ⟨f, hrefused⟩ | hkept
      · simp only [Store.append, hrefused] at happend
        cases happend
      · simp only [Store.append, hkept] at happend
        cases happend
        exact ⟨congrArg (· ++ [_]) h, rfl⟩
  | file f place =>
      rcases h with ⟨hes, hclean⟩
      rcases f.append_cases place record now with ⟨f', hrefused⟩ | ⟨content, hcontent, hkept⟩
      · simp only [Store.append, hrefused] at happend
        cases happend
      · -- The file ends clean, so the new line is read as what was written, and it ends clean again.
        have hends := hclean content hcontent
        simp only [Store.append, hkept] at happend
        cases happend
        refine ⟨⟨?_, ?_⟩, rfl⟩
        · rw [Place.entries_of_content? hcontent] at hes
          rw [Place.entries_write hes, if_pos hends]
        · rintro content' ⟨⟩
          rw [lineBytes, ← List.append_assoc]
          exact endsClean_concat _

end Store

end Audit

end Promotion
