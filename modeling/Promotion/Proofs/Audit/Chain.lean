import Promotion.Audit.Chain

/-!
# Growing a Chain

What sealing records one after another does to a chain.

A store remembers the end of its chain and nothing else, so it can only be
right about the whole log if the end is all that the next entry depends on. It
is: a list is linked if its first part is and the rest is linked to the first
part's last hash, and `Chain.sealAll` links every entry to what the chain was
when the entry was sealed. What it numbers by is the chain's count, so the
numbers of what is sealed go on from there.

## Main definitions

* `NumberedFrom`, `Numbered`: Entries are numbered by their places.
* `Chain.sealAll`: The entries that records become at the end of a chain.
* `Chain.pushAll`: The chain behind some more entries.

## Theorems

* `linked_append`: A list is linked if its parts are, end to end.
* `linked_iff_getElem?`: A list is linked if every entry of it fits its place.
* `numberedFrom_append`: A list is numbered by place if its parts are, end to end.
* `Chain.linked_sealAll`: What is sealed onto a chain is linked to it.
* `Chain.numberedFrom_sealAll`: What is sealed onto a chain is numbered from its count.
* `Chain.ofEntries_append`: The end of a log is remembered through its growth.
* `verify_message?_eq_none`: Looking through a log finds nothing exactly if it is linked.
-/

namespace Promotion

namespace Audit

/-- The last hash of some entries that stand behind a hash. -/
def lastHash (previous : Option String) (entries : List Entry) : Option String :=
  match entries.getLast? with
  | some e => some e.hash
  | none => previous

@[simp] theorem lastHash_nil (previous : Option String) : lastHash previous [] = previous := rfl

@[simp] theorem lastHash_cons (previous : Option String) (e : Entry) (entries : List Entry) :
    lastHash previous (e :: entries) = lastHash (some e.hash) entries := by
  unfold lastHash
  rw [List.getLast?_cons]
  cases entries.getLast? <;> rfl

theorem lastHash_none (entries : List Entry) :
    lastHash none entries = entries.getLast?.map Entry.hash := by
  unfold lastHash
  cases entries.getLast? <;> rfl

/-- A list is linked if its parts are, the second to the last hash of the first. -/
theorem linked_append {previous : Option String} {es es' : List Entry} :
    Linked previous (es ++ es') ↔ Linked previous es ∧ Linked (lastHash previous es) es' := by
  induction es generalizing previous with
  | nil => simp [Linked]
  | cons e es ih => simp only [List.cons_append, Linked, ih, lastHash_cons, and_assoc]

/-- A list is linked if every entry is sound and names the last hash of what is before it. -/
theorem linked_iff_getElem? {previous : Option String} {es : List Entry} :
    Linked previous es ↔ ∀ i e, es[i]? = some e →
      e.sound = true ∧ e.previousHash = lastHash previous (es.take i) := by
  induction es generalizing previous with
  | nil => exact ⟨fun _ _ _ => nofun, fun _ => trivial⟩
  | cons first rest ih =>
      rw [Linked, ih]
      constructor
      · rintro ⟨hsound, hprevious, hrest⟩ i e he
        cases i with
        | zero =>
            cases he
            exact ⟨hsound, hprevious⟩
        | succ i =>
            rw [List.take_succ_cons, lastHash_cons]
            exact hrest i e he
      · intro h
        rcases h 0 first rfl with ⟨hsound, hprevious⟩
        refine ⟨hsound, hprevious, fun i e he => ?_⟩
        have hfits := h (i + 1) e he
        rwa [List.take_succ_cons, lastHash_cons] at hfits

/-- The numbers of some entries go up by one each, from `n`. -/
def NumberedFrom (n : Nat) (entries : List Entry) : Prop :=
  ∀ i e, entries[i]? = some e → e.sequence = UInt64.ofNat (n + i)

/-- Every entry has its place for a number. -/
def Numbered (entries : List Entry) : Prop :=
  ∀ i e, entries[i]? = some e → e.sequence = UInt64.ofNat i

theorem numberedFrom_zero {es : List Entry} : NumberedFrom 0 es ↔ Numbered es := by
  simp only [NumberedFrom, Numbered, Nat.zero_add]

theorem numberedFrom_nil (n : Nat) : NumberedFrom n [] := fun _ _ => nofun

theorem numberedFrom_cons {n : Nat} {e : Entry} {es : List Entry} :
    NumberedFrom n (e :: es) ↔ e.sequence = UInt64.ofNat n ∧ NumberedFrom (n + 1) es := by
  constructor
  · refine fun h => ⟨h 0 e rfl, fun i e' he' => ?_⟩
    rw [Nat.add_right_comm]
    exact h (i + 1) e' he'
  · rintro ⟨hfirst, hrest⟩ i e' he'
    cases i with
    | zero =>
        cases he'
        exact hfirst
    | succ i =>
        rw [← Nat.add_assoc, Nat.add_right_comm]
        exact hrest i e' he'

/-- A list is numbered by place if its parts are, the second from where the first ends. -/
theorem numberedFrom_append {n : Nat} {es es' : List Entry} :
    NumberedFrom n (es ++ es') ↔ NumberedFrom n es ∧ NumberedFrom (n + es.length) es' := by
  induction es generalizing n with
  | nil => exact (and_iff_right (numberedFrom_nil n)).symm
  | cons e es ih =>
      rw [List.cons_append, numberedFrom_cons, numberedFrom_cons, ih, and_assoc,
        List.length_cons, Nat.add_right_comm, Nat.add_assoc]

theorem numbered_append {es es' : List Entry} :
    Numbered (es ++ es') ↔ Numbered es ∧ NumberedFrom es.length es' := by
  rw [← numberedFrom_zero, numberedFrom_append, numberedFrom_zero, Nat.zero_add]

/-- Looking through a log finds nothing exactly if it is linked. -/
theorem verify_message?_eq_none {es : List Entry} :
    (verify es).message? = none ↔ Linked none es := by
  have hfault : firstFault none 0 es = none ↔ Linked none es := firstFault_eq_none_iff
  rw [← hfault]
  unfold verify Verdict.message?
  exact Option.map_eq_none_iff

namespace Chain

/-- The entries that some records become at the end of a chain, one after another. -/
def sealAll (c : Chain) : List (Record × Timestamp) → List Entry
  | [] => []
  | (record, now) :: rest =>
    let e := c.nextEntry record now
    e :: (c.push e).sealAll rest

/-- The chain behind some more entries. -/
def pushAll (c : Chain) (entries : List Entry) : Chain :=
  entries.foldl push c

theorem sealAll_record (c : Chain) (work : List (Record × Timestamp)) :
    (c.sealAll work).map Entry.record = work.map Prod.fst := by
  induction work generalizing c with
  | nil => rfl
  | cons w rest ih => exact congrArg (w.1 :: ·) (ih _)

/-- What is sealed onto a chain is linked to it. -/
theorem linked_sealAll (c : Chain) (work : List (Record × Timestamp)) :
    Linked c.lastHash (c.sealAll work) := by
  induction work generalizing c with
  | nil => trivial
  | cons w rest ih => exact ⟨Entry.sound_ofRecord .., rfl, ih (c.push (c.nextEntry w.1 w.2))⟩

/-- What is sealed onto a chain is numbered from the chain's count on. -/
theorem numberedFrom_sealAll {c : Chain} {n : Nat} (h : c.count = UInt64.ofNat n)
    (work : List (Record × Timestamp)) : NumberedFrom n (c.sealAll work) := by
  induction work generalizing c n with
  | nil => exact numberedFrom_nil n
  | cons w rest ih =>
      refine numberedFrom_cons.mpr ⟨h, ih ?_⟩
      rw [push, h, UInt64.ofNat_add]
      rfl

/-- The end of a log is remembered through its growth. -/
theorem ofEntries_append (es es' : List Entry) :
    ofEntries (es ++ es') = (ofEntries es).pushAll es' := by
  unfold pushAll
  induction es' generalizing es with
  | nil => rw [List.append_nil, List.foldl_nil]
  | cons e rest ih =>
      -- One entry at a time; the length is counted modulo the size of a counter on both sides.
      have hpush : ofEntries (es ++ [e]) = (ofEntries es).push e := by
        unfold ofEntries push
        rw [List.getLast?_concat, List.length_append, UInt64.ofNat_add]
        rfl
      rw [List.foldl_cons, ← hpush, ← ih, List.append_assoc, List.singleton_append]

/-- A linked log stays linked when records are sealed onto its end. -/
theorem linked_append_sealAll {es : List Entry} (h : Linked none es)
    (work : List (Record × Timestamp)) : Linked none (es ++ (ofEntries es).sealAll work) := by
  refine linked_append.mpr ⟨h, ?_⟩
  rw [lastHash_none]
  exact linked_sealAll (ofEntries es) work

end Chain

end Audit

end Promotion
