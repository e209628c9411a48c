import Promotion.Proofs.Audit.Alike
import Promotion.Proofs.Controller.Ledger

/-!
# Clocks That Go Forward

A log that is written by a clock that never goes back is in the order in which
answers are given.

The newest promotion of a tag is the one with the latest record, and of two with
one time the one with the greater number. If no reading of the clock is earlier
than one before it, and the numbers do not start again, that is the last one in
the log. Two logs that grew from one are in one order then, however their times
differ, so nothing more has to be asked of two runs that read the clock at
different times.

How far a clock has come is `reached`. Every request leaves it where it is or
lets it go on, and what is read is no earlier than that. A record is dated after
the log was asked and before it is written, so it is no earlier than any entry
there is, and the clock has reached its time when it is one of them.

## Main definitions

* `Audit.Later`: Some entries, with later and later ones behind them.
* `Audit.Store.count`: The number of the next entry.
* `Collaborators.Forward`: A clock that goes forward.
* `State.InTime`: A log that is not ahead of the clock, with numbers left.

## Theorems

* `Audit.sameOrder_of_later`: Two logs with one beginning are in one order.
* `Assessed.later`: A record is no earlier than what the clock had reached.
* `promote_inTime`: A promotion keeps a log in time.
* `State.InTime.sameOrder`: Two logs that are alike and in time are in one order.
-/

namespace Promotion

variable {σ : Type}

namespace Audit

/-- Some entries, with later and later ones behind them: none is earlier than one before it, and each
    has a greater number. -/
inductive Later (base : List Entry) : List Entry → Prop
  | start : Later base base
  | next {es : List Entry} {k : Entry} : Later base es →
      (∀ e ∈ es, e.record.timestamp ≤ k.record.timestamp ∧ e.sequence < k.sequence) →
      Later base (es ++ [k])

theorem Later.length_le {base es : List Entry} (h : Later base es) : base.length ≤ es.length := by
  induction h with
  | start => exact Nat.le_refl _
  | next _ _ ih =>
      rw [List.length_append]
      exact Nat.le_add_right_of_le ih

theorem newerOrSame_of_later {a b : Entry}
    (h : a.record.timestamp ≤ b.record.timestamp ∧ a.sequence < b.sequence) :
    newerOrSame a b = false ∧ newerOrSame b a = true := by
  rcases h with ⟨htime, hnumber⟩
  constructor
  · rw [← Bool.not_eq_true, newerOrSame_iff]
    rintro (hearlier | ⟨-, hle⟩)
    · exact Int.not_lt.mpr htime hearlier
    · exact UInt64.not_lt.mpr hle hnumber
  · rw [newerOrSame_iff]
    rcases Int.lt_or_eq_of_le htime with hlt | hsame
    · exact .inl hlt
    · exact .inr ⟨(Timestamp.rank_inj hsame).symm, UInt64.le_of_lt hnumber⟩

theorem newerOrSame_self (a : Entry) : newerOrSame a a = true :=
  newerOrSame_iff.mpr (.inr ⟨rfl, UInt64.le_refl _⟩)

/-- Two logs with one beginning and as many later entries are in one order. -/
theorem sameOrder_of_later {base es es' : List Entry} (h : Later base es) (h' : Later base es')
    (hlength : es.length = es'.length) : SameOrder (.ok es) (.ok es') := by
  induction h generalizing es' with
  | start =>
      cases h' with
      | start =>
          -- An entry of the one is paired with itself.
          have hsame : ∀ {p}, p ∈ base.zip base → p.1 = p.2 :=
            (List.forall₂_iff_zip.mp (List.forall₂_same.mpr fun _ _ => rfl)).2
          intro p hp q hq
          rw [hsame hp, hsame hq]
      | next h' _ =>
          have hle := h'.length_le
          rw [List.length_append, List.length_singleton] at hlength
          omega
  | @next es k h hlater ih =>
      cases h' with
      | start =>
          have hle := h.length_le
          rw [List.length_append, List.length_singleton] at hlength
          omega
      | @next es' k' h' hlater' =>
          rw [List.length_append, List.length_append, List.length_singleton,
            List.length_singleton, Nat.add_right_cancel_iff] at hlength
          have hold := ih h' hlength
          intro p hp q hq
          rw [List.zip_append hlength, List.mem_append, List.zip_cons_cons, List.zip_nil_left,
            List.mem_singleton] at hp hq
          rcases hp with hp | rfl <;> rcases hq with hq | rfl
          · exact hold p hp q hq
          · rcases List.of_mem_zip hp with ⟨hfirst, hsecond⟩
            exact (newerOrSame_of_later (hlater p.1 hfirst)).1.trans
              (newerOrSame_of_later (hlater' p.2 hsecond)).1.symm
          · rcases List.of_mem_zip hq with ⟨hfirst, hsecond⟩
            exact (newerOrSame_of_later (hlater q.1 hfirst)).2.trans
              (newerOrSame_of_later (hlater' q.2 hsecond)).2.symm
          · exact (newerOrSame_self k).trans (newerOrSame_self k').symm

/-- The number of the next entry. -/
def Store.count : Store → UInt64
  | memory m => m.chain.count
  | file f _ => f.chain.count

/-- An entry takes the next number, and the one after it is next from then on. -/
theorem Store.count_append {store store' : Store} {record : Record} {now : Timestamp}
    {entry : Entry} (h : store.append record now = (.ok entry, store')) :
    entry.sequence = store.count ∧ store'.count = store.count + 1 := by
  cases store with
  | memory m =>
      rcases memory_append_cases m record now with ⟨f, hrefused⟩ | hkept
      · simp only [append, hrefused] at h
        cases h
      · simp only [append, hkept] at h
        cases h
        exact ⟨rfl, rfl⟩
  | file f place =>
      rcases f.append_cases place record now with ⟨f', hrefused⟩ | ⟨content, -, hkept⟩
      · simp only [append, hrefused] at h
        cases h
      · simp only [append, hkept] at h
        cases h
        exact ⟨rfl, rfl⟩

end Audit

/-- A clock that goes forward: no request takes it back, and what is read is no earlier than what it
    had reached and no later than what it has reached then. -/
structure Collaborators.Forward (k : Collaborators σ) (reached : σ → Int) : Prop where
  resolve : ∀ uri tag w, reached w ≤ reached (k.registry.resolve uri tag w).2
  fetch : ∀ artifact w, reached w ≤ reached (k.registry.fetch artifact w).2
  createTag : ∀ artifact tag w, reached w ≤ reached (k.registry.createTag artifact tag w).2
  removeTag : ∀ uri tag w, reached w ≤ reached (k.registry.removeTag uri tag w).2
  gates : ∀ name subject w, reached w ≤ reached (k.gates name subject w).2
  build : ∀ w, reached w ≤ reached (k.verifier.build w).2
  verify : ∀ artifact content policy w,
    reached w ≤ reached (k.verifier.verify artifact content policy w).2
  append : ∀ record w, reached w ≤ reached (k.audit.append record w).2
  query : ∀ question w, reached w ≤ reached (k.audit.query question w).2
  freshId : ∀ w, reached w ≤ reached (k.freshId w).2
  later : ∀ w, reached w ≤ (k.clock w).1.rank
  shown : ∀ w, (k.clock w).1.rank ≤ reached (k.clock w).2

namespace Controller

variable {c : Controller σ} {reached : σ → Int}

section

variable (h : c.collaborators.Forward reached)

include h

/-- Whatever the clock has reached, it does not go back behind it before the writes. -/
theorem forward_looks (bound : Int) : c.Looks fun s => bound ≤ reached s.world where
  resolve _ _ hs := Int.le_trans hs (h.resolve _ _ _)
  gates _ _ _ hs := Int.le_trans hs (h.gates _ _ _)
  query _ _ hs := Int.le_trans hs (h.query _ _)
  clock _ hs := Int.le_trans hs (Int.le_trans (h.later _) (h.shown _))
  freshId _ hs := Int.le_trans hs (h.freshId _)
  fetch _ _ hs := Int.le_trans hs (h.fetch _ _)
  build _ hs := Int.le_trans hs (h.build _)
  verify _ _ _ _ hs := Int.le_trans hs (h.verify _ _ _ _)
  remembers _ _ _ hs := hs

/-- Nor does it with the writes. -/
theorem forward_land (bound : Int) (artifact : Artifact) (record : Record) :
    (c.land artifact record).Preserves fun s => bound ≤ reached s.world :=
  land_preserves (forward_looks h bound).toAsks
    (fun _ _ _ hs => Int.le_trans hs (h.createTag _ _ _))
    (fun _ _ hs => Int.le_trans hs (h.removeTag _ _ _)) (fun _ _ hs => hs)
    (fun _ hs => Int.le_trans hs (h.append _ _)) artifact

theorem forward_promote (bound : Int) (r : Request) :
    (c.promote r).Preserves fun s => bound ≤ reached s.world :=
  promote_preserves (forward_looks h bound)
    (fun _ _ _ hs => Int.le_trans hs (h.createTag _ _ _))
    (fun _ _ hs => Int.le_trans hs (h.removeTag _ _ _)) (fun _ _ hs => hs)
    (fun _ _ hs => Int.le_trans hs (h.append _ _)) r

/-- A record is dated no earlier than what the clock had reached, and the clock has reached its time
    then. -/
theorem Assessed.later {r : Request} {t t' : Traced (State σ)} {artifact : Artifact}
    {record : Record} (hassessed : c.Assessed r t artifact record t') :
    reached t.world.world ≤ record.timestamp.rank ∧
      record.timestamp.rank ≤ reached t'.world.world := by
  have hlooks := forward_looks h (reached t.world.world)
  cases hassessed with
  | @passed _ target _ _ _ _ _ t₁ t₂ t₃ w₄ w₅ _ _ _ hresolve hgates hcheck hauth hid hstamp =>
      have hresolved := hlooks.resolveTag r.tag t (Int.le_refl _)
      rw [hresolve] at hresolved
      have hran := hlooks.runList ⟨artifact, target, r.dryRun⟩ target.gates t₁ hresolved
      have hgates : (inWorld (Gate.runList c.collaborators.gates ⟨artifact, target, r.dryRun⟩
        target.gates)).outcome t₁ = _ := hgates
      rw [hgates] at hran
      have hchecked := hlooks.checkSignature artifact target t₂ hran
      rw [hcheck] at hchecked
      have hlet := hlooks.authorize r.operator r.tag r.source target t₃.world hchecked
      rw [hauth] at hlet
      have hnamed := h.freshId w₄
      rw [hid] at hnamed
      have hdated := h.later w₅
      have hshown := h.shown w₅
      rw [hstamp] at hdated hshown
      exact ⟨Int.le_trans (Int.le_trans hlet hnamed) hdated, hshown⟩

/-- So is the record that a promotion succeeds with. -/
theorem promote_later {r : Request} {t t' : Traced (State σ)} {record : Record}
    (hrun : (c.promote r).outcome t = (.ok record, t')) :
    reached t.world.world ≤ record.timestamp.rank ∧
      record.timestamp.rank ≤ reached t'.world.world := by
  rcases Action.bind_eq_ok.mp hrun with ⟨⟨artifact, found⟩, t₁, hassess, hrest⟩
  rcases (assessed_of_outcome hassess).later h with ⟨hlater, hshown⟩
  simp only at hrest
  split at hrest
  · cases hrest
    exact ⟨hlater, hshown⟩
  · rw [land_eq_ok hrest]
    have hkept := forward_land h found.timestamp.rank artifact found t₁ hshown
    rw [hrest] at hkept
    exact ⟨hlater, hkept⟩

/-- A log of some entries and later ones behind them. No entry is ahead of the clock or of the next
    number, and there are numbers left for some more. -/
def State.InTime (log : σ → Audit.Store) (reached : σ → Int) (base : List Audit.Entry) (more : Nat)
    (s : State σ) : Prop :=
  ∃ es, (log s.world).Keeps es ∧ Audit.Later base es ∧
    (∀ e ∈ es, e.record.timestamp.rank ≤ reached s.world ∧ e.sequence < (log s.world).count) ∧
    (log s.world).count.toNat + more < UInt64.size

/-- A promotion keeps a log in time, and takes one number at most. -/
theorem promote_inTime {log : σ → Audit.Store} (hlog : c.collaborators.Logs log)
    {base : List Audit.Entry} {more : Nat} (r : Request) {t : Traced (State σ)}
    (ht : t.world.InTime log reached base (more + 1)) :
    ((c.promote r).outcome t).2.world.InTime log reached base more := by
  rcases ht with ⟨es, hkeeps, hlater, hpast, hroom⟩
  have hforward := forward_promote h (reached t.world.world) r t (Int.le_refl _)
  rcases hrun : (c.promote r).outcome t with ⟨answer, t'⟩
  rw [hrun] at hforward
  rcases promote_logs hlog hrun with
    ⟨-, hsame⟩ | ⟨_, record, _, entry, now, hone, -, hreal, -, happend⟩
  · refine ⟨es, hsame ▸ hkeeps, hlater, fun e he => ?_, ?_⟩
    · rw [hsame]
      exact (hpast e he).imp_left fun htime => Int.le_trans htime hforward
    · rw [hsame]
      omega
  cases answer with
  | error e => cases hone
  | ok answer =>
      simp only [landed, hreal, Bool.false_eq_true, if_false, List.cons.injEq, and_true] at hone
      rcases promote_later h (hone ▸ hrun) with ⟨hnew, hshown⟩
      rcases hkeeps.append happend with ⟨hkeeps', hrecord⟩
      rcases Audit.Store.count_append happend with ⟨hnumber, hcount⟩
      rw [← hrecord] at hnew hshown
      have hnext : (log t'.world.world).count.toNat = (log t.world.world).count.toNat + 1 := by
        rw [hcount, UInt64.toNat_add]
        exact Nat.mod_eq_of_lt
          (Nat.lt_of_le_of_lt (Nat.add_le_add_left (Nat.le_add_left 1 more) _) hroom)
      refine ⟨es ++ [entry], hkeeps', hlater.next fun e he => ?_, ?_, ?_⟩
      · exact ⟨Int.le_trans (hpast e he).1 hnew, hnumber ▸ (hpast e he).2⟩
      · simp only [List.mem_append, List.mem_singleton, UInt64.lt_iff_toNat_lt, hnext]
        rintro e (he | rfl)
        · have hbefore := UInt64.lt_iff_toNat_lt.mp (hpast e he).2
          exact ⟨Int.le_trans (hpast e he).1 hforward, by omega⟩
        · exact ⟨hshown, by rw [hnumber]; omega⟩
      · rw [hnext]
        omega

end

/-- Two logs that are alike and in time are in one order. -/
theorem State.InTime.sameOrder {log : σ → Audit.Store} {base : List Audit.Entry} {more : Nat}
    {s s' : State σ} (h : s.InTime log reached base more) (h' : s'.InTime log reached base more)
    (halike : (log s.world).Alike (log s'.world)) :
    Audit.SameOrder (log s.world).entries (log s'.world).entries := by
  rcases h with ⟨es, hes, hlater, -, -⟩
  rcases h' with ⟨es', hes', hlater', -, -⟩
  have hall := halike.entries
  rw [hes.entries_eq, hes'.entries_eq] at hall ⊢
  rcases hall with _ | hall
  exact Audit.sameOrder_of_later hlater hlater' hall.length_eq

end Controller

end Promotion
