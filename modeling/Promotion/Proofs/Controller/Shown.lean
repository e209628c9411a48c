import Promotion.Proofs.Audit.MemoryStore
import Promotion.Proofs.Controller.Forward
import Promotion.Proofs.Controller.Rungs
import Promotion.Proofs.Controller.Standing

/-!
# A Promotion Shows

A promotion that succeeded is what the next question for its tag is answered
with.

The question goes another way than the promotion. It resolves the tag, and the
tag can be one of those that were just moved; but then it was moved to the
digest that it pointed to. It asks the log for all that was recorded of the tag,
with other digests and into other environments, and searches it from the front.
The new record stands last in the log and has the greatest number, so it stands
in front unless a clock went back. Even then it is found as a promotion of its
digest; only time and operator may be those of another.

## Theorems

* `Audit.history_concat`: The last entry stands in front if no other is newer.
* `Controller.promote_resolves`: What is promoted is what the tag points to, before and after.
* `Controller.promote_appends`: Its entry stands behind all others.
* `Controller.promote_shown`: A promotion shows as soon as it succeeded.
-/

namespace Promotion

variable {ε : Type}

namespace Audit

/-- The last entry of a log stands in front of its tag's answer if no other is newer. -/
theorem history_concat {es : List Entry} {e : Entry}
    (h : ∀ e' ∈ es, e'.record.tag = e.record.tag → newerOrSame e' e = false) :
    ∃ others, history (es ++ [e]) e.record.tag = e :: others := by
  have hfilter : (es ++ [e]).filter (fun e' => decide (e'.record.tag = e.record.tag)) =
      es.filter (fun e' => decide (e'.record.tag = e.record.tag)) ++ [e] := by
    simp [List.filter_append]
  have hnewest : Newest ((es ++ [e]).filter fun e' => decide (e'.record.tag = e.record.tag)) e := by
    rw [hfilter]
    refine ⟨_, [], rfl, fun e' he' => ?_, List.forall_mem_nil _⟩
    rcases List.mem_filter.mp he' with ⟨he', htag⟩
    exact h e' he' (of_decide_eq_true htag)
  have hhead : (history (es ++ [e]) e.record.tag).head? = some e := by
    unfold history
    rw [head?_mergeSort, hnewest.newest?_eq]
  exact List.head?_eq_some_iff.mp hhead

/-- The entry that comes next in a log in memory is newer than any that is no later in time. -/
theorem MemoryStore.Grown.newerOrSame_nextEntry {m : MemoryStore} (h : m.Grown)
    (hroom : m.entries.length < UInt64.size) {record : Record} {now : Timestamp} {e : Entry}
    (he : e ∈ m.entries) (htime : e.record.timestamp ≤ record.timestamp) :
    newerOrSame e (m.chain.nextEntry record now) = false := by
  rcases List.mem_iff_getElem?.mp he with ⟨i, hi⟩
  have hlt : i < m.entries.length := (List.getElem?_eq_some_iff.mp hi).1
  have hnumber : e.sequence < (m.chain.nextEntry record now).sequence := by
    rw [Chain.nextEntry_sequence, h.numbered i e hi, h.chain_eq, Chain.ofEntries,
      UInt64.lt_iff_toNat_lt, UInt64.toNat_ofNat_of_lt' (Nat.lt_trans hlt hroom),
      UInt64.toNat_ofNat_of_lt' hroom]
    exact hlt
  rw [← Chain.nextEntry_record m.chain record now] at htime
  exact (newerOrSame_of_later ⟨htime, hnumber⟩).1

end Audit

namespace Controller

variable {s : Surroundings ε} {pipeline : Pipeline} {uri : String}

/-- What an assessment is about is what the tag points to, and an environment of the pipeline. -/
theorem Assessed.resolved {r : Request} {t t' : Traced (State (World ε))} {artifact : Artifact}
    {record : Record} (h : (World.controller s pipeline uri).Assessed r t artifact record t') :
    t.world.world.registry.digestOf uri r.tag = some record.digest ∧ r.target ∈ pipeline.names := by
  cases h with
  | passed _ hfound hresolve =>
      constructor
      · rcases resolve_eq_ok hresolve with ⟨digest, w, hcall, rfl, -⟩
        change (World.registryClient s).resolve uri r.tag t.world.world = _ at hcall
        rcases World.resolve_cases s uri r.tag t.world.world with
          ⟨e, around, -, he⟩ | ⟨around, hanswer⟩
        · cases he.symm.trans hcall
        · have hdigest := congrArg Prod.fst (hanswer.symm.trans hcall)
          simp only [Registry.resolve] at hdigest
          cases hd : t.world.world.registry.digestOf uri r.tag with
          | none =>
              rw [hd] at hdigest
              cases hdigest
          | some digest' =>
              rw [hd] at hdigest
              cases hdigest
              rfl
      · change pipeline.environments.find? _ = some _ at hfound
        have hname := List.find?_some hfound
        rw [decide_eq_true_eq] at hname
        rw [← hname]
        exact List.mem_map_of_mem (List.mem_of_find?_eq_some hfound)

/-- A promotion that succeeds is about what the tag points to. The tag still points there after it,
    though it may be one of those that were moved, and the target's latest tag does so too. -/
theorem promote_resolves {r : Request} (hreal : r.dryRun = false)
    {t t' : Traced (State (World ε))} {record : Record}
    (h : ((World.controller s pipeline uri).promote r).outcome t = (.ok record, t')) :
    r.target ∈ pipeline.names ∧
      t'.world.world.registry.digestOf uri r.tag = some record.digest ∧
      t'.world.world.registry.digestOf uri (latestTag r.target) = some record.digest := by
  rcases promote_eq_ok h with ⟨htag, htarget, hregistry, -⟩
  have hresolved : t.world.world.registry.digestOf uri r.tag = some record.digest ∧
      r.target ∈ pipeline.names := by
    have hends := concluded_promote (World.controller s pipeline uri) r t
    rw [h] at hends
    change Concluded _ r t (.ok record, t'.world) at hends
    generalize t'.world = after at hends
    cases hends with
    | rehearsed hassess _ => exact (assessed_of_outcome hassess).resolved
    | landed hassess _ _ _ _ => exact (assessed_of_outcome hassess).resolved
  have hmoved : t'.world.world.registry.digestOf =
      moved uri t.world.world.registry.digestOf record := by
    rw [hregistry, landed, hreal]
    rfl
  refine ⟨hresolved.2, ?_, ?_⟩
  · rw [hmoved, moved]
    split
    · rfl
    · exact hresolved.1
  · rw [hmoved, moved, htarget, if_pos ⟨rfl, .inr rfl⟩]

/-- A promotion that succeeds puts its entry behind all others of a log in memory. -/
theorem promote_appends {m : Audit.MemoryStore} {t t' : Traced (State (World ε))}
    (hlog : t.world.world.audit = .memory m) {r : Request} (hreal : r.dryRun = false)
    {record : Record}
    (h : ((World.controller s pipeline uri).promote r).outcome t = (.ok record, t')) :
    ∃ entry now, entry = m.chain.nextEntry record now ∧
      t'.world.world.audit.entries = .ok (m.entries ++ [entry]) := by
  rcases promote_eq_ok h with ⟨-, -, -, ⟨hdry, -⟩ | ⟨-, entry, now, happend⟩⟩
  · rw [hreal] at hdry
    cases hdry
  rw [hlog] at happend
  rcases Audit.Store.memory_append_cases m record now with ⟨e, hrefused⟩ | hkept
  · simp only [Audit.Store.append, hrefused] at happend
    cases happend
  simp only [Audit.Store.append, hkept, Prod.mk.injEq, Except.ok.injEq] at happend
  refine ⟨entry, now, happend.1.symm, ?_⟩
  rw [← happend.2, ← happend.1]
  rfl

/-- A promotion shows as soon as it succeeded. Whatever was appended to the log in memory before,
    the next question for the tag, about the target or about all environments, is answered with the
    digest that was promoted, if none of the lookups is refused. The target has it and has it as its
    latest. If no record of the tag is later than that of the promotion, time and operator are its
    own, and it begins the history; only the log's counter must not have gone round by then. -/
theorem promote_shown {work : List (Record × Timestamp)} {t t' : Traced (State (World ε))}
    (hlog : t.world.world.audit = .memory (.appendAll .empty work)) {r : Request}
    (hreal : r.dryRun = false) {record : Record}
    (hpromote : ((World.controller s pipeline uri).promote r).outcome t = (.ok record, t'))
    {environment : Option String} (henvironment : environment = none ∨ environment = some r.target)
    (hgrants : s.Grants (lookups r.tag (environment.elim pipeline.names fun name => [name]))
      t'.world.world.around) (n : Nat) :
    ∃ st t'', ((World.controller s pipeline uri).standing r.tag environment n).outcome t' =
        (.ok st, t'') ∧ st.digest = record.digest ∧
      ∃ standing, st.environments.get? r.target = some standing ∧ standing.promoted = true ∧
        standing.isLatest = true ∧
        let before := (Audit.MemoryStore.appendAll .empty work).entries
        ((∀ e ∈ before, e.record.tag = r.tag → e.record.timestamp ≤ record.timestamp) →
          before.length < UInt64.size →
          standing.promotedAt = some record.timestamp ∧ standing.operator = some record.operator ∧
            (1 ≤ n → st.history.head? = some (.ofRecord record))) := by
  have hgrown := Audit.MemoryStore.grown_appendAll work
  rcases promote_resolves hreal hpromote with ⟨hknown, hdigest, hlatest⟩
  rcases promote_eq_ok hpromote with ⟨htag, htarget, -, -⟩
  rcases promote_appends hlog hreal hpromote with ⟨entry, now, hentry, hes⟩
  generalize Audit.MemoryStore.appendAll .empty work = m at hgrown hentry hes ⊢
  have hrecord : entry.record = record := by
    rw [hentry, Audit.Chain.nextEntry_record]
  have hasked : (World.controller s pipeline uri).asked environment =
      .ok (environment.elim pipeline.names fun name => [name]) := by
    refine asked_of_forall fun name hname => ?_
    rcases henvironment with rfl | rfl
    · cases hname
    · cases hname
      exact hknown
  have hmem : r.target ∈ environment.elim pipeline.names fun name => [name] := by
    rcases henvironment with rfl | rfl
    · exact hknown
    · exact List.mem_cons_self
  rcases standing_granted hes hdigest hasked hgrants with ⟨queriedAt, around, hstanding⟩
  refine ⟨_, _, hstanding n, rfl,
    .ofRecords ((Audit.history (m.entries ++ [entry]) r.tag).map Audit.Entry.record) record.digest
      r.target (t'.world.world.registry.digestOf uri (latestTag r.target)),
    ?_, ?_, ?_, fun htimes hroom => ?_⟩
  · rw [EnvironmentStanding.table_get?, if_pos hmem]
  · -- The new entry is among those that are searched, and it fits.
    have hin : record ∈ (Audit.history (m.entries ++ [entry]) r.tag).map Audit.Entry.record :=
      List.mem_map.mpr ⟨entry, Audit.mem_history.mpr ⟨by simp, by rw [hrecord, htag]⟩, hrecord⟩
    exact List.find?_isSome.mpr ⟨record, hin, by simp [htarget]⟩
  · exact decide_eq_true hlatest
  · have hfirst : ∃ others, Audit.history (m.entries ++ [entry]) r.tag = entry :: others := by
      rw [← htag, ← hrecord]
      refine Audit.history_concat fun e he hsame => ?_
      rw [hrecord, htag] at hsame
      rw [hentry]
      exact hgrown.newerOrSame_nextEntry hroom he (htimes e he hsame)
    rcases hfirst with ⟨others, hfirst⟩
    rw [hfirst, List.map_cons, hrecord]
    have hfind : (record :: others.map Audit.Entry.record).find?
        (fun r' => r'.toEnv = r.target && r'.digest = record.digest) = some record :=
      List.find?_cons_of_pos (by simp [htarget])
    refine ⟨?_, ?_, fun hn => ?_⟩
    · simp only [EnvironmentStanding.ofRecords, hfind, Option.map_some]
    · simp only [EnvironmentStanding.ofRecords, hfind, Option.map_some]
    · rcases Nat.exists_eq_add_of_le' hn with ⟨n', rfl⟩
      rfl

/-- A promotion of the very tag that points to the latest artifact of its target, where the log has
    another digest under that tag already. -/
theorem promote_shown_latest :
    let c := World.controller .calm (World.ladder (.named "prod")) "registry"
    let r := { World.climb false with tag := latestTag "prod" }
    let old : Record := { (default : Record) with tag := latestTag "prod", toEnv := "prod" }
    let t : Traced (State (World Unit)) := ⟨.fresh
      ⟨Registry.empty.push ⟨"registry", latestTag "prod", ⟨"sha256:a1"⟩⟩ [],
        .memory (.appendAll .empty [(old, .epoch)]), ()⟩, []⟩
    ∃ record t', (c.promote r).outcome t = (.ok record, t') ∧
      ∃ st t'', (c.standing r.tag (some "prod") 1).outcome t' = (.ok st, t'') ∧
        st.digest = record.digest ∧ st.history.head? = some (.ofRecord record) ∧
        ∃ standing, st.environments.get? "prod" = some standing ∧ standing.isLatest = true ∧
          standing.promotedAt = some record.timestamp := by
  intro c r old t
  have hrun : ((c.promote r).outcome t).1.toOption.map Record.timestamp = some .epoch := by
    decide +kernel
  rcases hpromote : (c.promote r).outcome t with ⟨e | record, t'⟩
  · rw [hpromote] at hrun
    cases hrun
  rw [hpromote] at hrun
  have htime : record.timestamp = .epoch := Option.some.inj hrun
  have hgrants : Surroundings.calm.Grants (lookups r.tag ["prod"]) t'.world.world.around :=
    ⟨rfl, rfl, rfl, trivial⟩
  have hlog : t.world.world.audit = .memory (.appendAll .empty [(old, .epoch)]) := rfl
  rcases promote_shown hlog rfl hpromote (.inr rfl) hgrants 1 with
    ⟨st, t'', hstanding, hdigest, standing, hfound, -, hlatest, hnewest⟩
  have htimes : ∀ e ∈ (Audit.MemoryStore.appendAll .empty [(old, .epoch)]).entries,
      e.record.tag = r.tag → e.record.timestamp ≤ record.timestamp := by
    rw [htime]
    decide +kernel
  rcases hnewest htimes (by decide +kernel) with ⟨hat, -, hhistory⟩
  exact ⟨record, t', rfl, st, t'', hstanding, hdigest, hhistory (Nat.le_refl 1), standing, hfound,
    hlatest, hat⟩

end Controller

end Promotion
