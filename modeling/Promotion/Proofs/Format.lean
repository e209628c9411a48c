import Promotion.Format.Record

/-!
# Lawful Formats

Every way to make a format gives back what was written, if what it is made of
does.

A value that may be missing needs a little more: null stands for the missing
one, so nothing that is there may be written as null. A record needs its members
to have different names, and a member that is sometimes not written has to be
what stands for a missing one then.

## Main definitions

* `Format.NeverNull`: No value is written as null.
* `Member.Lawful`, `Members.Lawful`: The members of a record can be read back.

## Theorems

* `ofObject_toObject`: The members of a record are read back among others.
* `Format.record_lawful`: A record is read back.
-/

namespace Promotion

variable {α β γ ρ : Type}

namespace Format

/-- No value is written as null. -/
def NeverNull (f : Format α) : Prop :=
  ∀ a, f.encode a ≠ .null

/-- What is read back is written as nothing else is. -/
theorem Lawful.encode_inj {f : Format α} (h : f.Lawful) {a b : α} (heq : f.encode a = f.encode b) :
    a = b := by
  have hdecode := congrArg f.decode heq
  rw [h a, h b] at hdecode
  exact Option.some.inj hdecode

theorem string_lawful : string.Lawful := fun _ => rfl

theorem string_neverNull : string.NeverNull := fun _ => nofun

theorem bool_lawful : bool.Lawful := fun _ => rfl

theorem uint64_lawful : uint64.Lawful := by
  intro n
  have hlt : n.toNat < UInt64.size := n.toNat_lt
  simp only [uint64, Json.nat, hlt, if_true, UInt64.ofNat_toNat]

theorem uint64_neverNull : uint64.NeverNull := fun _ => nofun

theorem uint32_lawful : uint32.Lawful := by
  intro n
  have hlt : n.toNat < UInt32.size := n.toNat_lt
  simp only [uint32, Json.nat, hlt, if_true, UInt32.ofNat_toNat]

theorem ofText_lawful {print : α → String} {parse : String → Option α}
    (h : ∀ a, parse (print a) = some a) : (ofText print parse).Lawful := h

theorem ofText_neverNull {print : α → String} {parse : String → Option α} :
    (ofText print parse).NeverNull := fun _ => nofun

theorem option_lawful {f : Format α} (h : f.Lawful) (hnull : f.NeverNull) : f.option.Lawful := by
  intro a
  cases a with
  | none => rfl
  | some a =>
      simp only [option]
      -- The one confusion there could be: a value that reads as the missing one.
      split
      · rename_i heq
        exact absurd heq (hnull a)
      · rw [h a, Option.map_some]

theorem list_lawful {f : Format α} (h : f.Lawful) : f.list.Lawful := by
  intro as
  simp only [list]
  induction as with
  | nil => rfl
  | cons a as ih =>
      rw [List.map_cons, List.mapM_cons, h a, ih]
      rfl

/-- A map is read back: its entries are, and they come in the order of their keys. -/
theorem map_lawful {f : Format α} (h : f.Lawful) : f.map.Lawful := by
  intro m
  have hentries : ∀ es : List (String × α),
      (es.map fun e => (e.1, f.encode e.2)).mapM (fun e => (f.decode e.2).map (e.1, ·)) =
        some es := by
    intro es
    induction es with
    | nil => rfl
    | cons e es ih =>
        rw [List.map_cons, List.mapM_cons, h e.2, ih]
        rfl
  have hread : f.map.decode (f.map.encode m) = some (SortedMap.ofList m.toList) :=
    congrArg (Option.map SortedMap.ofList) (hentries m.toList)
  rw [hread, SortedMap.ofList_toList]

theorem oneOf_lawful {values : List α} {name : α → String}
    (h : ∀ a, values.find? (fun b => name b = name a) = some a) : (oneOf values name).Lawful := h

theorem convert_lawful {f : Format α} {unwrap : β → α} {wrap : α → β} (h : f.Lawful)
    (hwrap : ∀ b, wrap (unwrap b) = b) : (f.convert unwrap wrap).Lawful := by
  intro b
  simp only [convert, h (unwrap b), Option.map_some, hwrap]

end Format

/-- A member is read back, also when it is not written. -/
structure Member.Lawful (m : Member γ) : Prop where
  format : m.format.Lawful
  silent : ∀ value, m.silent value = true → m.absent = some value

namespace Member

theorem required_lawful {key : String} {f : Format γ} (h : f.Lawful) :
    (required key f).Lawful := ⟨h, nofun⟩

theorem defaulted_lawful {key : String} {f : Format γ} {value : γ} (h : f.Lawful) :
    (defaulted key f value).Lawful := ⟨h, nofun⟩

theorem optional_lawful {key : String} {f : Format γ} (h : f.Lawful) (hnull : f.NeverNull) :
    (optional key f).Lawful := ⟨Format.option_lawful h hnull, nofun⟩

theorem whenPresent_lawful {key : String} {f : Format γ} (h : f.Lawful) (hnull : f.NeverNull) :
    (whenPresent key f).Lawful where
  format := Format.option_lawful h hnull
  silent value hsilent := by
    rw [Option.isNone_iff_eq_none.mp hsilent]
    rfl

/-- A member does not see members of other names. -/
theorem ofObject_among {m : Member γ} {before after : List (String × Json)}
    (hbefore : ∀ e ∈ before, e.1 ≠ m.key) (hafter : ∀ e ∈ after, e.1 ≠ m.key)
    (es : List (String × Json)) : m.ofObject (before ++ (es ++ after)) = m.ofObject es := by
  have hothers : ∀ es : List (String × Json), (∀ e ∈ es, e.1 ≠ m.key) →
      es.filter (fun e => e.1 = m.key) = [] := by
    intro es hes
    exact List.filter_eq_nil_iff.mpr fun e he => by simpa using hes e he
  unfold ofObject
  rw [List.filter_append, List.filter_append, hothers before hbefore, hothers after hafter,
    List.nil_append, List.append_nil]

theorem key_eq_of_mem_toObject {m : Member γ} {value : γ} {e : String × Json}
    (h : e ∈ m.toObject value) : e.1 = m.key := by
  unfold toObject at h
  split at h
  · cases h
  · rw [List.mem_singleton.mp h]

/-- A member is read back among others of other names. -/
theorem ofObject_toObject {m : Member γ} (h : m.Lawful) (value : γ)
    {before after : List (String × Json)} (hbefore : ∀ e ∈ before, e.1 ≠ m.key)
    (hafter : ∀ e ∈ after, e.1 ≠ m.key) :
    m.ofObject (before ++ (m.toObject value ++ after)) = some value := by
  rw [ofObject_among hbefore hafter]
  unfold toObject
  -- A member that was not written is read as what stands for a missing one.
  by_cases hsilent : m.silent value = true
  · rw [if_pos hsilent]
    exact h.silent value hsilent
  · rw [if_neg hsilent]
    simp only [ofObject, List.filter_cons, decide_true, if_true, List.filter_nil]
    exact h.format value

end Member

namespace Members

/-- The members of a record can be read back: each can, and no two have one name. -/
def Lawful {β : Type} : Members ρ β → Prop
  | .nil => True
  | .cons m _ rest => m.Lawful ∧ m.key ∉ rest.keys ∧ rest.Lawful

theorem mem_keys_of_mem_toObject {ms : Members ρ β} {r : ρ} {e : String × Json}
    (h : e ∈ ms.toObject r) : e.1 ∈ ms.keys := by
  induction ms with
  | nil => cases h
  | cons m get rest ih =>
      rcases List.mem_append.mp h with h | h
      · rw [Member.key_eq_of_mem_toObject h]
        exact List.mem_cons_self
      · exact List.mem_cons_of_mem _ (ih h)

/-- The members of a record are read back among others of other names. -/
theorem ofObject_toObject {ms : Members ρ β} (h : ms.Lawful) (build : β) (r : ρ)
    {before : List (String × Json)} (hbefore : ∀ e ∈ before, e.1 ∉ ms.keys) :
    ms.ofObject build (before ++ ms.toObject r) = some (ms.rebuild build r) := by
  induction ms generalizing before with
  | nil => rfl
  | cons m get rest ih =>
      rcases h with ⟨hm, hkey, hrest⟩
      -- The members already read stand before, so `before` grows along the induction.
      have hfirst : m.ofObject (before ++ (m.toObject (get r) ++ rest.toObject r)) =
          some (get r) := by
        refine Member.ofObject_toObject hm (get r) ?_ ?_
        · intro e he hsame
          exact hbefore e he (hsame ▸ List.mem_cons_self)
        · intro e he hsame
          exact hkey (hsame ▸ mem_keys_of_mem_toObject he)
      simp only [ofObject, toObject, rebuild, hfirst]
      rw [← List.append_assoc]
      refine ih hrest (build (get r)) ?_
      intro e he
      rcases List.mem_append.mp he with he | he
      · exact fun hin => hbefore e he (List.mem_cons_of_mem _ hin)
      · rw [Member.key_eq_of_mem_toObject he]
        exact hkey

end Members

namespace Format

/-- A record is read back. -/
theorem record_lawful {build : β} {ms : Members ρ β} (h : ms.Lawful)
    (hbuild : ∀ r, ms.rebuild build r = r) : (record build ms).Lawful := by
  intro r
  have hread : ms.ofObject build ([] ++ ms.toObject r) = _ :=
    Members.ofObject_toObject h build r nofun
  rw [hbuild] at hread
  exact hread

theorem record_neverNull {build : β} {ms : Members ρ β} : (record build ms).NeverNull :=
  fun _ => nofun

end Format

end Promotion
