import Mathlib.Data.List.Nodup
import Promotion.Proofs.Format
import Promotion.Proofs.Json.Without

/-!
# Leaving Defaults Out

A value is read back from what is written of it also without members that have
their defaults, whichever they are and however deep they stand.

A format is three functions and does not tell what it is made of, so its `Shape`
says it again: which formats are within which, and what a record's members are.
A shape also carries the laws of what it is made of, and there is none of a
format that would not give back what was written.

`Shape.AtDefault` is what a person who edits a text has to know of a value: the
places of its members that have their defaults. Leaving members out at such
places, one or all, changes nothing. A member that is left out cannot be told
from one that was never written, so the members before and behind are read as
they were; one that stays is read by its own shape.

## Main definitions

* `Format.Shape`, `Members.Shape`: What a format is made of.
* `Format.Shape.AtDefault`: The members of a value that have their defaults.
* `Json.Missing`: An object has no member of a name.
* `Members.Exact`: A record has as its members what is put in for them.

## Theorems

* `Member.ofObject_without`: A member that has its default is read also if it goes.
* `Format.Shape.decode_without`: Defaults may be left out.
* `Members.reads_of_ofObject`: What a record that was read has as its members.
-/

namespace Promotion

variable {α β γ ρ : Type}

mutual

/-- What a format is made of. -/
inductive Format.Shape : {α : Type} → Format α → Type 1 where
  /-- No member with a default is in what the format writes. -/
  | leaf {α : Type} {f : Format α} (h : f.Lawful) : Format.Shape f
  | option {α : Type} {f : Format α} (c : Format.Shape f) (hnull : f.NeverNull) :
    Format.Shape f.option
  | list {α : Type} {f : Format α} (c : Format.Shape f) : Format.Shape f.list
  | map {α : Type} {f : Format α} (c : Format.Shape f) : Format.Shape f.map
  | record {ρ β : Type} {build : β} {ms : Members ρ β} (cs : Members.Shape ms)
    (hkeys : ms.keys.Nodup) (hbuild : ∀ r, ms.rebuild build r = r) :
    Format.Shape (.record build ms)

/-- What the members of a record are made of. -/
inductive Members.Shape : {ρ β : Type} → Members ρ β → Type 1 where
  | nil {ρ : Type} : Members.Shape (.nil : Members ρ ρ)
  | cons {ρ β γ : Type} {m : Member γ} {get : ρ → γ} {rest : Members ρ β}
    (c : Format.Shape m.format) (hsilent : ∀ value, m.silent value = true → m.absent = some value)
    (cs : Members.Shape rest) : Members.Shape (.cons m get rest)

end

namespace Members.Shape

variable {key : String} {f : Format γ}

def required {get : ρ → γ} {rest : Members ρ β} (c : f.Shape) (cs : Shape rest) :
    Shape (.cons (.required key f) get rest) :=
  .cons c nofun cs

def defaulted {value : γ} {get : ρ → γ} {rest : Members ρ β} (c : f.Shape) (cs : Shape rest) :
    Shape (.cons (.defaulted key f value) get rest) :=
  .cons c nofun cs

def optional {get : ρ → Option γ} {rest : Members ρ β} (c : f.Shape) (hnull : f.NeverNull)
    (cs : Shape rest) : Shape (.cons (.optional key f) get rest) :=
  .cons (.option c hnull) nofun cs

def whenPresent {get : ρ → Option γ} {rest : Members ρ β} (c : f.Shape) (hnull : f.NeverNull)
    (cs : Shape rest) : Shape (.cons (.whenPresent key f) get rest) :=
  .cons (.option c hnull) (fun value hsilent => by
    rw [Option.isNone_iff_eq_none.mp hsilent]
    rfl) cs

end Members.Shape

mutual

/-- At the place stands a member that has its default. -/
def Format.Shape.AtDefault : {α : Type} → {f : Format α} → Format.Shape f → α → Json.Place → Prop
  | _, _, .leaf _, _, _ => False
  | _, _, .option c _, v, p => ∃ a, v = some a ∧ c.AtDefault a p
  | _, _, .list c, as, p => ∃ i q a, p = .element i :: q ∧ as[i]? = some a ∧ c.AtDefault a q
  | _, _, .map c, m, p => ∃ key q a, p = .member key :: q ∧ (key, a) ∈ m.toList ∧ c.AtDefault a q
  | _, _, .record cs _ _, r, p => ∃ key q, p = .member key :: q ∧ cs.AtDefault r key q

/-- The place leads into the member of a name, and no further or to one within it; that member has
    its default. -/
def Members.Shape.AtDefault : {ρ β : Type} → {ms : Members ρ β} → Members.Shape ms → ρ → String →
    Json.Place → Prop
  | _, _, _, .nil, _, _, _ => False
  | _, _, .cons m get _, .cons c _ cs, r, key, p =>
    (key = m.key ∧ (p = [] ∧ m.absent = some (get r) ∨ c.AtDefault (get r) p)) ∨
      cs.AtDefault r key p

end

/-- An object has no member of the name. -/
def Json.Missing (key : String) (es : List (String × Json)) : Prop :=
  ∀ e ∈ es, e.1 ≠ key

/-- A map has one value under a key. -/
theorem SortedMap.eq_of_mem {m : SortedMap α} {key : String} {a b : α} (ha : (key, a) ∈ m.toList)
    (hb : (key, b) ∈ m.toList) : a = b := by
  have hkeys : (m.toList.map Prod.fst).Nodup :=
    List.pairwise_map.mpr (m.ascending.imp fun hlt => Std.ne_of_lt hlt)
  exact congrArg Prod.snd (List.inj_on_of_nodup_map hkeys ha hb rfl)

namespace Member

/-- A member that is missing is read as what stands for it. -/
theorem ofObject_of_missing {m : Member γ} {es : List (String × Json)}
    (h : Json.Missing m.key es) : m.ofObject es = m.absent := by
  have hread : m.ofObject (es ++ ([] ++ [])) = m.ofObject [] :=
    ofObject_among h (List.forall_mem_nil _) []
  rwa [List.append_nil, List.append_nil] at hread

/-- A member is read back without what goes from it, and also if it goes itself and has its
    default. -/
theorem ofObject_without {m : Member γ} {value : γ} {chosen : Json.Place → Bool}
    (hsilent : m.silent value = true → m.absent = some value)
    (hgoes : chosen [.member m.key] = true → m.absent = some value)
    (hstays : chosen [.member m.key] = false → m.format.decode
      ((m.format.encode value).without fun p => chosen (.member m.key :: p)) = some value) :
    m.ofObject (Json.withoutMembers chosen (m.toObject value)) = some value := by
  unfold toObject
  by_cases hs : m.silent value = true
  · rw [if_pos hs]
    exact hsilent hs
  rw [if_neg hs, Json.withoutMembers]
  cases hc : chosen [.member m.key] with
  | true => exact hgoes hc
  | false =>
      rw [if_neg Bool.false_ne_true]
      simp only [ofObject, Json.withoutMembers, List.filter_cons, decide_true, if_true,
        List.filter_nil]
      exact hstays hc

end Member

namespace Format.Shape

/-- A value itself is no member. -/
theorem not_atDefault_nil : ∀ {α : Type} {f : Format α} (c : Shape f) (v : α), ¬ c.AtDefault v []
  | _, _, .leaf _, _, h => h
  | _, _, .option c _, _, h => by
      rcases h with ⟨a, _, h⟩
      exact c.not_atDefault_nil a h
  | _, _, .list _, _, h => by
      rcases h with ⟨_, _, _, hstep, _⟩
      cases hstep
  | _, _, .map _, _, h => by
      rcases h with ⟨_, _, _, hstep, _⟩
      cases hstep
  | _, _, .record _ _ _, _, h => by
      rcases h with ⟨_, _, hstep, _⟩
      cases hstep

end Format.Shape

namespace Members.Shape

/-- What has its default within the members of a record stands under the name of one. -/
theorem mem_keys_of_atDefault : ∀ {ρ β : Type} {ms : Members ρ β} (cs : Shape ms) {r : ρ}
    {key : String} {p : Json.Place}, cs.AtDefault r key p → key ∈ ms.keys
  | _, _, _, .nil, _, _, _, h => h.elim
  | _, _, _, .cons _ _ cs, _, _, _, h => by
      rcases h with ⟨rfl, _⟩ | h
      · exact List.mem_cons_self
      · exact List.mem_cons_of_mem _ (cs.mem_keys_of_atDefault h)

variable {m : Member γ} {get : ρ → γ} {rest : Members ρ β} {c : m.format.Shape}
  {hsilent : ∀ value, m.silent value = true → m.absent = some value} {cs : Shape rest} {r : ρ}
  {p : Json.Place}

/-- Under the name of a member, only the member has a default or what is within it. -/
theorem own_of_atDefault (hkey : m.key ∉ rest.keys)
    (h : (cons c hsilent cs : Shape (.cons m get rest)).AtDefault r m.key p) :
    p = [] ∧ m.absent = some (get r) ∨ c.AtDefault (get r) p := by
  rcases h with ⟨_, hown⟩ | hother
  · exact hown
  · exact absurd (cs.mem_keys_of_atDefault hother) hkey

/-- Under any other name, it is the other members. -/
theorem other_of_atDefault {key : String} (hkey : key ≠ m.key)
    (h : (cons c hsilent cs : Shape (.cons m get rest)).AtDefault r key p) :
    cs.AtDefault r key p := by
  rcases h with ⟨hsame, _⟩ | hother
  · exact absurd hsame hkey
  · exact hother

end Members.Shape

mutual

/-- A value is read back from what is written of it without members that have their defaults. -/
theorem Format.Shape.decode_without : ∀ {α : Type} {f : Format α} (c : Format.Shape f) (v : α)
    {chosen : Json.Place → Bool}, (∀ p, chosen p = true → c.AtDefault v p) →
      f.decode ((f.encode v).without chosen) = some v
  | _, f, .leaf hf, v, chosen, h => by
      have hnothing : chosen = fun _ => false := by
        funext p
        exact Bool.eq_false_iff.mpr fun hp => h p hp
      rw [hnothing, Json.without_false]
      exact hf v
  | _, _, .option _ _, none, _, _ => rfl
  | _, _, .option (f := f) c hnull, some a, chosen, h => by
      have hread : f.decode ((f.encode a).without chosen) = some a :=
        c.decode_without a fun p hp => by
          rcases h p hp with ⟨_, ⟨⟩, hc⟩
          exact hc
      have hthere := Json.without_ne_null (hnull a) chosen
      -- What is there is not null, so it is left to its own format.
      simp only [Format.option]
      rw [hread, Option.map_some]
  | _, _, .list c, as, chosen, h => by
      refine Json.mapM_withoutElements fun i a ha => c.decode_without a fun p hp => ?_
      rw [Nat.zero_add] at hp
      rcases h _ hp with ⟨_, _, b, ⟨⟩, hb, hc⟩
      rw [ha] at hb
      cases hb
      exact hc
  | _, _, .map (f := f) c, m, chosen, h => by
      have hstay : ∀ e ∈ m.toList, chosen [.member e.1] = false := by
        intro e _
        refine Bool.eq_false_iff.mpr fun hp => ?_
        rcases h _ hp with ⟨_, _, a, ⟨⟩, _, hc⟩
        exact c.not_atDefault_nil a hc
      have hread : ∀ e ∈ m.toList,
          f.decode ((f.encode e.2).without fun p => chosen (.member e.1 :: p)) = some e.2 := by
        intro e he
        refine c.decode_without e.2 fun p hp => ?_
        rcases h _ hp with ⟨_, _, a, ⟨⟩, ha, hc⟩
        rw [SortedMap.eq_of_mem he ha]
        exact hc
      have hentries := Json.mapM_withoutMembers hstay hread
      simp only [Format.map, Json.without]
      rw [hentries, Option.map_some, SortedMap.ofList_toList]
  | _, _, @Format.Shape.record _ _ build ms cs hkeys hbuild, r, chosen, h => by
      have hmembers : ∀ key ∈ ms.keys, ∀ p, chosen (.member key :: p) = true →
          cs.AtDefault r key p := by
        intro key _ p hp
        rcases h _ hp with ⟨_, _, ⟨⟩, hc⟩
        exact hc
      have hread : ms.ofObject build ([] ++ Json.withoutMembers chosen (ms.toObject r)) = _ :=
        cs.ofObject_without build r hkeys hmembers nofun
      rw [hbuild] at hread
      exact hread

theorem Members.Shape.ofObject_without : ∀ {ρ β : Type} {ms : Members ρ β} (cs : Members.Shape ms)
    (build : β) (r : ρ) {chosen : Json.Place → Bool} {before : List (String × Json)},
    ms.keys.Nodup →
    (∀ key ∈ ms.keys, ∀ p, chosen (.member key :: p) = true → cs.AtDefault r key p) →
    (∀ e ∈ before, e.1 ∉ ms.keys) →
      ms.ofObject build (before ++ Json.withoutMembers chosen (ms.toObject r)) =
        some (ms.rebuild build r)
  | _, _, _, .nil, _, _, _, _, _, _, _ => rfl
  | _, _, .cons m get rest, .cons c hsilent cs, build, r, chosen, before, hkeys, h, hbefore => by
      rcases List.nodup_cons.mp hkeys with ⟨hkey, hrest⟩
      have hown : ∀ p, chosen (.member m.key :: p) = true →
          p = [] ∧ m.absent = some (get r) ∨ c.AtDefault (get r) p :=
        fun p hp => Members.Shape.own_of_atDefault hkey (h m.key List.mem_cons_self p hp)
      have hfirst : m.ofObject (Json.withoutMembers chosen (m.toObject (get r))) =
          some (get r) := by
        refine Member.ofObject_without (hsilent _) (fun hgoes => ?_) fun hstays => ?_
        · rcases hown [] hgoes with ⟨_, habsent⟩ | hnil
          · exact habsent
          · exact absurd hnil (c.not_atDefault_nil _)
        · refine c.decode_without (get r) fun p hp => ?_
          rcases hown p hp with ⟨rfl, _⟩ | hwithin
          · exact absurd (hp.symm.trans hstays) nofun
          · exact hwithin
      have hbehind : ∀ e ∈ Json.withoutMembers chosen (rest.toObject r), e.1 ≠ m.key := by
        intro e he hsame
        rcases Json.exists_mem_of_mem_withoutMembers he with ⟨j, hj⟩
        have hin := Members.mem_keys_of_mem_toObject hj
        exact hkey (hsame ▸ hin)
      have hread := Member.ofObject_among
        (fun e he hsame => hbefore e he (hsame ▸ List.mem_cons_self)) hbehind
        (Json.withoutMembers chosen (m.toObject (get r)))
      simp only [Members.ofObject, Members.toObject, Members.rebuild, Json.withoutMembers_append,
        hread, hfirst]
      -- What is left of the member stands before the others now.
      rw [← List.append_assoc]
      refine cs.ofObject_without (build (get r)) r hrest (fun key hin p hp => ?_) fun e he => ?_
      · exact Members.Shape.other_of_atDefault (fun hsame => hkey (hsame ▸ hin))
          (h key (List.mem_cons_of_mem _ hin) p hp)
      · rcases List.mem_append.mp he with he | he
        · exact fun hin => hbefore e he (List.mem_cons_of_mem _ hin)
        · rcases Json.exists_mem_of_mem_withoutMembers he with ⟨j, hj⟩
          exact Member.key_eq_of_mem_toObject hj ▸ hkey

end

namespace Members

/-- The record has as its members what is read from those of an object. -/
def Reads (es : List (String × Json)) (r : ρ) : {β : Type} → Members ρ β → Prop
  | _, .nil => True
  | _, .cons m get rest => m.ofObject es = some (get r) ∧ rest.Reads es r

/-- Whatever is put in for the members that follow, the record has the value. -/
def Keeps (get : ρ → γ) (value : γ) : {β : Type} → Members ρ β → β → Prop
  | _, .nil, r => get r = value
  | _, .cons _ _ rest, build => ∀ other, rest.Keeps get value (build other)

/-- A record has as its members what is put in for them. -/
def Exact : {β : Type} → Members ρ β → β → Prop
  | _, .nil, _ => True
  | _, .cons _ get rest, build => ∀ value, rest.Keeps get value (build value) ∧
      rest.Exact (build value)

theorem eq_of_keeps {get : ρ → γ} {value : γ} {ms : Members ρ β} {build : β}
    (hkeeps : ms.Keeps get value build) {es : List (String × Json)} {r : ρ}
    (h : ms.ofObject build es = some r) : get r = value := by
  induction ms with
  | nil =>
      cases h
      exact hkeeps
  | cons m get' rest ih =>
      rw [ofObject] at h
      split at h
      · cases h
      · exact ih (hkeeps _) h

/-- A record that was read has as its members what is read from those of the object. -/
theorem reads_of_ofObject {ms : Members ρ β} {build : β} (hexact : ms.Exact build)
    {es : List (String × Json)} {r : ρ} (h : ms.ofObject build es = some r) : ms.Reads es r := by
  induction ms with
  | nil => trivial
  | cons m get rest ih =>
      rw [ofObject] at h
      split at h
      · cases h
      · rename_i value hvalue
        rcases hexact value with ⟨hkeeps, hrest⟩
        exact ⟨eq_of_keeps hkeeps h ▸ hvalue, ih hrest h⟩

end Members

end Promotion
