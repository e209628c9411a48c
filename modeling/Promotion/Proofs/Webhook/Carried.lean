import Promotion.Proofs.Webhook.Attempts

/-!
# Headers That Get There

Which of a webhook's headers its requests carry.

A webhook keeps its headers under their names as they are written, so it may have
one name in two cases, each with a value of its own. A request knows a name in
one case only. There the two become one header, and it has the value of the name
that comes last in the webhook's order, where capital letters come before small
ones. The other value is never sent, and nobody is told: `header_replaced` is
such a webhook.

That is all that can happen to a header. A name that is there in one case only is
sent with its value, and the defaults of a request stand behind what the webhook
says.

## Theorems

* `Webhook.get?_request`: What a request carries under a name that the webhook has.
* `Webhook.get?_of_sent`: So it is in every request that a delivery makes.
* `Webhook.carried_iff`: A header is carried if its value is the last of its name.
* `Webhook.header_replaced`: One of two headers that differ in case is lost.
-/

namespace Promotion

variable {σ : Type}

namespace Http

/-- A name that some headers give has a last value. -/
theorem exists_lastValue {given : List (String × String)} {e : String × String} (he : e ∈ given) :
    ∃ value, lastValue given e.1.toLower = some value := by
  have hmem : e ∈ given.filter fun e' => e'.1.toLower = e.1.toLower :=
    List.mem_filter.mpr ⟨he, decide_eq_true rfl⟩
  cases hlast : (given.filter fun e' => e'.1.toLower = e.1.toLower).getLast? with
  | none => exact absurd (List.getLast?_eq_none_iff.mp hlast ▸ hmem) List.not_mem_nil
  | some last => exact ⟨last.2, by rw [lastValue, hlast, Option.map_some]⟩

theorem Transport.eq_of_mem_posted {r q : Request} {n : Nat} (h : q ∈ posted r n) : q = r := by
  unfold posted at h
  split at h
  · exact List.eq_of_mem_replicate h
  · cases h

end Http

namespace Webhook

/-- Under a name that the webhook has, a request carries what the webhook says last, whatever the
    defaults are. -/
theorem get?_request {w : Webhook} {headers : SortedMap String}
    (h : Http.headers w.headers.toList = .ok headers) (payload : Payload) {e : String × String}
    (he : e ∈ w.headers.toList) :
    (w.request headers payload).headers.get? e.1.toLower =
      Http.lastValue w.headers.toList e.1.toLower := by
  rcases Http.exists_lastValue he with ⟨value, hvalue⟩
  unfold request
  rw [Http.get?_withDefault, Http.get?_withDefault, Http.get?_headers h, hvalue, Option.some_or,
    Option.some_or]

/-- So it is in every request that a delivery makes. -/
theorem get?_of_sent {w : Webhook} {headers : SortedMap String}
    (h : Http.headers w.headers.toList = .ok headers) {send : Http.Transport σ} {payload : Payload}
    {s : σ} {log : List Log.Event} {q : Http.Request}
    (hq : q ∈ ((deliver send.recorded w payload).outcome ⟨(s, []), log⟩).2.world.2)
    {e : String × String} (he : e ∈ w.headers.toList) :
    q.headers.get? e.1.toLower = Http.lastValue w.headers.toList e.1.toLower := by
  rcases exists_posted h send payload s [] log with ⟨n, hsent⟩
  rw [hsent, List.nil_append] at hq
  cases Http.Transport.eq_of_mem_posted hq
  exact get?_request h payload he

/-- What becomes of a webhook's headers. Each request of a delivery carries a header with its value
    if that is the value of the greatest of the names that differ from it in case only, and so it
    does if there is no other such name. -/
theorem carried_iff {w : Webhook} {headers : SortedMap String}
    (h : Http.headers w.headers.toList = .ok headers) (send : Http.Transport σ) (payload : Payload)
    (s : σ) (log : List Log.Event) :
    ∀ q ∈ ((deliver send.recorded w payload).outcome ⟨(s, []), log⟩).2.world.2,
      ∀ e ∈ w.headers.toList,
        (q.headers.get? e.1.toLower = some e.2 ↔
          ∃ n, (n, e.2) ∈ w.headers.toList ∧ n.toLower = e.1.toLower ∧
            ∀ e' ∈ w.headers.toList, e'.1.toLower = e.1.toLower → e'.1 ≤ n) ∧
        ((∀ e' ∈ w.headers.toList, e'.1.toLower = e.1.toLower → e' = e) →
          q.headers.get? e.1.toLower = some e.2) := by
  intro q hq e he
  rw [get?_of_sent h hq he]
  have hiff : Http.lastValue w.headers.toList e.1.toLower = some e.2 ↔ _ :=
    Http.lastValue_eq_some_iff w.headers.ascending
  refine ⟨hiff, fun honly => hiff.mpr ⟨e.1, he, rfl, fun e' he' hsame => ?_⟩⟩
  cases honly e' he' hsame
  exact Std.le_refl _

/-- A sender to an endpoint that takes every request. -/
def obliging : Http.Transport Unit := fun _ _ _ => (.ok 200, ())

/-- A webhook with two headers of different names. -/
def twoNamed : Webhook :=
  ((Webhook.ofUrl "http://hooks.example/promotions").withHeader "X-Token" "new").withHeader
    "x-team" "core"

/-- Of two headers with different names either gets there. -/
theorem carried_iff_twoNamed :
    (∀ e ∈ twoNamed.headers.toList, Http.headerFault? e.1 e.2 = none) ∧
      ("X-Token", "new") ∈ twoNamed.headers.toList ∧
      (∀ e ∈ twoNamed.headers.toList, e.1.toLower = "X-Token".toLower → e = ("X-Token", "new")) ∧
      ∃ q, ((deliver obliging.recorded twoNamed default).outcome ⟨((), []), []⟩).2.world.2 = [q] ∧
        q.headers.get? "X-Token".toLower = some "new" := by
  have hright : ∀ e ∈ twoNamed.headers.toList, Http.headerFault? e.1 e.2 = none := by
    decide +kernel
  have hmem : ("X-Token", "new") ∈ twoNamed.headers.toList := by decide +kernel
  have honly : ∀ e ∈ twoNamed.headers.toList, e.1.toLower = "X-Token".toLower →
      e = ("X-Token", "new") := by decide +kernel
  have hsent : ((deliver obliging.recorded twoNamed default).outcome
      ⟨((), []), []⟩).2.world.2.length = 1 := by decide +kernel
  rcases exists_headers hright with ⟨headers, hheaders⟩
  rcases List.length_eq_one_iff.mp hsent with ⟨q, hq⟩
  have hcarried := carried_iff hheaders obliging default () [] q
    (hq ▸ List.mem_singleton_self q) _ hmem
  exact ⟨hright, hmem, honly, q, hq, hcarried.2 honly⟩

/-- A webhook that has one name in two cases. -/
def twofold : Webhook :=
  ((Webhook.ofUrl "http://hooks.example/promotions").withHeader "X-Token" "new").withHeader
    "x-token" "old"

/-- Of two headers whose names differ in case only one gets there, and the other is lost: the
    webhook is accepted and the delivery succeeds, but no request carries the first token. -/
theorem header_replaced :
    (∀ e ∈ twofold.headers.toList, Http.headerFault? e.1 e.2 = none) ∧
      ("X-Token", "new") ∈ twofold.headers.toList ∧
      ((deliver obliging.recorded twofold default).outcome ⟨((), []), []⟩).1 = .ok 1 ∧
      ∃ q, ((deliver obliging.recorded twofold default).outcome ⟨((), []), []⟩).2.world.2 = [q] ∧
        q.headers.get? "X-Token".toLower = some "old" := by
  have hright : ∀ e ∈ twofold.headers.toList, Http.headerFault? e.1 e.2 = none := by
    decide +kernel
  have hmem : ("X-Token", "new") ∈ twofold.headers.toList := by decide +kernel
  have hlater : ("x-token", "old") ∈ twofold.headers.toList := by decide +kernel
  have hsame : "x-token".toLower = "X-Token".toLower := by
    refine String.toList_inj.mp ?_
    change ("x-token".map Char.toLower).toList = ("X-Token".map Char.toLower).toList
    rw [String.toList_map, String.toList_map]
    decide
  have hgreatest : ∀ e ∈ twofold.headers.toList, e.1 ≤ "x-token" := by decide +kernel
  have hsent : ((deliver obliging.recorded twofold default).outcome
      ⟨((), []), []⟩).2.world.2.length = 1 := by decide +kernel
  rcases exists_headers hright with ⟨headers, hheaders⟩
  rcases List.length_eq_one_iff.mp hsent with ⟨q, hq⟩
  have hcarried := (carried_iff hheaders obliging default () [] q
    (hq ▸ List.mem_singleton_self q) _ hlater).1
  have hlost : q.headers.get? "x-token".toLower = some "old" :=
    hcarried.mpr ⟨"x-token", hlater, rfl, fun e he _ => hgreatest e he⟩
  rw [hsame] at hlost
  exact ⟨hright, hmem, by decide +kernel, q, hq, hlost⟩

end Webhook

end Promotion
