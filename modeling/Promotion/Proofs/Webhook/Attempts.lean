import Mathlib.Data.Nat.Find
import Promotion.Proofs.Action
import Promotion.Proofs.Http.Header
import Promotion.Webhook.Delivery

/-!
# Attempts at a Delivery

How often a webhook is tried, and what the deliverer is told in the end.

Whoever sends requests is a function of a world, so the same request may come to
something else each time. `after` and `reply` unroll that: the world after the
request was made some times, and what comes back for it then. An attempt
succeeds if that is a status in the two hundreds, and it does not matter what
anything else was, but for the text that is told of the last failure.

So a delivery is over when a reply is taken, or when the attempts are used up.
The loop counts down and carries its latest failure along. Of some attempts that
failed it only keeps that much, and `outcome_attempts_of_failed` puts any number
of them behind; what is left is the attempt that succeeds, or none.

To see the requests themselves, the sender is watched: `recorded` is the same
sender beside a list of what it was asked to send.

## Main definitions

* `Http.Transport.answer`: What comes back for a request.
* `Http.Transport.after`, `Http.Transport.reply`: The same, made some times.
* `Http.Transport.recorded`: A sender that is watched.
* `Webhook.Taken`: What comes back for an attempt that succeeds.
* `Webhook.attempted`: Where some attempts leave world and log.

## Theorems

* `Webhook.outcome_attempts_of_failed`: Attempts that failed are behind.
* `Webhook.outcome_attempts_of_taken`: The first attempt that succeeds is the last.
* `Webhook.outcome_attempts_of_all_failed`: When all attempts are used up, it is given up.
* `Webhook.exists_fault`: Of headers that are wrong the least is told.
* `Webhook.outcome_dispatch`: Whoever has an event dispatched is not told what came of it.
* `Webhook.deliver_exact`: All of this in one.
* `Webhook.exists_posted`: Whatever comes of a delivery, it made one request over and over.
-/

namespace Promotion

variable {σ : Type}

namespace Http

namespace Transport

variable (send : Transport σ) (r : Request)

/-- What comes back for a request. Without an address that can be requested nothing is sent. -/
def answer : Call σ String UInt32 := fun s =>
  match Url.parse? r.url with
  | none => (.error Webhook.unrequestable, s)
  | some url => send r url s

/-- The world after a request was made some times. -/
def after (s : σ) : Nat → σ
  | 0 => s
  | n + 1 => (send.answer r (after s n)).2

/-- What comes back for a request that was made some times before. -/
def reply (s : σ) (n : Nat) : Except String UInt32 :=
  (send.answer r (send.after r s n)).1

/-- A sender beside a list of what it was asked to send. -/
def recorded : Transport (σ × List Request) := fun r url s =>
  let (answer, world) := send r url s.1
  (answer, (world, s.2 ++ [r]))

/-- A request some times over, as far as it can be sent. -/
def posted (n : Nat) : List Request :=
  if (Url.parse? r.url).isSome then List.replicate n r else []

theorem answer_recorded (s : σ) (sent : List Request) :
    send.recorded.answer r (s, sent) =
      ((send.answer r s).1, ((send.answer r s).2, sent ++ posted r 1)) := by
  unfold answer posted
  cases Url.parse? r.url with
  | none => simp
  | some url => rfl

theorem after_recorded (s : σ) (sent : List Request) (n : Nat) :
    send.recorded.after r (s, sent) n = (send.after r s n, sent ++ posted r n) := by
  induction n with
  | zero => simp [after, posted]
  | succ n ih =>
      have hposted : posted r n ++ posted r 1 = posted r (n + 1) := by
        unfold posted
        split
        · exact List.replicate_append_replicate
        · rfl
      rw [after, ih, answer_recorded, List.append_assoc, hposted]
      rfl

/-- Who is watched answers the same. -/
theorem reply_recorded (s : σ) (sent : List Request) (n : Nat) :
    send.recorded.reply r (s, sent) n = send.reply r s n := by
  unfold reply
  rw [after_recorded, answer_recorded]

end Transport

end Http

namespace Webhook

/-- What comes back for an attempt that succeeds: a status in the two hundreds. -/
def Taken : Except String UInt32 → Prop
  | .ok status => 200 ≤ status ∧ status ≤ 299
  | .error _ => False

/-- How an attempt failed for which something else came back. -/
def failure (url : String) : Except String UInt32 → AttemptFailure
  | .ok status => .status url status
  | .error reason => .transport url reason

variable {send : Http.Transport σ} {r : Http.Request}

theorem attempt_of_taken {s : σ} (h : Taken (send.answer r s).1) :
    attempt send r s = (.ok (), (send.answer r s).2) := by
  unfold attempt Http.Transport.answer at *
  cases hurl : Url.parse? r.url with
  | none =>
      rw [hurl] at h
      exact absurd h id
  | some url =>
      simp only [hurl] at h ⊢
      rcases hsend : send r url s with ⟨reason | status, s'⟩
      · rw [hsend] at h
        exact absurd h id
      · rw [hsend] at h
        have hstatus : 200 ≤ status ∧ status ≤ 299 := h
        simp only [judgeStatus, hstatus, and_self, if_true]

theorem attempt_of_not_taken {s : σ} (h : ¬ Taken (send.answer r s).1) :
    attempt send r s =
      (.error (failure r.url (send.answer r s).1), (send.answer r s).2) := by
  unfold attempt Http.Transport.answer at *
  cases hurl : Url.parse? r.url with
  | none => rfl
  | some url =>
      simp only [hurl] at h ⊢
      rcases hsend : send r url s with ⟨reason | status, s'⟩
      · rfl
      · rw [hsend] at h
        have hstatus : ¬ (200 ≤ status ∧ status ≤ 299) := h
        simp only [judgeStatus, hstatus, if_false, failure]

/-- The text of the failure before an attempt; there is none before the first. -/
def lastFailure (send : Http.Transport σ) (r : Http.Request) (s : σ) : Nat → String
  | 0 => ""
  | n + 1 => (failure r.url (send.reply r s n)).message

theorem lastFailure_of_pos {s : σ} {n : Nat} (hn : 0 < n) :
    lastFailure send r s n = (failure r.url (send.reply r s (n - 1))).message := by
  cases n with
  | zero => exact absurd hn (Nat.lt_irrefl 0)
  | succ n => rfl

/-- The events that some failed attempts leave, of so many in all. -/
def failureEvents (send : Http.Transport σ) (r : Http.Request) (total : Nat) (s : σ) (n : Nat) :
    List Log.Event :=
  (List.range n).map fun i => attemptEvent r.url (i + 1) total (failure r.url (send.reply r s i))

/-- Where some attempts, the first of which failed, leave world and log. -/
def attempted (send : Http.Transport σ) (r : Http.Request) (total : Nat) (t : Traced σ)
    (made failed : Nat) : Traced σ :=
  ⟨send.after r t.world made, t.log ++ failureEvents send r total t.world failed⟩

/-- Attempts that failed are behind: fewer are left, and the latest failure is that of the last of
    them. -/
theorem outcome_attempts_of_failed {total n : Nat} {t : Traced σ} (hn : n ≤ total)
    (hfailed : ∀ i < n, ¬ Taken (send.reply r t.world i)) :
    (attempts send r total total "").outcome t =
      (attempts send r total (total - n) (lastFailure send r t.world n)).outcome
        (attempted send r total t n n) := by
  induction n with
  | zero => simp [attempted, failureEvents, Http.Transport.after, lastFailure]
  | succ n ih =>
      rw [ih (by omega) fun i hi => hfailed i (by omega)]
      have hleft : total - n = total - (n + 1) + 1 := by omega
      have hnumber : total - (total - (n + 1)) = n + 1 := by omega
      have hattempt := attempt_of_not_taken (hfailed n (by omega))
      rw [hleft, attempts, Action.outcome_bind, Action.outcome_ofWorld]
      simp only [attempted, hattempt, hnumber]
      rw [Action.outcome_bind, Action.outcome_emit]
      simp only [failureEvents, List.range_succ, List.map_append, List.map_singleton,
        List.append_assoc]
      rfl

/-- With some failed attempts behind, the next one succeeds. -/
theorem outcome_attempts_of_taken {total n : Nat} {t : Traced σ} (hn : n < total)
    (hfailed : ∀ i < n, ¬ Taken (send.reply r t.world i))
    (htaken : Taken (send.reply r t.world n)) :
    (attempts send r total total "").outcome t =
      (.ok (n + 1), attempted send r total t (n + 1) n) := by
  rw [outcome_attempts_of_failed (Nat.le_of_lt hn) hfailed]
  have hleft : total - n = total - (n + 1) + 1 := by omega
  have hnumber : total - (total - (n + 1)) = n + 1 := by omega
  have hattempt := attempt_of_taken htaken
  rw [hleft, attempts, Action.outcome_bind, Action.outcome_ofWorld]
  simp only [attempted, hattempt, hnumber]
  rfl

/-- With all attempts behind there is nothing left but to give up. -/
theorem outcome_attempts_of_all_failed {total : Nat} {t : Traced σ}
    (hfailed : ∀ i < total, ¬ Taken (send.reply r t.world i)) :
    (attempts send r total total "").outcome t =
      (.error (.exhausted r.url total (lastFailure send r t.world total)),
        attempted send r total t total total) := by
  rw [outcome_attempts_of_failed (Nat.le_refl total) hfailed, Nat.sub_self, attempts,
    Action.outcome_throw]

/-- A webhook is tried at least once. -/
theorem maxAttempts_pos (w : Webhook) : 0 < w.maxAttempts := by
  unfold maxAttempts
  exact Nat.lt_min.mpr ⟨Nat.succ_pos _, by decide⟩

/-- Headers that are right make the set that goes with every attempt. -/
theorem exists_headers {w : Webhook} (h : ∀ e ∈ w.headers.toList, Http.headerFault? e.1 e.2 = none) :
    ∃ headers, Http.headers w.headers.toList = .ok headers := by
  rcases Http.addHeaders_cases .empty w.headers.toList with ⟨-, hset⟩ |
    ⟨before, name, value, behind, fault, hgiven, -, hwrong, -⟩
  · exact hset
  · have hright := h (name, value) (hgiven ▸ List.mem_append_right _ List.mem_cons_self)
    cases hwrong.symm.trans hright

/-- If a header is wrong, the one that is told is the least of those that are. -/
theorem exists_fault {w : Webhook} (h : ∃ e ∈ w.headers.toList, Http.headerFault? e.1 e.2 ≠ none) :
    ∃ name value fault, (name, value) ∈ w.headers.toList ∧
      Http.headerFault? name value = some fault ∧
      (∀ e ∈ w.headers.toList, Http.headerFault? e.1 e.2 ≠ none → name ≤ e.1) ∧
      Http.headers w.headers.toList = .error (name, fault) := by
  rcases h with ⟨e, he, hfault⟩
  rcases Http.addHeaders_cases .empty w.headers.toList with ⟨hright, -⟩ |
    ⟨before, name, value, behind, fault, hgiven, hright, hwrong, herror⟩
  · exact absurd (hright e he) hfault
  have hordered := w.headers.ascending
  rw [hgiven] at hordered ⊢
  refine ⟨name, value, fault, List.mem_append_right _ List.mem_cons_self, hwrong,
    fun e he hfault => ?_, hgiven ▸ herror⟩
  rcases List.mem_append.mp he with he | he
  · exact absurd (hright e he) hfault
  rcases List.mem_cons.mp he with rfl | he
  · exact Std.le_refl _
  · have hbehind := (List.pairwise_append.mp hordered).2.1
    exact Std.le_of_lt ((List.pairwise_cons.mp hbehind).1 e he)

/-- A header that is wrong ends a delivery before the first attempt. -/
theorem outcome_deliver_of_fault {w : Webhook} {payload : Payload} {name : String}
    {fault : Http.HeaderFault} (h : Http.headers w.headers.toList = .error (name, fault))
    (t : Traced σ) :
    (deliver send w payload).outcome t = (.error (.invalidHeader name fault), t) := by
  simp only [deliver, h, Action.outcome_throw]

theorem outcome_deliver {w : Webhook} {payload : Payload} {headers : SortedMap String}
    (h : Http.headers w.headers.toList = .ok headers) (t : Traced σ) :
    (deliver send w payload).outcome t =
      (attempts send (w.request headers payload) w.maxAttempts w.maxAttempts "").outcome t := by
  simp only [deliver, h]

/-- Whoever has an event dispatched is told that it was dealt with, whatever the delivery came to. -/
theorem outcome_dispatch (send : Http.Transport σ) (event : Event) (payload : Payload)
    (w : Webhook) (t : Traced σ) :
    ∃ log, (dispatch send event payload w).outcome t =
      (.done, ⟨((deliver send w payload).outcome t).2.world, log⟩) := by
  have hrun : Run.outcome (ExceptT.run (deliver send w payload)) t =
      (deliver send w payload).outcome t := rfl
  simp only [dispatch, Run.outcome_bind, hrun]
  rcases (deliver send w payload).outcome t with ⟨e | attempts, t'⟩
  · exact ⟨_, rfl⟩
  · exact ⟨_, rfl⟩

/-- Where the attempts of a sender that is watched leave it. -/
theorem attempted_recorded (send : Http.Transport σ) (r : Http.Request) (total : Nat) (s : σ)
    (sent : List Http.Request) (log : List Log.Event) (made failed : Nat) :
    attempted send.recorded r total ⟨(s, sent), log⟩ made failed =
      ⟨(send.after r s made, sent ++ Http.Transport.posted r made),
        log ++ failureEvents send r total s failed⟩ := by
  unfold attempted failureEvents
  simp only [Http.Transport.after_recorded, Http.Transport.reply_recorded]

/-- Whatever comes of a delivery, it made one request over and over. -/
theorem exists_posted {w : Webhook} {headers : SortedMap String}
    (h : Http.headers w.headers.toList = .ok headers) (send : Http.Transport σ) (payload : Payload)
    (s : σ) (sent : List Http.Request) (log : List Log.Event) :
    ∃ n, ((deliver send.recorded w payload).outcome ⟨(s, sent), log⟩).2.world.2 =
      sent ++ Http.Transport.posted (w.request headers payload) n := by
  rw [outcome_deliver h]
  generalize w.maxAttempts = total
  generalize w.request headers payload = r
  by_cases htaken : ∃ n < total, Taken (send.recorded.reply r (s, sent) n)
  · classical
    rcases Nat.find_spec htaken with ⟨hn, hfirst⟩
    have hfailed : ∀ i < Nat.find htaken, ¬ Taken (send.recorded.reply r (s, sent) i) :=
      fun i hi hi' => Nat.find_min htaken hi ⟨Nat.lt_trans hi hn, hi'⟩
    rw [outcome_attempts_of_taken (t := ⟨(s, sent), log⟩) hn hfailed hfirst, attempted_recorded]
    exact ⟨_, rfl⟩
  · have hfailed : ∀ i < total, ¬ Taken (send.recorded.reply r (s, sent) i) :=
      fun i hi hi' => htaken ⟨i, hi, hi'⟩
    rw [outcome_attempts_of_all_failed (t := ⟨(s, sent), log⟩) hfailed, attempted_recorded]
    exact ⟨_, rfl⟩

/-- Delivery retries exactly as configured. With headers that are right, the same request is made
    to the configured address until the first attempt that succeeds, whose number is the answer, or
    until there was one attempt more than the configured ones; then the last failure is told. With a
    header that is wrong there is no attempt, and the first wrong one is told. Whoever has an event
    dispatched is told nothing either way. -/
theorem deliver_exact (send : Http.Transport σ) (w : Webhook) (payload : Payload) (s : σ)
    (sent : List Http.Request) (log : List Log.Event) :
    let total := min (w.retryCount.toNat + 1) (UInt32.size - 1)
    let ended := (deliver send.recorded w payload).outcome ⟨(s, sent), log⟩
    ((∀ e ∈ w.headers.toList, Http.headerFault? e.1 e.2 = none) →
      ∃ headers, Http.headers w.headers.toList = .ok headers ∧
        let r := w.request headers payload
        r.url = w.url ∧
        (∀ n < total, (∀ i < n, ¬ Taken (send.reply r s i)) → Taken (send.reply r s n) →
          ended = (.ok (n + 1),
            ⟨(send.after r s (n + 1), sent ++ Http.Transport.posted r (n + 1)),
              log ++ failureEvents send r total s n⟩)) ∧
        ((∀ i < total, ¬ Taken (send.reply r s i)) →
          ended = (.error (.exhausted w.url total
              (failure w.url (send.reply r s (total - 1))).message),
            ⟨(send.after r s total, sent ++ Http.Transport.posted r total),
              log ++ failureEvents send r total s total⟩))) ∧
    ((∃ e ∈ w.headers.toList, Http.headerFault? e.1 e.2 ≠ none) →
      ∃ name value fault, (name, value) ∈ w.headers.toList ∧
        Http.headerFault? name value = some fault ∧
        (∀ e ∈ w.headers.toList, Http.headerFault? e.1 e.2 ≠ none → name ≤ e.1) ∧
        ended = (.error (.invalidHeader name fault), ⟨(s, sent), log⟩)) ∧
    ∀ event, ∃ log', (dispatch send.recorded event payload w).outcome ⟨(s, sent), log⟩ =
      (.done, ⟨ended.2.world, log'⟩) := by
  intro total ended
  have htotal : w.maxAttempts = total := rfl
  clear_value total
  subst htotal
  refine ⟨fun hright => ?_, fun hwrong => ?_, fun event => ?_⟩
  · rcases exists_headers hright with ⟨headers, hheaders⟩
    refine ⟨headers, hheaders, rfl, ?_⟩
    have hended : ended = _ := outcome_deliver hheaders ⟨(s, sent), log⟩
    rw [hended]
    have hpos := w.maxAttempts_pos
    generalize w.maxAttempts = total at hpos ⊢
    generalize hr : w.request headers payload = r
    have hurl : r.url = w.url := hr ▸ rfl
    refine ⟨fun n hn hfailed htaken => ?_, fun hfailed => ?_⟩
    · simp only [← send.reply_recorded _ s sent] at hfailed htaken
      rw [outcome_attempts_of_taken (t := ⟨(s, sent), log⟩) hn hfailed htaken, attempted_recorded]
    · simp only [← send.reply_recorded _ s sent] at hfailed
      rw [outcome_attempts_of_all_failed (t := ⟨(s, sent), log⟩) hfailed, attempted_recorded,
        lastFailure_of_pos hpos, Http.Transport.reply_recorded, hurl]
  · rcases exists_fault hwrong with ⟨name, value, fault, hmem, hfault, hleast, herror⟩
    exact ⟨name, value, fault, hmem, hfault, hleast, outcome_deliver_of_fault herror _⟩
  · exact outcome_dispatch send.recorded event payload w _

/-- A sender to an endpoint that is not ready before the third request. -/
def warmingUp : Http.Transport Nat := fun _ _ n => (.ok (if n < 2 then 503 else 200), n + 1)

/-- With its usual attempts a webhook gets through to it at the third. -/
theorem deliver_exact_warmingUp :
    let w := Webhook.ofUrl "http://hooks.example/promotions"
    let ended := (deliver warmingUp.recorded w default).outcome ⟨(0, []), []⟩
    (∀ e ∈ w.headers.toList, Http.headerFault? e.1 e.2 = none) ∧
      ended.1 = .ok 3 ∧ ∃ r, ended.2.world = (3, [r, r, r]) := by
  intro w ended
  have hright : ∀ e ∈ w.headers.toList, Http.headerFault? e.1 e.2 = none := nofun
  rcases deliver_exact warmingUp w default 0 [] [] with ⟨hdeliver, -, -⟩
  rcases hdeliver hright with ⟨headers, -, hurl, hfirst, -⟩
  have haddress : (Url.parse? w.url).isSome = true := by decide +kernel
  rcases Option.isSome_iff_exists.mp haddress with ⟨url, hparse⟩
  rw [← hurl] at hparse
  have hanswer : ∀ n, warmingUp.answer (w.request headers default) n =
      (.ok (if n < 2 then 503 else 200), n + 1) := by
    intro n
    simp only [Http.Transport.answer, hparse, warmingUp]
  have hafter : ∀ n, warmingUp.after (w.request headers default) 0 n = n := by
    intro n
    induction n with
    | zero => rfl
    | succ n ih => rw [Http.Transport.after, ih, hanswer]
  have hended := hfirst 2 (by decide) (fun i hi => ?_) ?_
  · refine ⟨hright, congrArg Prod.fst hended, w.request headers default, ?_⟩
    refine (congrArg (fun e => e.2.world) hended).trans ?_
    simp only [hafter, Http.Transport.posted, hparse, Option.isSome_some, if_true]
    rfl
  · simp only [Http.Transport.reply, hafter, hanswer, hi, if_true, Taken]
    decide
  · simp only [Http.Transport.reply, hafter, hanswer, Taken]
    decide

end Webhook

end Promotion
