import Mathlib.Data.List.Induction
import Promotion.Proofs.Agree
import Promotion.Proofs.Webhook.Attempts
import Promotion.Webhook.Notifier

/-!
# Tasks That Go On

What background tasks deliver, in whatever order they go on.

Every event that is told has its own list of deliveries, one for each webhook
that subscribes to it. The tasks go on by turns, so what is delivered over time
is these lists run into one another. `Interleaved` says just that: nothing is
left out or added, and each list keeps its order.

In between, each list is cut in two. The first part was delivered and the second
is what its task still holds. Tasks that came to their end are forgotten as soon
as another one starts, and a list whose task is gone must have been delivered as
a whole. `Backed` is the account of all this. A task that goes on moves
deliveries from the second part to the first, so the account is kept, and when
no task runs any more there are no second parts.

Webhooks are in a world of their own. The dispatcher acts there and may have a
task wait for as long as it likes. `Dependable` is that it does not break down,
and that from some state of that world on nothing has to wait. `Carries` is that
what it does there for a delivery is known, and that it does no more. Then the
state of that world is told by what was delivered, and by what the world did on
its own in between: `LedTo` runs these two into one another.

## Main definitions

* `Interleaved`: Some lists run into one another.
* `Webhook.Delivery`, `Webhook.Beside`: A world beside, and what was delivered there.
* `Webhook.posting`: A dispatcher of the world beside.
* `Webhook.Dependable`: A dispatcher that does not break down, nor wait for ever.
* `Webhook.queued`: A dispatcher that has everybody wait at times.
* `Webhook.Carries`: A dispatcher of which it is known what it does for a delivery.
* `Webhook.Delivery.overHttp`: What a delivery over HTTP does to the world.
* `Webhook.LedTo`: Deliveries and changes that lead from one state of a world to another.
* `Webhook.announcements`: What is owed for an event.
* `Webhook.Backed`: What is owed was delivered, or a task holds it.
* `Webhook.Account`: What was delivered, what tasks hold, and what is owed.
* `Webhook.advanceAt`: One of some tasks goes on.

## Theorems

* `Interleaved.perm`, `Interleaved.sublist`: Nothing is left out or added, and each list keeps its
  order.
* `Webhook.dependable_dispatch`: Deliveries over HTTP are dependable, failing or not.
* `Webhook.carries_dispatch`: For each of them the world is as `deliver` leaves it.
* `Webhook.Carries.posting`: What was delivered tells the state of the world beside.
* `Webhook.Backed.detach`: An event is owed, and its task holds what is owed.
* `Webhook.Backed.done_eq`: When no task runs, what was owed was delivered.
* `Webhook.went_tell`, `Webhook.went_advance`: What a task does that goes on.
* `Webhook.Account.advanceAt`, `Webhook.Account.flush`: Tasks that go on keep the account, and when
  they were waited for nothing is owed any more.
-/

namespace Promotion

variable {σ δ α : Type}

/-- Some lists run into one another, each in its own order: whatever comes last in the whole comes
    last in one of them. -/
inductive Interleaved : List (List α) → List α → Prop
  | nil {parts : List (List α)} : (∀ part ∈ parts, part = []) → Interleaved parts []
  | snoc {before behind : List (List α)} {part whole : List α} {x : α} :
      Interleaved (before ++ part :: behind) whole →
      Interleaved (before ++ (part ++ [x]) :: behind) (whole ++ [x])

namespace Interleaved

/-- Nothing is left out and nothing is added. -/
theorem perm {parts : List (List α)} {whole : List α} (h : Interleaved parts whole) :
    whole.Perm parts.flatten := by
  induction h with
  | nil hempty => rw [List.flatten_eq_nil_iff.mpr hempty]
  | @snoc before behind part whole x _ ih =>
      rw [List.flatten_append, List.flatten_cons] at ih ⊢
      refine (ih.append_right [x]).trans ?_
      -- What comes last in the whole is followed by other lists among the parts.
      rw [List.append_assoc, List.append_assoc, List.append_assoc]
      exact (List.perm_append_comm.append_left part).append_left before.flatten

/-- Each list keeps its order. -/
theorem sublist {parts : List (List α)} {whole : List α} (h : Interleaved parts whole)
    {part : List α} (hpart : part ∈ parts) : part.Sublist whole := by
  induction h generalizing part with
  | nil hempty =>
      cases hempty part hpart
      exact List.nil_sublist []
  | @snoc before behind grown whole x _ ih =>
      rcases List.mem_append.mp hpart with hpart | hpart
      · exact (ih (List.mem_append_left _ hpart)).trans (List.sublist_append_left _ _)
      rcases List.mem_cons.mp hpart with rfl | hpart
      · exact (ih (List.mem_append_right _ List.mem_cons_self)).append (.refl [x])
      · have hbehind := ih (List.mem_append_right _ (List.mem_cons_of_mem _ hpart))
        exact hbehind.trans (List.sublist_append_left _ _)

theorem extend {before behind : List (List α)} {part whole : List α}
    (h : Interleaved (before ++ part :: behind) whole) (more : List α) :
    Interleaved (before ++ (part ++ more) :: behind) (whole ++ more) := by
  induction more using List.reverseRecOn with
  | nil => rwa [List.append_nil, List.append_nil]
  | append_singleton more x ih =>
      rw [← List.append_assoc, ← List.append_assoc]
      exact ih.snoc

/-- One list more that has nothing yet makes no difference. -/
theorem concat_nil {parts : List (List α)} {whole : List α} (h : Interleaved parts whole) :
    Interleaved (parts ++ [[]]) whole := by
  induction h with
  | nil hempty =>
      refine .nil fun part hpart => ?_
      rcases List.mem_append.mp hpart with hpart | hpart
      · exact hempty part hpart
      · exact List.eq_of_mem_singleton hpart
  | snoc _ ih =>
      rw [List.append_assoc, List.cons_append] at ih ⊢
      exact ih.snoc

end Interleaved

/-- Some lists get longer, one after the other, by what is made. Whatever they are run into with
    other lists gets longer by as much. -/
def Grows (parts parts' : List (List α)) (made : List α) : Prop :=
  ∀ before whole, Interleaved (before ++ parts) whole →
    Interleaved (before ++ parts') (whole ++ made)

namespace Grows

variable {parts parts' parts'' : List (List α)} {part made made' : List α}

theorem refl (parts : List (List α)) : Grows parts parts [] := by
  intro before whole h
  rwa [List.append_nil]

theorem head (part made : List α) (parts : List (List α)) :
    Grows (part :: parts) ((part ++ made) :: parts) made :=
  fun _ _ h => h.extend made

theorem cons (part : List α) (h : Grows parts parts' made) :
    Grows (part :: parts) (part :: parts') made := by
  intro before whole hwhole
  rw [List.append_cons] at hwhole ⊢
  exact h _ _ hwhole

theorem trans (h : Grows parts parts' made) (h' : Grows parts' parts'' made') :
    Grows parts parts'' (made ++ made') := by
  intro before whole hwhole
  rw [← List.append_assoc]
  exact h' _ _ (h _ _ hwhole)

end Grows

namespace Webhook

/-- An event that was brought to a webhook. -/
structure Delivery where
  event : Event
  payload : Payload
  webhook : Webhook
  deriving DecidableEq

/-- A world, the world beside it that the webhooks are in, and what was delivered there. -/
structure Beside (σ δ : Type) where
  main : σ
  outside : δ
  delivered : List Delivery

/-- A dispatcher of the world beside. What it has dealt with is written down. -/
def posting (dispatch : Dispatcher δ) : Dispatcher (Beside σ δ) := fun event payload w t =>
  let (outcome, inner) := dispatch event payload w ⟨t.world.outside, t.log⟩
  let delivered := if outcome = .done then t.world.delivered ++ [⟨event, payload, w⟩]
    else t.world.delivered
  (outcome, ⟨{ t.world with outside := inner.world, delivered }, inner.log⟩)

theorem outcome_posting {dispatch : Dispatcher δ} {event : Event} {payload : Payload} {w : Webhook}
    {t : Traced (Beside σ δ)} {outcome : Dispatched} {inner : Traced δ}
    (h : (dispatch event payload w).outcome ⟨t.world.outside, t.log⟩ = (outcome, inner)) :
    (posting dispatch event payload w).outcome t =
      (outcome,
        ⟨{ t.world with
            outside := inner.world
            delivered := if outcome = .done then t.world.delivered ++ [⟨event, payload, w⟩]
              else t.world.delivered }, inner.log⟩) := by
  unfold Run.outcome at h
  simp only [Run.outcome, posting, h]

/-- A dispatcher does not break down. When the world beside is ready it has nobody wait, and that
    stays so. -/
structure Dependable (dispatch : Dispatcher δ) (ready : δ → Prop) : Prop where
  answers : ∀ event payload w t, ((dispatch event payload w).outcome t).1 ≠ .aborted
  finishes : ∀ event payload w t, ready t.world →
    ((dispatch event payload w).outcome t).1 = .done ∧
      ready ((dispatch event payload w).outcome t).2.world

/-- A dispatcher that has everybody wait while a line is busy. -/
def queued (busy : δ → Bool) (dispatch : Dispatcher δ) : Dispatcher δ := fun event payload w t =>
  if busy t.world then (.waiting, t) else dispatch event payload w t

theorem outcome_queued (busy : δ → Bool) (dispatch : Dispatcher δ) (event : Event)
    (payload : Payload) (w : Webhook) (t : Traced δ) :
    (queued busy dispatch event payload w).outcome t =
      if busy t.world then (.waiting, t) else (dispatch event payload w).outcome t := rfl

theorem Dependable.queued {dispatch : Dispatcher δ} {ready : δ → Prop} {busy : δ → Bool}
    (h : Dependable dispatch ready) (hfree : ∀ d, ready d → busy d = false) :
    Dependable (queued busy dispatch) ready where
  answers event payload w t := by
    rw [outcome_queued]
    split
    · exact nofun
    · exact h.answers event payload w t
  finishes event payload w t hready := by
    rw [outcome_queued, hfree t.world hready]
    exact h.finishes event payload w t hready

/-- A delivery over HTTP does to the world what its requests do. -/
theorem deliver_preserves {send : Http.Transport δ} {P : δ → Prop}
    (hsend : ∀ request url d, P d → P (send request url d).2) (w : Webhook) (payload : Payload) :
    (deliver send w payload).Preserves P := by
  have hattempt : ∀ request d, P d → P (attempt send request d).2 := by
    intro request d hd
    unfold attempt
    cases Url.parse? request.url with
    | none => exact hd
    | some url =>
        have hsent := hsend request url d hd
        simp only
        rcases hanswer : send request url d with ⟨_ | _, d'⟩
        all_goals
          rw [hanswer] at hsent
          exact hsent
  have hattempts : ∀ request total left last,
      (attempts send request total left last).Preserves P := by
    intro request total left
    induction left with
    | zero => exact fun last => .throw _
    | succ left ih =>
        intro last
        refine .bind (.ofWorld (hattempt request)) fun answer => ?_
        rcases answer with failure | ⟨⟩
        · exact .bind (.emit _) fun _ => ih _
        · exact .pure _
  unfold deliver
  split
  · exact .throw _
  · exact hattempts _ _ _ _

/-- A delivery over HTTP is dealt with at any rate, however the other side answers, and even if the
    headers are wrong and nothing is sent. -/
theorem dependable_dispatch {send : Http.Transport δ} {ready : δ → Prop}
    (hsend : ∀ request url d, ready d → ready (send request url d).2) :
    Dependable (dispatch send) ready where
  answers event payload w t := by
    rcases outcome_dispatch send event payload w t with ⟨log, hone⟩
    rw [hone]
    exact nofun
  finishes event payload w t hready := by
    rcases outcome_dispatch send event payload w t with ⟨log, hone⟩
    rw [hone]
    exact ⟨rfl, deliver_preserves hsend w payload t hready⟩

/-- It is known what a dispatcher does to the world for an event that it deals with. For one that it
    does not deal with it does nothing. -/
structure Carries (dispatch : Dispatcher δ) (carry : Delivery → δ → δ) : Prop where
  dealt : ∀ event payload w t, ((dispatch event payload w).outcome t).1 = .done →
    ((dispatch event payload w).outcome t).2.world = carry ⟨event, payload, w⟩ t.world
  left : ∀ event payload w t, ((dispatch event payload w).outcome t).1 ≠ .done →
    ((dispatch event payload w).outcome t).2.world = t.world

theorem Carries.queued {dispatch : Dispatcher δ} {carry : Delivery → δ → δ}
    (h : Carries dispatch carry) (busy : δ → Bool) : Carries (queued busy dispatch) carry where
  dealt event payload w t := by
    rw [outcome_queued]
    split
    · exact nofun
    · exact h.dealt event payload w t
  left event payload w t := by
    rw [outcome_queued]
    split
    · exact fun _ => rfl
    · exact h.left event payload w t

/-- What a delivery over HTTP makes of the world, with all its attempts and whatever comes of
    them. -/
def Delivery.overHttp (send : Http.Transport δ) (delivery : Delivery) (d : δ) : δ :=
  ((deliver send delivery.webhook delivery.payload).start d).2.world

/-- A delivery does the same, whatever was logged before. -/
theorem deliver_agree (send : Http.Transport δ) (w : Webhook) (payload : Payload) :
    (deliver send w payload).Agree Eq Eq (deliver send w payload) := by
  -- A failed attempt leaves an event, but the next one only sees the world.
  have hattempts : ∀ request total left last,
      (attempts send request total left last).Agree Eq Eq
        (attempts send request total left last) := by
    intro request total left
    induction left with
    | zero => exact fun last => .throw _
    | succ left ih =>
        intro last
        refine .bind (.ofWorld (.of_eq (fun _ => rfl) (attempt send request))) ?_
        rintro (failure | ⟨⟩) _ rfl
        · exact .bind (.emit _ _) fun _ _ _ => ih _
        · exact .pure rfl
  unfold deliver
  split
  · exact .throw _
  · exact hattempts _ _ _ _

/-- For every event that is dispatched over HTTP the world is as its delivery leaves it. -/
theorem carries_dispatch (send : Http.Transport δ) :
    Carries (dispatch send) (Delivery.overHttp send) where
  dealt event payload w t _ := by
    rcases outcome_dispatch send event payload w t with ⟨log, hone⟩
    rw [hone]
    exact (deliver_agree send w payload t ⟨t.world, []⟩ rfl).2
  left event payload w t hopen := by
    rcases outcome_dispatch send event payload w t with ⟨log, hone⟩
    rw [hone] at hopen
    exact absurd rfl hopen

/-- Some deliveries and some changes that a world made on its own, each in their order, have led it
    from one state to another. -/
inductive LedTo (carry : Delivery → δ → δ) (start : δ) :
    List Delivery → List (δ → δ) → δ → Prop
  | nil : LedTo carry start [] [] start
  | delivered {made : List Delivery} {changes : List (δ → δ)} {d : δ} (delivery : Delivery) :
      LedTo carry start made changes d →
      LedTo carry start (made ++ [delivery]) changes (carry delivery d)
  | changed {made : List Delivery} {changes : List (δ → δ)} {d : δ} (change : δ → δ) :
      LedTo carry start made changes d →
      LedTo carry start made (changes ++ [change]) (change d)

/-- Whether a dispatcher deals with an event or not, what was delivered still tells the state of the
    world beside. -/
theorem Carries.posting {dispatch : Dispatcher δ} {carry : Delivery → δ → δ}
    (h : Carries dispatch carry) (start : δ) (changes : List (δ → δ)) (event : Event)
    (payload : Payload) (w : Webhook) :
    (posting dispatch event payload w).Preserves fun b : Beside σ δ =>
      LedTo carry start b.delivered changes b.outside := by
  intro t hled
  have hdealt := h.dealt event payload w ⟨t.world.outside, t.log⟩
  have hleft := h.left event payload w ⟨t.world.outside, t.log⟩
  rcases hone : (dispatch event payload w).outcome ⟨t.world.outside, t.log⟩ with ⟨outcome, inner⟩
  rw [hone] at hdealt hleft
  rw [outcome_posting hone]
  by_cases hdone : outcome = .done
  · have hworld : inner.world = carry ⟨event, payload, w⟩ t.world.outside := hdealt hdone
    simp only [hdone, if_true, hworld]
    exact hled.delivered _
  · have hworld : inner.world = t.world.outside := hleft hdone
    simp only [hdone, if_false, hworld]
    exact hled

/-- What is owed for an event: one delivery to each webhook that lists it, in the order of the
    configuration. -/
def announcements (webhooks : List Webhook) (event : Event) (payload : Payload) : List Delivery :=
  (webhooks.filter fun w => event ∈ w.events).map fun w => ⟨event, payload, w⟩

/-- What a task still holds. -/
def Task.owed (t : Task) : List Delivery :=
  t.remaining.map fun w => ⟨t.event, t.payload, w⟩

/-- A task runs, or it has told all. -/
def Task.Sound (t : Task) : Prop :=
  t.phase = .running ∨ t.phase = .finished ∧ t.remaining = []

/-- Of each list that is owed, one part was delivered. A task holds the rest, or the list was
    delivered as a whole and its task is forgotten. -/
inductive Backed : List (List Delivery) → List (List Delivery) → List Task → Prop
  | nil : Backed [] [] []
  | gone {owed : List Delivery} {told done : List (List Delivery)} {tasks : List Task} :
      Backed told done tasks → Backed (owed :: told) (owed :: done) tasks
  | held {part : List Delivery} {told done : List (List Delivery)} {t : Task} {tasks : List Task} :
      t.Sound → Backed told done tasks →
      Backed ((part ++ t.owed) :: told) (part :: done) (t :: tasks)

namespace Backed

variable {told done : List (List Delivery)} {tasks : List Task}

theorem append {told' done' : List (List Delivery)} {tasks' : List Task}
    (h : Backed told done tasks) (h' : Backed told' done' tasks') :
    Backed (told ++ told') (done ++ done') (tasks ++ tasks') := by
  induction h with
  | nil => exact h'
  | gone _ ih => exact ih.gone
  | held hsound _ ih => exact ih.held hsound

/-- Tasks that came to their end may be forgotten. -/
theorem prune (h : Backed told done tasks) : Backed told done (tasks.filter Task.isRunning) := by
  induction h with
  | nil => exact .nil
  | gone _ ih => exact ih.gone
  | @held part told done t tasks hsound _ ih =>
      rcases hsound with hrunning | ⟨hfinished, hnone⟩
      · rw [List.filter_cons_of_pos (by simp [Task.isRunning, hrunning])]
        exact ih.held (.inl hrunning)
      · rw [List.filter_cons_of_neg (by simp [Task.isRunning, hfinished])]
        -- Its list was delivered as a whole, so nothing is lost with the task.
        have hall : part ++ t.owed = part := by
          rw [Task.owed, hnone, List.map_nil, List.append_nil]
        rw [hall]
        exact ih.gone

/-- An event is owed from when its task starts, and what is owed so far is still backed. -/
theorem detach (h : Backed told done tasks) (webhooks : List Webhook) (event : Event)
    (record : Record) :
    Backed (told ++ [announcements webhooks event (.ofRecord event record)]) (done ++ [[]])
      (Webhook.detach webhooks event record tasks) := by
  have hsubscribers : webhooks.filter (fun w => decide (event ∈ w.events)) =
      subscribers webhooks event := by
    simp [subscribers, subscribes, List.contains_eq_mem]
  rw [announcements, hsubscribers]
  unfold Webhook.detach
  cases subscribers webhooks event with
  | nil =>
      -- Nobody subscribes, so no task is started and nothing is owed.
      have hnone : Backed [[]] [[]] [] := .gone .nil
      simpa only [List.append_nil, List.map_nil] using h.append hnone
  | cons w others =>
      have hnew : Backed [[] ++ Task.owed ⟨event, .ofRecord event record, w :: others, .running⟩]
          [[]] [⟨event, .ofRecord event record, w :: others, .running⟩] := .held (.inl rfl) .nil
      exact h.prune.append hnew

/-- When no task runs, what was owed was delivered. -/
theorem done_eq (h : Backed told done tasks) (hended : ∀ t ∈ tasks, t.isRunning = false) :
    done = told := by
  induction h with
  | nil => rfl
  | gone _ ih => rw [ih hended]
  | @held part told done t tasks hsound _ ih =>
      rcases List.forall_mem_cons.mp hended with ⟨hstopped, hended⟩
      rcases hsound with hrunning | ⟨-, hnone⟩
      · rw [Task.isRunning, hrunning] at hstopped
        cases hstopped
      · rw [ih hended, Task.owed, hnone, List.map_nil, List.append_nil]

end Backed

/-- What was delivered is the first parts of the lists that are owed, run into one another. Tasks
    hold the rest. -/
def Account (told : List (List Delivery)) (delivered : List Delivery) (tasks : List Task) : Prop :=
  ∃ done, Backed told done tasks ∧ Interleaved done delivered

namespace Account

variable {told : List (List Delivery)} {delivered : List Delivery} {tasks : List Task}

theorem nil : Account [] [] [] :=
  ⟨[], .nil, .nil fun _ hnone => absurd hnone List.not_mem_nil⟩

/-- Where nothing is owed, no task is needed. -/
theorem concat_nil (h : Account told delivered tasks) : Account (told ++ [[]]) delivered tasks := by
  rcases h with ⟨done, hbacked, hdone⟩
  have hnone : Backed [[]] [[]] [] := .gone .nil
  refine ⟨done ++ [[]], ?_, hdone.concat_nil⟩
  simpa only [List.append_nil] using hbacked.append hnone

theorem detach (h : Account told delivered tasks) (webhooks : List Webhook) (event : Event)
    (record : Record) :
    Account (told ++ [announcements webhooks event (.ofRecord event record)]) delivered
      (Webhook.detach webhooks event record tasks) := by
  rcases h with ⟨done, hbacked, hdone⟩
  exact ⟨done ++ [[]], hbacked.detach webhooks event record, hdone.concat_nil⟩

end Account

/-- One of some tasks goes on as far as it can, the one at a place. -/
def advanceAt (dispatch : Dispatcher σ) : Nat → List Task → Run σ (List Task)
  | _, [] => return []
  | 0, t :: rest => do
    let t ← t.advance dispatch
    return t :: rest
  | place + 1, t :: rest => do
    let rest ← advanceAt dispatch place rest
    return t :: rest

theorem reportAborted_preserves {P : σ → Prop} (tasks : List Task) :
    (reportAborted tasks).Preserves P := by
  induction tasks with
  | nil => exact .pure _
  | cons t rest ih =>
      unfold reportAborted
      split
      · exact .bind (.emit _) fun _ => ih
      · exact ih

/-! ### What tasks preserve -/

section Preserves

variable {dispatch : Dispatcher σ} {P : σ → Prop}
  (h : ∀ event payload w, (dispatch event payload w).Preserves P)

include h

/-- A task that goes on preserves what its dispatcher preserves. -/
theorem tell_preserves (event : Event) (payload : Payload) (ws : List Webhook) :
    (Task.tell dispatch event payload ws).Preserves P := by
  induction ws with
  | nil => exact .pure _
  | cons w rest ih =>
      refine .bind (h event payload w) fun outcome => ?_
      cases outcome with
      | done => exact ih
      | waiting => exact .pure _
      | aborted => exact .pure _

theorem advance_preserves (task : Task) : (task.advance dispatch).Preserves P := by
  unfold Task.advance
  cases task.phase with
  | running => exact .bind (tell_preserves h _ _ _) fun _ => .pure _
  | finished => exact .pure _
  | aborted => exact .pure _

theorem advanceAt_preserves (place : Nat) (tasks : List Task) :
    (advanceAt dispatch place tasks).Preserves P := by
  induction tasks generalizing place with
  | nil => cases place <;> exact .pure _
  | cons task rest ih =>
      cases place with
      | zero => exact .bind (advance_preserves h task) fun _ => .pure _
      | succ place => exact .bind (ih place) fun _ => .pure _

theorem advanceAll_preserves (tasks : List Task) : (advanceAll dispatch tasks).Preserves P := by
  induction tasks with
  | nil => exact .pure _
  | cons task rest ih => exact .bind (advance_preserves h task) fun _ => .bind ih fun _ => .pure _

theorem flush_preserves (tasks : List Task) : (flush dispatch tasks).Preserves P :=
  .bind (advanceAll_preserves h tasks) fun _ => .bind (reportAborted_preserves _) fun _ => .pure _

end Preserves

/-- Nothing that a dispatcher of the world beside does is seen in the main world. -/
theorem posting_preserves (dispatch : Dispatcher δ) (P : σ → Prop) (event : Event)
    (payload : Payload) (w : Webhook) :
    (posting dispatch event payload w).Preserves fun b : Beside σ δ => P b.main := fun _ h => h

/-! ### The world beside -/

/-- A task went on. It made some of the deliveries that it owed and owes the rest, and if nothing
    has to wait it came to its end. -/
structure Went (ready : δ → Prop) (task : Task) (w : Beside σ δ) (made : List Delivery)
    (task' : Task) (w' : Beside σ δ) : Prop where
  owed : task.owed = made ++ task'.owed
  delivered : w'.delivered = w.delivered ++ made
  sound : task'.Sound
  ended : ready w.outside → task'.isRunning = false ∧ ready w'.outside

section Dependable

variable {dispatch : Dispatcher δ} {ready : δ → Prop} (h : Dependable dispatch ready)

include h

/-- Telling goes on to the end of the list or to a webhook that has to wait. -/
theorem went_tell (event : Event) (payload : Payload) (ws : List Webhook)
    (t : Traced (Beside σ δ)) : ∃ made rest phase t',
      (Task.tell (posting dispatch) event payload ws).outcome t = ((rest, phase), t') ∧
      Went ready ⟨event, payload, ws, .running⟩ t.world made ⟨event, payload, rest, phase⟩
        t'.world := by
  induction ws generalizing t with
  | nil =>
      exact ⟨[], [], .finished, t, rfl, rfl, (List.append_nil _).symm, .inr ⟨rfl, rfl⟩,
        fun hready => ⟨rfl, hready⟩⟩
  | cons w rest ih =>
      have hanswers := h.answers event payload w ⟨t.world.outside, t.log⟩
      have hfinishes := h.finishes event payload w ⟨t.world.outside, t.log⟩
      rcases hone : (dispatch event payload w).outcome ⟨t.world.outside, t.log⟩ with
        ⟨outcome, inner⟩
      rw [hone] at hanswers hfinishes
      simp only [Task.tell, Run.outcome_bind, outcome_posting hone]
      -- A list that is broken off would be lost, and that is what a dispatcher must not do.
      cases outcome with
      | aborted => exact absurd rfl hanswers
      | waiting =>
          refine ⟨[], w :: rest, .running, _, rfl, rfl, (List.append_nil _).symm, .inl rfl, ?_⟩
          intro hready
          cases (hfinishes hready).1
      | done =>
          rcases ih ⟨{ t.world with
              outside := inner.world
              delivered := t.world.delivered ++ [⟨event, payload, w⟩] }, inner.log⟩ with
            ⟨made, left, phase, t', htold, hwent⟩
          refine ⟨⟨event, payload, w⟩ :: made, left, phase, t', htold, ?_, ?_, hwent.sound, ?_⟩
          · rw [List.cons_append, ← hwent.owed]
            rfl
          · rw [hwent.delivered, List.append_assoc]
            rfl
          · exact fun hready => hwent.ended (hfinishes hready).2

theorem went_advance {task : Task} (hsound : task.Sound) (t : Traced (Beside σ δ)) :
    ∃ made task' t', (task.advance (posting dispatch)).outcome t = (task', t') ∧
      Went ready task t.world made task' t'.world := by
  rcases task with ⟨event, payload, remaining, phase⟩
  rcases hsound with hrunning | ⟨hfinished, hnone⟩
  · cases hrunning
    rcases went_tell h event payload remaining t with ⟨made, rest, phase, t', htold, hwent⟩
    refine ⟨made, ⟨event, payload, rest, phase⟩, t', ?_, hwent⟩
    simp only [Task.advance, Run.outcome_bind, htold]
    rfl
  · cases hfinished
    exact ⟨[], _, t, rfl, rfl, (List.append_nil _).symm, .inr ⟨rfl, hnone⟩,
      fun hready => ⟨rfl, hready⟩⟩

variable {told done : List (List Delivery)} {tasks : List Task}

/-- A task that goes on keeps the account. -/
theorem Backed.advanceAt (hbacked : Backed told done tasks) (place : Nat)
    (t : Traced (Beside σ δ)) : ∃ done' made tasks' t',
      (Webhook.advanceAt (posting dispatch) place tasks).outcome t = (tasks', t') ∧
      Backed told done' tasks' ∧ Grows done done' made ∧
      t'.world.delivered = t.world.delivered ++ made := by
  induction hbacked generalizing place with
  | nil =>
      refine ⟨[], [], [], t, ?_, .nil, .refl _, (List.append_nil _).symm⟩
      cases place <;> rfl
  | @gone owed told done tasks _ ih =>
      rcases ih place with ⟨done', made, tasks', t', hrun, hbacked, hgrows, hmade⟩
      exact ⟨owed :: done', made, tasks', t', hrun, hbacked.gone, hgrows.cons owed, hmade⟩
  | @held part told done task tasks hsound hrest ih =>
      cases place with
      | zero =>
          rcases went_advance h hsound t with ⟨made, task', t', hrun, hwent⟩
          refine ⟨(part ++ made) :: done, made, task' :: tasks, t', ?_, ?_, .head part made done,
            hwent.delivered⟩
          · simp only [Webhook.advanceAt, Run.outcome_bind, hrun]
            rfl
          · rw [hwent.owed, ← List.append_assoc]
            exact hrest.held hwent.sound
      | succ place =>
          rcases ih place with ⟨done', made, tasks', t', hrun, hbacked, hgrows, hmade⟩
          refine ⟨part :: done', made, task :: tasks', t', ?_, hbacked.held hsound,
            hgrows.cons part, hmade⟩
          simp only [Webhook.advanceAt, Run.outcome_bind, hrun]
          rfl

/-- Tasks that all go on keep the account, and if nothing has to wait none runs any more. -/
theorem Backed.advanceAll (hbacked : Backed told done tasks) (t : Traced (Beside σ δ)) :
    ∃ done' made tasks' t',
      (Webhook.advanceAll (posting dispatch) tasks).outcome t = (tasks', t') ∧
      Backed told done' tasks' ∧ Grows done done' made ∧
      t'.world.delivered = t.world.delivered ++ made ∧
      (ready t.world.outside → ∀ task ∈ tasks', task.isRunning = false) := by
  induction hbacked generalizing t with
  | nil =>
      exact ⟨[], [], [], t, rfl, .nil, .refl _, (List.append_nil _).symm,
        fun _ _ hnone => absurd hnone List.not_mem_nil⟩
  | @gone owed told done tasks _ ih =>
      rcases ih t with ⟨done', made, tasks', t', hrun, hbacked, hgrows, hmade, hended⟩
      exact ⟨owed :: done', made, tasks', t', hrun, hbacked.gone, hgrows.cons owed, hmade, hended⟩
  | @held part told done task tasks hsound hrest ih =>
      rcases went_advance h hsound t with ⟨first, task', t₁, hfirst, hwent⟩
      -- The others go on in the world that the first one left, and make what they make after it.
      rcases ih t₁ with ⟨done', made, tasks', t', hrun, hbacked, hgrows, hmade, hended⟩
      refine ⟨(part ++ first) :: done', first ++ made, task' :: tasks', t', ?_, ?_,
        (Grows.head part first done).trans (hgrows.cons _), ?_, ?_⟩
      · simp only [Webhook.advanceAll, Run.outcome_bind, hfirst, hrun]
        rfl
      · rw [hwent.owed, ← List.append_assoc]
        exact hbacked.held hwent.sound
      · rw [hmade, hwent.delivered, List.append_assoc]
      · intro hready
        rcases hwent.ended hready with ⟨hstopped, hready⟩
        exact List.forall_mem_cons.mpr ⟨hstopped, hended hready⟩

theorem Account.advanceAt {t : Traced (Beside σ δ)} (ha : Account told t.world.delivered tasks)
    (place : Nat) :
    Account told ((Webhook.advanceAt (posting dispatch) place tasks).outcome t).2.world.delivered
      ((Webhook.advanceAt (posting dispatch) place tasks).outcome t).1 := by
  rcases ha with ⟨done, hbacked, hdone⟩
  rcases hbacked.advanceAt h place t with ⟨done', made, tasks', t', hrun, hbacked, hgrows, hmade⟩
  rw [hrun, hmade]
  exact ⟨done', hbacked, hgrows [] _ hdone⟩

/-- After all tasks were waited for, and none of them in vain, all that is owed was delivered. -/
theorem Account.flush {t : Traced (Beside σ δ)} (ha : Account told t.world.delivered tasks)
    (hready : ready t.world.outside) :
    Interleaved told ((Webhook.flush (posting dispatch) tasks).outcome t).2.world.delivered := by
  rcases ha with ⟨done, hbacked, hdone⟩
  rcases hbacked.advanceAll h t with
    ⟨done', made, tasks', t', hrun, hbacked, hgrows, hmade, hended⟩
  have hreported := reportAborted_preserves (P := fun w : Beside σ δ =>
    w.delivered = t'.world.delivered) tasks' t' rfl
  have hflushed : ((Webhook.flush (posting dispatch) tasks).outcome t).2.world.delivered =
      t'.world.delivered := by
    simp only [Webhook.flush, Run.outcome_bind, hrun]
    exact hreported
  rw [hflushed, hmade, ← hbacked.done_eq (hended hready)]
  exact hgrows [] _ hdone

end Dependable

end Webhook

end Promotion
