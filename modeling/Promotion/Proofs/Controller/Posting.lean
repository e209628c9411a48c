import Promotion.Proofs.Controller.Aside
import Promotion.Proofs.Controller.Ledger
import Promotion.Proofs.Webhook.Tasks

/-!
# What Webhooks Are Told

What webhooks are told of a run of promotions, and what the run has to do with
it.

A promotion only starts a task; the deliveries are made later, between other
promotions, and they may be slow or fail. `Turn` is everything that can happen
in the meantime: a promotion is asked for, a task goes on, or the world that the
webhooks are in goes its own way. A promotion looks at the tasks in its last
step alone, so nothing is left out by letting them go on only between
promotions: one that goes on during a promotion might as well have done so
before it.

The webhooks are in a world beside that of the other collaborators. A promotion
does there nothing at all, and a task does nothing anywhere else. So both sides
are shown on their own. `runTurns_main` forgets the world beside and finds the
run of the promotions alone, since a promotion does not read what is still to be
told. `runTurns_account` keeps the account of what is owed, `Told` by each
promotion and its answer. What is written down as delivered is only as good as
what the dispatcher does for it. `runTurns_ledTo` is that nothing was done in the
world beside but the deliveries that are written down, one after the other.

## Main definitions

* `Collaborators.posting`, `Controller.posting`: Webhooks in a world beside.
* `Controller.poll`: A task goes on.
* `Turn`, `runTurns`: What can happen, and what comes of it.
* `Webhook.Payload.Tells`: A payload has the fields of a record.
* `Told`: What webhooks are to be told of a promotion, by its answer.

## Theorems

* `promote_told`: A promotion starts a task for what is to be told of it.
* `runTurns_main`: The run of the promotions does not depend on the deliveries.
* `runTurns_account`: What was delivered and what is still held are what is owed.
* `runTurns_ledTo`: What was delivered tells the state of the world beside.
* `runTurns_mirror`: After all, the deliveries are those that the answers call for.
-/

namespace Promotion

variable {σ δ α : Type}

namespace Webhook

/-- A step of the main world. -/
def Beside.inMain (step : σ → α × σ) : Beside σ δ → α × Beside σ δ := fun w =>
  let (a, main) := step w.main
  (a, { w with main })

/-- A payload has the fields of a record, and says what it is told for. -/
structure Payload.Tells (payload : Payload) (event : Event) (record : Record) : Prop where
  event : payload.event = event
  id : payload.id = record.id
  tag : payload.tag = record.tag
  digest : payload.digest = record.digest
  fromEnv : payload.fromEnv = record.fromEnv
  toEnv : payload.toEnv = record.toEnv
  operator : payload.operator = record.operator
  signatureVerified : payload.signatureVerified = record.signatureVerified
  gateResults : payload.gateResults = record.gateResults
  timestamp : payload.timestamp = record.timestamp

theorem Payload.tells_ofRecord (event : Event) (record : Record) :
    (Payload.ofRecord event record).Tells event record :=
  ⟨rfl, rfl, rfl, rfl, rfl, rfl, rfl, rfl, rfl, rfl⟩

end Webhook

open Webhook

/-- The collaborators with webhooks in a world beside. -/
def Collaborators.posting (k : Collaborators σ) (dispatch : Dispatcher δ) :
    Collaborators (Beside σ δ) where
  registry :=
    { resolve := fun uri tag => Beside.inMain (k.registry.resolve uri tag)
      fetch := fun artifact => Beside.inMain (k.registry.fetch artifact)
      createTag := fun artifact tag => Beside.inMain (k.registry.createTag artifact tag)
      removeTag := fun uri tag => Beside.inMain (k.registry.removeTag uri tag) }
  gates name subject := Beside.inMain (k.gates name subject)
  verifier :=
    { build := Beside.inMain k.verifier.build
      verify := fun artifact content policy =>
        Beside.inMain (k.verifier.verify artifact content policy) }
  audit :=
    { append := fun record => Beside.inMain (k.audit.append record)
      query := fun question => Beside.inMain (k.audit.query question) }
  dispatch := Webhook.posting dispatch
  clock := Beside.inMain k.clock
  freshId := Beside.inMain k.freshId

theorem Collaborators.posting_mirrors (k : Collaborators σ) (dispatch : Dispatcher δ) :
    (k.posting dispatch).Mirrors Beside.main k := by
  constructor <;> intros <;> intro w <;> rfl

namespace Controller

/-- The controller with webhooks in a world beside. -/
def posting (c : Controller σ) (dispatch : Dispatcher δ) : Controller (Beside σ δ) :=
  ⟨c.pipeline, c.registryUri, c.collaborators.posting dispatch⟩

/-- One of the tasks goes on as far as it can, the one at a place. -/
def poll (c : Controller σ) (place : Nat) : Run (State σ) Unit := fun t =>
  let (pending, inner) :=
    advanceAt c.collaborators.dispatch place t.world.pending ⟨t.world.world, t.log⟩
  ((), ⟨{ t.world with world := inner.world, pending }, inner.log⟩)

/-- What can happen while a controller is in use. -/
inductive Turn (δ : Type) where
  /-- A promotion is asked for. -/
  | call (r : Request)
  /-- The task at a place goes on. -/
  | poll (place : Nat)
  /-- The world beside goes its own way. -/
  | drift (change : δ → δ)

/-- The promotions that are asked for. -/
def Turn.calls : List (Turn δ) → List Request
  | [] => []
  | .call r :: rest => r :: calls rest
  | .poll _ :: rest => calls rest
  | .drift _ :: rest => calls rest

/-- What the world beside does on its own. -/
def Turn.changes : List (Turn δ) → List (δ → δ)
  | [] => []
  | .call _ :: rest => changes rest
  | .poll _ :: rest => changes rest
  | .drift change :: rest => change :: changes rest

/-- The world beside goes its own way. -/
def drifted (change : δ → δ) (s : State (Beside σ δ)) : State (Beside σ δ) :=
  { s with world := { s.world with outside := change s.world.outside } }

/-- The answers to the promotions that are asked for, turn after turn, and the state after all. -/
def runTurns (c : Controller (Beside σ δ)) :
    List (Turn δ) → Traced (State (Beside σ δ)) →
      List (Except Error Record) × Traced (State (Beside σ δ))
  | [], t => ([], t)
  | .call r :: rest, t =>
    let (answer, t) := (c.promote r).outcome t
    let (answers, t) := runTurns c rest t
    (answer :: answers, t)
  | .poll place :: rest, t => runTurns c rest ((c.poll place).outcome t).2
  | .drift change :: rest, t => runTurns c rest (t.map (drifted change))

/-- What webhooks are to be told of a promotion, by its answer. -/
inductive Told (webhooks : List Webhook) (r : Request) :
    Except Error Record → List Delivery → Prop
  /-- It took place. -/
  | promoted {record : Record} {payload : Payload} : r.dryRun = false →
      payload.Tells .promote record →
      Told webhooks r (.ok record) (announcements webhooks .promote payload)
  /-- A required gate failed. -/
  | blocked {record : Record} {payload : Payload} : r.dryRun = false → record.isBlocked = true →
      payload.Tells .gateFailed record →
      Told webhooks r
        (.error (.gatesFailed record.tag record.digest record.toEnv record.gateResults))
        (announcements webhooks .gateFailed payload)
  /-- It was a dry run. -/
  | rehearsed {answer : Except Error Record} : r.dryRun = true → Told webhooks r answer []
  /-- It failed for some other reason. -/
  | failed {e : Error} :
      (∀ tag digest environment results, e ≠ .gatesFailed tag digest environment results) →
      Told webhooks r (.error e) []

/-! ### One promotion -/

section Promote

variable {c : Controller σ}

theorem looks_pending (pending : List Task) : c.Looks fun s => s.pending = pending where
  resolve _ _ hs := hs
  fetch _ _ hs := hs
  gates _ _ _ hs := hs
  build _ hs := hs
  verify _ _ _ _ hs := hs
  query _ _ hs := hs
  clock _ hs := hs
  freshId _ hs := hs
  remembers _ _ _ hs := hs

/-- A promotion starts a task for what webhooks are to be told of it, or there is nothing to tell
    and the tasks stay as they are. -/
theorem promote_told {r : Request} {t t' : Traced (State σ)} {answer : Except Error Record}
    (hrun : (c.promote r).outcome t = (answer, t')) :
    (Told c.pipeline.webhooks r answer [] ∧ t'.world.pending = t.world.pending) ∨
      ∃ event record,
        Told c.pipeline.webhooks r answer
          (announcements c.pipeline.webhooks event (.ofRecord event record)) ∧
        t'.world.pending = detach c.pipeline.webhooks event record t.world.pending := by
  have hends := concluded_promote c r t
  rw [hrun] at hends
  change c.Concluded r t (answer, t'.world) at hends
  generalize t'.world = after at hends ⊢
  have hlooks := looks_pending (c := c) t.world.pending
  -- A task is started in two of the ways to end, each time as the last step.
  cases hends with
  | refused hassess =>
      exact .inl ⟨.failed (assess_ne_gatesFailed hassess), hlooks.assessed hassess rfl⟩
  | rehearsed hassess hdry => exact .inl ⟨.rehearsed hdry, hlooks.assessed hassess rfl⟩
  | blocked hassess hreal hblocked =>
      refine .inr ⟨.gateFailed, _, .blocked hreal hblocked (Payload.tells_ofRecord _ _), ?_⟩
      rw [hlooks.assessed hassess rfl]
  | unseen hassess _ _ hsnap =>
      rcases snapshot_eq_error hsnap with ⟨reason, rfl⟩
      exact .inl ⟨.failed fun _ _ _ _ => nofun, hlooks.sought hassess hsnap rfl⟩
  | undone hassess _ _ hsnap hcommit =>
      exact .inl ⟨.failed hcommit.ne_gatesFailed, hlooks.sought hassess hsnap rfl⟩
  | landed hassess hreal _ hsnap _ =>
      refine .inr ⟨.promote, _, .promoted hreal (Payload.tells_ofRecord _ _), ?_⟩
      rw [hlooks.sought hassess hsnap rfl]

/-- A promotion does nothing in the world beside. -/
theorem promote_beside (c : Controller σ) (dispatch : Dispatcher δ) (r : Request)
    (outside : δ) (delivered : List Delivery) :
    ((c.posting dispatch).promote r).Preserves fun s =>
      s.world.outside = outside ∧ s.world.delivered = delivered := by
  have hlooks : (c.posting dispatch).Looks fun s =>
      s.world.outside = outside ∧ s.world.delivered = delivered :=
    { resolve := fun _ _ hs => hs
      fetch := fun _ _ hs => hs
      gates := fun _ _ _ hs => hs
      build := fun _ hs => hs
      verify := fun _ _ _ _ hs => hs
      query := fun _ _ hs => hs
      clock := fun _ hs => hs
      freshId := fun _ hs => hs
      remembers := fun _ _ _ hs => hs }
  exact promote_preserves hlooks (fun _ _ _ hs => hs) (fun _ _ hs => hs) (fun _ _ hs => hs)
    (fun _ _ hs => hs) r

end Promote

/-! ### The run of the promotions -/

/-- The main world of one state is the world of another, and the rest is the same but for what is
    still to be told. -/
def State.Above (s : State (Beside σ δ)) (s₀ : State σ) : Prop :=
  (s.map Beside.main).Akin s₀

section Main

variable (c : Controller σ) (dispatch : Dispatcher δ)

theorem promote_above (r : Request) {t : Traced (State (Beside σ δ))} {u : Traced (State σ)}
    (h : t.world.Above u.world) :
    (((c.posting dispatch).promote r).outcome t).1 = ((c.promote r).outcome u).1 ∧
      State.Above (((c.posting dispatch).promote r).outcome t).2.world
        ((c.promote r).outcome u).2.world := by
  have hmirrors : (c.promote r).outcome (t.map (State.map Beside.main)) =
      ((((c.posting dispatch).promote r).outcome t).1,
        (((c.posting dispatch).promote r).outcome t).2.map (State.map Beside.main)) :=
    promote_mirrors (c.collaborators.posting_mirrors dispatch) r t
  rcases promote_akin c r (t.map (State.map Beside.main)) u h with ⟨hanswer, hworld⟩
  rw [hmirrors] at hanswer hworld
  exact ⟨hanswer.eq, hworld⟩

theorem poll_above (place : Nat) {t : Traced (State (Beside σ δ))} {s₀ : State σ}
    (h : t.world.Above s₀) :
    State.Above (((c.posting dispatch).poll place).outcome t).2.world s₀ := by
  have hmain := advanceAt_preserves (posting_preserves dispatch (· = s₀.world)) place
    t.world.pending ⟨t.world.world, t.log⟩ h.world
  exact ⟨hmain, h.built, h.cache⟩

theorem flush_above {t : Traced (State (Beside σ δ))} {s₀ : State σ} (h : t.world.Above s₀) :
    State.Above ((c.posting dispatch).flush.outcome t).2.world s₀ := by
  have hmain := flush_preserves (posting_preserves dispatch (· = s₀.world)) t.world.pending
    ⟨t.world.world, t.log⟩ h.world
  exact ⟨hmain, h.built, h.cache⟩

/-- Whatever is delivered in between, the promotions are those of a run without deliveries. -/
theorem runTurns_main (turns : List (Turn δ)) {t : Traced (State (Beside σ δ))}
    {u : Traced (State σ)} (h : t.world.Above u.world) :
    ((c.posting dispatch).runTurns turns t).1 = (c.runAll (Turn.calls turns) u).1 ∧
      State.Above ((c.posting dispatch).runTurns turns t).2.world
        (c.runAll (Turn.calls turns) u).2.world := by
  induction turns generalizing t u with
  | nil => exact ⟨rfl, h⟩
  | cons turn rest ih =>
      cases turn with
      | call r =>
          rcases promote_above c dispatch r h with ⟨hanswer, hafter⟩
          rcases ih hafter with ⟨hanswers, hend⟩
          exact ⟨congrArg₂ List.cons hanswer hanswers, hend⟩
      | poll place => exact ih (poll_above c dispatch place h)
      | drift change => exact ih ⟨h.world, h.built, h.cache⟩

end Main

/-! ### The account of the deliveries -/

section Account

variable (c : Controller σ) {dispatch : Dispatcher δ} {ready : δ → Prop}
  (h : Dependable dispatch ready)

include h

/-- Turn after turn, what was delivered and what is still held are what is owed. -/
theorem runTurns_account (turns : List (Turn δ)) {t : Traced (State (Beside σ δ))}
    {told : List (List Delivery)} (ha : Account told t.world.world.delivered t.world.pending) :
    ∃ told',
      List.Forall₂ (fun p owed => Told c.pipeline.webhooks p.1 p.2 owed)
        ((Turn.calls turns).zip ((c.posting dispatch).runTurns turns t).1) told' ∧
      Account (told ++ told') ((c.posting dispatch).runTurns turns t).2.world.world.delivered
        ((c.posting dispatch).runTurns turns t).2.world.pending := by
  induction turns generalizing t told with
  | nil => exact ⟨[], .nil, by rwa [List.append_nil]⟩
  | cons turn rest ih =>
      cases turn with
      | call r =>
          rcases hrun : ((c.posting dispatch).promote r).outcome t with ⟨answer, t₁⟩
          have hbeside := promote_beside c dispatch r _ t.world.world.delivered t ⟨rfl, rfl⟩
          rw [hrun] at hbeside
          -- One list more is owed, be it empty, and the deliveries are as they were.
          have hfirst : ∃ owed, Told c.pipeline.webhooks r answer owed ∧
              Account (told ++ [owed]) t₁.world.world.delivered t₁.world.pending := by
            rw [hbeside.2]
            rcases promote_told hrun with ⟨htold, hpending⟩ | ⟨event, record, htold, hpending⟩
            · rw [hpending]
              exact ⟨[], htold, ha.concat_nil⟩
            · rw [hpending]
              exact ⟨_, htold, ha.detach _ event record⟩
          rcases hfirst with ⟨owed, htold, ha⟩
          rcases ih ha with ⟨told', hall, ha⟩
          simp only [Turn.calls, runTurns, hrun]
          refine ⟨owed :: told', .cons htold hall, ?_⟩
          rwa [List.append_cons]
      | poll place => exact ih (ha.advanceAt h place (t := ⟨t.world.world, t.log⟩))
      | drift change => exact ih ha

end Account

/-! ### The course of the world beside -/

section Course

variable (c : Controller σ) {dispatch : Dispatcher δ} {carry : Delivery → δ → δ}
  (h : Carries dispatch carry) {start : δ} {changes : List (δ → δ)}

include h

/-- Turn after turn, the world beside is where the deliveries and its own changes have led it. -/
theorem runTurns_ledTo (turns : List (Turn δ)) {t : Traced (State (Beside σ δ))}
    (hled : LedTo carry start t.world.world.delivered changes t.world.world.outside) :
    LedTo carry start ((c.posting dispatch).runTurns turns t).2.world.world.delivered
      (changes ++ Turn.changes turns)
      ((c.posting dispatch).runTurns turns t).2.world.world.outside := by
  induction turns generalizing t changes with
  | nil => rwa [Turn.changes, List.append_nil]
  | cons turn rest ih =>
      cases turn with
      | call r =>
          -- A promotion leaves the world beside where it was, with the same written down.
          rcases promote_beside c dispatch r _ _ t ⟨rfl, rfl⟩ with ⟨houtside, hdelivered⟩
          rw [← houtside, ← hdelivered] at hled
          exact ih hled
      | poll place =>
          exact ih (advanceAt_preserves (h.posting start changes) place t.world.pending
            ⟨t.world.world, t.log⟩ hled)
      | drift change =>
          rw [Turn.changes, List.append_cons]
          exact ih (hled.changed change)

theorem flush_ledTo {t : Traced (State (Beside σ δ))}
    (hled : LedTo carry start t.world.world.delivered changes t.world.world.outside) :
    LedTo carry start ((c.posting dispatch).flush.outcome t).2.world.world.delivered changes
      ((c.posting dispatch).flush.outcome t).2.world.world.outside :=
  flush_preserves (h.posting start changes) t.world.pending ⟨t.world.world, t.log⟩ hled

end Course

/-- Webhooks are told what the answers call for, and nothing else depends on it.

    A new controller runs some promotions while its tasks go on and the world beside changes, in any
    order, and then waits for the tasks. If the dispatcher does not break down, and at last has
    nobody wait, then what was delivered is what was to be told of each promotion by its answer, run
    into one another. A dispatcher over HTTP is of this kind, with a line that is busy at times,
    whatever the other side answers and whatever headers there are. With such a dispatcher nothing
    happens to the world beside but that each of these deliveries is carried out there, one after
    the other, and that it goes its own way in between. In any case the answers and the main world
    are those of the promotions alone, and what was added to the log is the records of those that
    took place. -/
theorem runTurns_mirror {c : Controller σ} {log : σ → Audit.Store}
    (hlog : c.collaborators.Logs log) (w : σ) {es : List Audit.Entry} (hes : (log w).Keeps es)
    (dispatch : Dispatcher δ) (outside : δ) (turns : List (Turn δ)) :
    let ran := (c.posting dispatch).runTurns turns ⟨.fresh ⟨w, outside, []⟩, []⟩
    let ended := ((c.posting dispatch).flush.outcome ran.2).2.world.world
    let alone := c.runAll (Turn.calls turns) ⟨.fresh w, []⟩
    (∀ ready, Dependable dispatch ready → ready ran.2.world.world.outside →
      ∃ told,
        List.Forall₂ (fun p owed => Told c.pipeline.webhooks p.1 p.2 owed)
          ((Turn.calls turns).zip ran.1) told ∧
        Interleaved told ended.delivered) ∧
    (∀ (send : Http.Transport δ) (busy : δ → Bool),
      (∀ request url d, busy d = false → busy (send request url d).2 = false) →
      Dependable (queued busy (Webhook.dispatch send)) fun d => busy d = false) ∧
    (∀ (send : Http.Transport δ) (busy : δ → Bool),
      dispatch = queued busy (Webhook.dispatch send) →
      LedTo (Delivery.overHttp send) outside ended.delivered (Turn.changes turns) ended.outside) ∧
    ran.1 = alone.1 ∧ ended.main = alone.2.world.world ∧
    ∃ new, (log ended.main).Keeps (es ++ new) ∧
      new.map Audit.Entry.record = landedAll (Turn.calls turns) ran.1 := by
  intro ran ended alone
  have habove : State.Above (State.fresh (⟨w, outside, []⟩ : Beside σ δ)) (State.fresh w) :=
    ⟨rfl, rfl, rfl⟩
  rcases runTurns_main c dispatch turns (t := ⟨.fresh ⟨w, outside, []⟩, []⟩)
    (u := ⟨.fresh w, []⟩) habove with ⟨hanswers, hafter⟩
  have hmain : ended.main = alone.2.world.world := (flush_above c dispatch hafter).world
  refine ⟨fun ready hdependable hready => ?_, fun send busy hsend => ?_,
    fun send busy hdispatch => ?_, hanswers, hmain, ?_⟩
  · rcases runTurns_account c hdependable turns (t := ⟨.fresh ⟨w, outside, []⟩, []⟩)
      Account.nil with ⟨told, htold, ha⟩
    exact ⟨told, htold, ha.flush hdependable (t := ⟨ran.2.world.world, ran.2.log⟩) hready⟩
  · exact (dependable_dispatch hsend).queued fun _ hfree => hfree
  · have hcarries : Carries dispatch (Delivery.overHttp send) :=
      hdispatch ▸ (carries_dispatch send).queued busy
    have hran := runTurns_ledTo c hcarries turns (t := ⟨.fresh ⟨w, outside, []⟩, []⟩) LedTo.nil
    exact flush_ledTo c hcarries hran
  · rw [hmain, hanswers]
    exact runAll_records hlog (Turn.calls turns) (t := ⟨.fresh w, []⟩) hes

end Controller

/-- Production behind a gate, and three webhooks: one lists promotions twice, and one has a header
    that is none. -/
def Pipeline.heralded : Pipeline :=
  ⟨[.named "dev", .named "staging", (Environment.named "prod").withGate (.mandatory "smoke")],
    [(Webhook.ofUrl "http://a.example/").withEvents [.promote, .promote],
      ((Webhook.ofUrl "http://b.example/").withEvents [.gateFailed, .promote]).withHeader "no name"
        "x",
      (Webhook.ofUrl "http://c.example/").withEvents [.gateFailed]]⟩

/-- Calm surroundings but for gates that fail. -/
def Surroundings.failing : Surroundings Unit :=
  { calm with gates := fun name _ around => (⟨.ok (.failed name "down" 0), 0, 0⟩, around) }

namespace Controller

/-- A dry run, a promotion to staging and one to production that the gate keeps back, while the line
    is busy, free and busy again. Nobody takes what is sent. What is delivered at last is what was
    to be told of the promotions, the line is where these deliveries and its own three changes have
    led it, and the log has the one promotion that took place. -/
theorem runTurns_mirror_unheard :
    let c := World.controller .failing .heralded "registry"
    let send : Http.Transport Bool := fun _ _ busy => (.error "connection refused", busy)
    let dispatch : Dispatcher Bool := queued id (Webhook.dispatch send)
    let dry : Request := ⟨"v1", "dev", "staging", .named "ann", true⟩
    let first := World.step "dev" "staging"
    let second := World.step "staging" "prod"
    let turns : List (Turn Bool) := [.call dry, .call first, .poll 0, .drift not, .poll 0,
      .drift not, .call second, .poll 0, .poll 1, .drift not]
    let ran := (c.posting dispatch).runTurns turns ⟨.fresh ⟨World.single, true, []⟩, []⟩
    let ended := ((c.posting dispatch).flush.outcome ran.2).2.world.world
    ended.delivered.map (fun d => (d.event, d.webhook.url)) =
        [(.promote, "http://a.example/"), (.promote, "http://b.example/"),
          (.gateFailed, "http://b.example/"), (.gateFailed, "http://c.example/")] ∧
      (∃ told,
        List.Forall₂ (fun p owed => Told c.pipeline.webhooks p.1 p.2 owed)
          ([dry, first, second].zip ran.1) told ∧ Interleaved told ended.delivered) ∧
      LedTo (Delivery.overHttp send) true ended.delivered [not, not, not] ended.outside ∧
      ∃ record entry, ended.main.audit.entries = .ok [entry] ∧ entry.record = record ∧
        ran.1[1]? = some (.ok record) := by
  intro c send dispatch dry first second turns
  have hempty : World.single.audit.Keeps [] := Audit.Store.keeps_new.1
  have hall := runTurns_mirror (c := c) (World.logs .failing) World.single hempty dispatch true
    turns
  -- What there is to evaluate is evaluated here, and the run is any run from then on.
  have hrun : ∃ ran, ran = (c.posting dispatch).runTurns turns
        ⟨.fresh ⟨World.single, true, []⟩, []⟩ ∧
      ((c.posting dispatch).flush.outcome ran.2).2.world.world.delivered.map
          (fun d => (d.event, d.webhook.url)) =
        [(.promote, "http://a.example/"), (.promote, "http://b.example/"),
          (.gateFailed, "http://b.example/"), (.gateFailed, "http://c.example/")] ∧
      ran.1.map Except.isOk = [true, true, false] ∧ ran.2.world.world.outside = false :=
    ⟨_, rfl, by decide +kernel, by decide +kernel, by decide +kernel⟩
  rcases hrun with ⟨ran, hran, hsent, hoks, hfree⟩
  rw [← hran] at hall ⊢
  rcases hall with ⟨hmirror, hhttp, hled, -, -, new, hkept, hrecords⟩
  have hdependable : Dependable dispatch fun busy => busy = false :=
    hhttp send id fun _ _ _ hbusy => hbusy
  refine ⟨hsent, hmirror _ hdependable hfree, hled send id rfl, ?_⟩
  rcases ran with ⟨_ | ⟨_ | _, _ | ⟨_ | record, _ | ⟨e | _, _ | _⟩⟩⟩, t⟩
  all_goals try cases hoks
  rcases List.map_eq_singleton_iff.mp hrecords with ⟨entry, rfl, hrecord⟩
  exact ⟨record, entry, hkept.entries_eq, hrecord, rfl⟩

end Controller

end Promotion
