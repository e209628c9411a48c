import Promotion.Proofs.Audit.Order
import Promotion.Proofs.Controller.Duties

/-!
# The Rules of Access

Who may bring a tag into an environment, and how lists compare.

An operator is judged by the environment's authorization alone, as long as its
list can settle it, and the log is then not so much as asked. Only where duties
are separated the history counts, and of the history only the last promotion of
the tag into the source environment, by time and number. `Ruled` is the whole of
these rules, with one case for each way to end. A log may refuse to answer, so
all that is asked of it is that it `Tells` the history whenever it does.

A list that names nobody keeps nobody out. So a list with more names on it lets
in everybody whom the shorter one lets in, unless the shorter one is empty: the
first name on a list is the one that shuts everybody else out.

## Main definitions

* `Authorization.Excludes`: There is a list, and the operator is not on it.
* `Audit.Log.Tells`: What a log answers, it answers by some entries.
* `Audit.LastInto`: The last entry of a tag into an environment.
* `Ruled`: An operator is judged by the rules.

## Theorems

* `Audit.newest?_eq_some_iff_of_distinct`: The newest entry where numbers differ.
* `Audit.Log.Tells.found_eq`: What a log that is asked for the last promotion finds.
* `authorize_separated`: Whom the log keeps out.
* `authorize_fst_eq`: Two logs that find the same judge the same.
* `authorize_ruled`: An operator is judged by the rules and by nothing else.
* `authorize_withAuthorization`: Only the list tells two authorizations apart.
* `authorize_longer`: A longer list lets in whom a shorter one does, unless that one is empty.
-/

namespace Promotion

variable {σ : Type}

/-- Somebody is listed, but not the operator, neither by name nor by a group. -/
structure Authorization.Excludes (a : Authorization) (o : Operator) : Prop where
  restricted : a.allowedOperators ≠ [] ∨ a.allowedGroups ≠ []
  unnamed : o.name ∉ a.allowedOperators
  ungrouped : ∀ group ∈ o.groups, group ∉ a.allowedGroups

theorem Authorization.not_excludes_iff {a : Authorization} {o : Operator} :
    ¬ a.Excludes o ↔ a.shutsOut o = false := by
  rw [shutsOut_eq_false_iff]
  constructor
  · intro h
    by_contra hout
    rw [not_or, not_or, not_and_or] at hout
    exact h ⟨hout.1, hout.2.1, fun group ho ha => hout.2.2 ⟨group, ha, ho⟩⟩
  · rintro (⟨hnames, hgroups⟩ | hname | ⟨group, ha, ho⟩) h
    · exact h.restricted.elim (absurd hnames) (absurd hgroups)
    · exact h.unnamed hname
    · exact h.ungrouped group ho ha

theorem Authorization.excludes_iff {a : Authorization} {o : Operator} :
    a.Excludes o ↔ a.shutsOut o = true := by
  rw [← not_iff_not, not_excludes_iff, Bool.not_eq_true]

namespace Audit

/-- Whatever a log answers, it answers by some entries. -/
def Log.Tells (log : Log σ) (w : σ) (es : List Entry) : Prop :=
  ∀ question records w', log.query question w = (.ok records, w') → records = question.apply es

/-- An entry of a tag into an environment is later than all others. -/
def LastInto (es : List Entry) (tag environment : String) (e : Entry) : Prop :=
  (e ∈ es ∧ e.record.tag = tag ∧ e.record.toEnv = environment) ∧
    ∀ e' ∈ es, e'.record.tag = tag → e'.record.toEnv = environment → e' = e ∨ e.Later e'

/-- Where numbers differ, the newest entry is later than all others. -/
theorem newest?_eq_some_iff_of_distinct {es : List Entry} {e : Entry}
    (h : (es.map Entry.sequence).Nodup) :
    newest? es = some e ↔ e ∈ es ∧ ∀ e' ∈ es, e' = e ∨ e.Later e' := by
  have hgreatest : ∀ {e}, newest? es = some e → ∀ e' ∈ es, e' = e ∨ e.Later e' := by
    intro e hnewest e' he'
    rcases newest?_eq_some_iff.mp hnewest with ⟨before, behind, rfl, hbefore, hbehind⟩
    rw [List.map_append, List.map_cons] at h
    rcases List.mem_append.mp he' with hmem | hmem
    · exact .inr (hbefore e' hmem)
    rcases List.mem_cons.mp hmem with rfl | hmem
    · exact .inl rfl
    · -- Behind it there may be ties for all that is known, but numbers differ.
      have hnumber : e.sequence ≠ e'.sequence := fun hsame =>
        (List.nodup_cons.mp (List.nodup_append.mp h).2.1).1 (hsame ▸ List.mem_map_of_mem hmem)
      exact .inr (later_of_newerOrSame (newerOrSame_iff_not_later.mpr (hbehind e' hmem)) hnumber)
  constructor
  · exact fun hnewest => ⟨mem_of_newest? hnewest, hgreatest hnewest⟩
  · rintro ⟨hmem, hlater⟩
    cases hnewest : newest? es with
    | none =>
        rw [newest?_eq_none_iff.mp hnewest] at hmem
        cases hmem
    | some found =>
        rcases hgreatest hnewest e hmem with rfl | hfirst
        · rfl
        rcases hlater found (mem_of_newest? hnewest) with rfl | hsecond
        · rfl
        · exact absurd hsecond hfirst.asymm

theorem newest?_arrivals_iff {es : List Entry} (h : (es.map Entry.sequence).Nodup)
    {tag environment : String} {e : Entry} :
    newest? (arrivals es tag environment) = some e ↔ LastInto es tag environment e := by
  rw [arrivals, newest?_eq_some_iff_of_distinct (nodup_filter h _)]
  simp only [LastInto, List.mem_filter, decide_eq_true_eq, and_imp]

/-- Whatever a log finds when it is asked for the last promotion of a tag into an environment. -/
theorem Log.Tells.found_eq {log : Log σ} {w w' : σ} {es : List Entry} (h : log.Tells w es)
    {tag environment : String} {found : Option Record}
    (hfound : log.latestInto tag environment w = (.ok found, w')) :
    found = (newest? (arrivals es tag environment)).map Entry.record := by
  rw [Log.latestInto] at hfound
  rcases hquery : log.query (.latestInto tag environment) w with ⟨e | records, w₁⟩
  · rw [hquery] at hfound
    cases hfound
  · rw [hquery] at hfound
    cases hfound
    rw [h _ _ _ hquery, apply_latestInto, Option.head?_toList]

end Audit

/-- The log of collaborators tells what is kept in it. -/
theorem Collaborators.Answers.tells {k : Collaborators σ} {store : σ → Audit.Store}
    (h : k.Answers store) {w : σ} {es : List Audit.Entry} (hes : (store w).entries = .ok es) :
    k.audit.Tells w es := by
  intro question records w' hquery
  have hanswer := h.answered hquery
  rw [Audit.Store.query_of_entries hes] at hanswer
  exact (Except.ok.inj hanswer).symm

/-- An operator who wants to bring a tag from a source into a target environment is judged by the
    rules. -/
structure Ruled (log : Audit.Log σ) (w : σ) (es : List Audit.Entry) (o : Operator)
    (tag source : String) (target : Environment) : Prop where
  /-- Without an authorization anyone is let in, and the log is not asked. -/
  anyone : target.authorization = none → authorize log o tag source target w = (.ok (), w)
  /-- Whom a list excludes is kept out, and the log is not asked. -/
  excluded : ∀ a, target.authorization = some a → a.Excludes o →
    authorize log o tag source target w =
      (.error (.notAuthorized o.name target.name .notListed), w)
  /-- All others are let in where duties are not separated. -/
  unseparated : ∀ a, target.authorization = some a → ¬ a.Excludes o →
    a.separationOfDuties = false → authorize log o tag source target w = (.ok (), w)
  /-- Where they are, it is told if the log fails. -/
  failed : ∀ a, target.authorization = some a → ¬ a.Excludes o → a.separationOfDuties = true →
    ∀ e w', log.latestInto tag source w = (.error e, w') →
      authorize log o tag source target w = (.error (.audit e), w')
  /-- If it answers, just the operator of the last promotion into the source is kept out. -/
  separated : ∀ a, target.authorization = some a → ¬ a.Excludes o →
    a.separationOfDuties = true → ∀ found w', log.latestInto tag source w = (.ok found, w') →
      (authorize log o tag source target w =
          (.error (.notAuthorized o.name target.name (.sameDuty tag source)), w') ↔
        ∃ e, Audit.LastInto es tag source e ∧ e.record.operator = o.name) ∧
      (authorize log o tag source target w = (.ok (), w') ↔
        ¬ ∃ e, Audit.LastInto es tag source e ∧ e.record.operator = o.name)

/-- Where duties are separated and the log answers, just the operator of the last promotion into the
    source is kept out. -/
theorem authorize_separated {log : Audit.Log σ} {w w' : σ} {es : List Audit.Entry}
    (hdistinct : (es.map Audit.Entry.sequence).Nodup) (hlog : log.Tells w es) {o : Operator}
    {tag source : String} {target : Environment} {a : Authorization}
    (ha : target.authorization = some a) (hin : a.shutsOut o = false)
    (hduty : a.separationOfDuties = true) {found : Option Record}
    (hlookup : log.latestInto tag source w = (.ok found, w')) :
    (authorize log o tag source target w = (.error (denied o target (.sameDuty tag source)), w') ↔
      ∃ e, Audit.LastInto es tag source e ∧ e.record.operator = o.name) ∧
    (authorize log o tag source target w = (.ok (), w') ↔
      ¬ ∃ e, Audit.LastInto es tag source e ∧ e.record.operator = o.name) := by
  -- What the log finds is the last arrival, if there is any.
  have hsame : (∃ previous ∈ found, previous.operator = o.name) ↔
      ∃ e, Audit.LastInto es tag source e ∧ e.record.operator = o.name := by
    simp only [hlog.found_eq hlookup, Option.mem_def, Option.map_eq_some_iff,
      Audit.newest?_arrivals_iff hdistinct, exists_exists_and_eq_and]
  rw [authorize_of_found ha hin hduty hlookup, ← hsame]
  by_cases hlast : ∃ previous ∈ found, previous.operator = o.name
  · rw [if_pos hlast]
    exact ⟨⟨fun _ => hlast, fun _ => rfl⟩, ⟨nofun, fun hnot => absurd hlast hnot⟩⟩
  · rw [if_neg hlast]
    exact ⟨⟨nofun, fun h => absurd h hlast⟩, ⟨fun _ => hlast, fun _ => rfl⟩⟩

/-- Two logs that find the same judge the same. -/
theorem authorize_fst_eq {τ : Type} {log : Audit.Log σ} {log' : Audit.Log τ} {w w₁ : σ} {v v₁ : τ}
    {tag source : String} {found : Option Record}
    (h : log.latestInto tag source w = (.ok found, w₁))
    (h' : log'.latestInto tag source v = (.ok found, v₁)) (o : Operator) (target : Environment) :
    (authorize log' o tag source target v).1 = (authorize log o tag source target w).1 := by
  cases ha : target.authorization with
  | none => rw [authorize_of_none ha, authorize_of_none ha]
  | some a =>
      cases hout : a.shutsOut o with
      | true => rw [authorize_of_shutsOut ha hout, authorize_of_shutsOut ha hout]
      | false =>
          cases hduty : a.separationOfDuties with
          | false =>
              rw [authorize_of_unseparated ha hout hduty, authorize_of_unseparated ha hout hduty]
          | true => rw [authorize_of_found ha hout hduty h, authorize_of_found ha hout hduty h']

/-- An operator is judged by the rules and by nothing else, by any log that tells some history in
    which all numbers are different. Entries of other tags or into other environments do not count:
    wherever else a log finds the same entries of the tag into the source, the judgement is the
    same. -/
theorem authorize_ruled {log : Audit.Log σ} {w : σ} {es : List Audit.Entry}
    (hdistinct : (es.map Audit.Entry.sequence).Nodup) (hlog : log.Tells w es) (o : Operator)
    (tag source : String) (target : Environment) :
    Ruled log w es o tag source target ∧
    ∀ {τ : Type} (log' : Audit.Log τ) (v : τ) (es' : List Audit.Entry), log'.Tells v es' →
      Audit.arrivals es' tag source = Audit.arrivals es tag source →
      (∃ found w₁, log.latestInto tag source w = (.ok found, w₁)) →
      (∃ found v₁, log'.latestInto tag source v = (.ok found, v₁)) →
      (authorize log' o tag source target v).1 = (authorize log o tag source target w).1 := by
  constructor
  · constructor
    case anyone => exact authorize_of_none
    case excluded =>
      intro a ha hout
      exact authorize_of_shutsOut ha (Authorization.excludes_iff.mp hout)
    case unseparated =>
      intro a ha hin hduty
      exact authorize_of_unseparated ha (Authorization.not_excludes_iff.mp hin) hduty
    case failed =>
      intro a ha hin hduty e w₁ hlookup
      exact authorize_of_failed ha (Authorization.not_excludes_iff.mp hin) hduty hlookup
    case separated =>
      intro a ha hin hduty found w₁ hlookup
      exact authorize_separated hdistinct hlog ha (Authorization.not_excludes_iff.mp hin) hduty
        hlookup
  · rintro τ log' v es' hlog' hsame ⟨found, w₁, hlookup⟩ ⟨found', v₁, hlookup'⟩
    -- Both logs find the same promotion, and nothing else of them is looked at.
    have hfound : found' = found := by
      rw [hlog.found_eq hlookup, hlog'.found_eq hlookup', hsame]
    rw [hfound] at hlookup'
    exact authorize_fst_eq hlookup hlookup' o target

/-- A log of two promotions of a tag to staging. The clock went back between them. -/
def Audit.handedOn : List Audit.Entry :=
  let record : Record := { (default : Record) with tag := "v1", toEnv := "staging" }
  let first := Entry.ofRecord
    { record with operator := "ann", timestamp := ⟨1970, 1, 1, 1, 0, 0, 0, by decide⟩ } 0 none .epoch
  [first, Entry.ofRecord { record with operator := "bob" } 1 (some first.hash) .epoch]

/-- A world with this log. -/
def World.handedOn : World Unit :=
  { World.single with audit := .memory ⟨Audit.handedOn, .ofEntries Audit.handedOn⟩ }

/-- An environment with an authorization that separates duties. -/
def Environment.separated (a : Authorization) : Environment :=
  (Environment.named "prod").withAuthorization a.separateDuties

/-- The last of the two by their times is the first, so its operator may not go on and the other
    may. -/
theorem authorize_ruled_handedOn :
    let log := World.auditLog .calm
    let target := Environment.separated .anyone
    authorize log (.named "ann") "v1" "staging" target World.handedOn =
        (.error (.notAuthorized "ann" "prod" (.sameDuty "v1" "staging")), World.handedOn) ∧
      authorize log (.named "bob") "v1" "staging" target World.handedOn =
        (.ok (), World.handedOn) := by
  intro log target
  have hdistinct : (Audit.handedOn.map Audit.Entry.sequence).Nodup := by decide
  have htells : log.Tells World.handedOn Audit.handedOn := (World.answers .calm).tells rfl
  have hlast : ∀ name, (∃ e, Audit.LastInto Audit.handedOn "v1" "staging" e ∧
      e.record.operator = name) ↔ "ann" = name := by
    intro name
    simp only [← Audit.newest?_arrivals_iff hdistinct]
    have hnewest : (Audit.newest? (Audit.arrivals Audit.handedOn "v1" "staging")).map
        (fun e => e.record.operator) = some "ann" := by decide
    rw [← Option.some_inj, ← hnewest, Option.map_eq_some_iff]
  have hopen : ∀ o, ¬ Authorization.anyone.separateDuties.Excludes o := fun o h =>
    h.restricted.elim (absurd rfl) (absurd rfl)
  have hruled := fun name =>
    ((authorize_ruled hdistinct htells (.named name) "v1" "staging" target).1.separated _ rfl
      (hopen _) rfl _ _ rfl)
  refine ⟨(hruled "ann").1.mpr ((hlast _).mpr rfl), (hruled "bob").2.mpr fun h => ?_⟩
  exact absurd ((hlast _).mp h) (by decide)

/-- Only the list tells two authorizations apart, if both separate duties or neither does. -/
theorem authorize_withAuthorization {log : Audit.Log σ} {o : Operator} {tag source : String}
    {target : Environment} {w : σ} {a b : Authorization} (ha : a.shutsOut o = false)
    (hb : b.shutsOut o = false) (hduties : a.separationOfDuties = b.separationOfDuties) :
    authorize log o tag source (target.withAuthorization a) w =
      authorize log o tag source (target.withAuthorization b) w := by
  cases hduty : a.separationOfDuties with
  | false =>
      rw [authorize_of_unseparated rfl ha hduty,
        authorize_of_unseparated rfl hb (hduties.symm.trans hduty)]
  | true =>
      have hduty' := hduties.symm.trans hduty
      rcases hlookup : log.latestInto tag source w with ⟨e | found, w'⟩
      · rw [authorize_of_failed rfl ha hduty hlookup, authorize_of_failed rfl hb hduty' hlookup]
      · rw [authorize_of_found rfl ha hduty hlookup, authorize_of_found rfl hb hduty' hlookup]
        rfl

/-- A longer list shuts out whom a shorter one does not only if the shorter one is empty. -/
theorem Authorization.Excludes.of_longer {a b : Authorization} {o : Operator}
    (hnames : ∀ name ∈ a.allowedOperators, name ∈ b.allowedOperators)
    (hgroups : ∀ group ∈ a.allowedGroups, group ∈ b.allowedGroups) (h : b.Excludes o)
    (ha : ¬ a.Excludes o) : a.allowedOperators = [] ∧ a.allowedGroups = [] := by
  by_contra hsome
  exact ha {
    restricted := not_and_or.mp hsome
    unnamed := fun hname => h.unnamed (hnames _ hname)
    ungrouped := fun group ho hgroup => h.ungrouped group ho (hgroups group hgroup) }

/-- A longer list lets in whom a shorter one does, unless the shorter one is empty. Of two
    authorizations that separate duties or not alike, let the second list everybody whom the first
    lists. Then whoever is let in under the first is let in under the second, except if the first
    lists nobody and the second lists somebody else. And whoever is let in under an authorization
    that lists anybody is listed there. -/
theorem authorize_longer (log : Audit.Log σ) (o : Operator) (tag source : String)
    (target : Environment) {w w' : σ} {a b : Authorization}
    (hduties : a.separationOfDuties = b.separationOfDuties)
    (hnames : ∀ name ∈ a.allowedOperators, name ∈ b.allowedOperators)
    (hgroups : ∀ group ∈ a.allowedGroups, group ∈ b.allowedGroups)
    (h : authorize log o tag source (target.withAuthorization a) w = (.ok (), w')) :
    (authorize log o tag source (target.withAuthorization b) w = (.ok (), w') ↔
      ¬ (a.allowedOperators = [] ∧ a.allowedGroups = [] ∧ b.Excludes o)) ∧
    (a.allowedOperators ≠ [] ∨ a.allowedGroups ≠ [] →
      o.name ∈ a.allowedOperators ∨ ∃ group ∈ a.allowedGroups, group ∈ o.groups) := by
  have ha : a.shutsOut o = false := shutsOut_of_authorize h rfl
  constructor
  · constructor
    · rintro hb ⟨-, -, hout⟩
      exact Authorization.not_excludes_iff.mpr (shutsOut_of_authorize hb rfl) hout
    · intro hsome
      -- Being shut out by the longer list alone takes a shorter one without names.
      have hb : ¬ b.Excludes o := fun hout =>
        have hempty := hout.of_longer hnames hgroups (Authorization.not_excludes_iff.mpr ha)
        hsome ⟨hempty.1, hempty.2, hout⟩
      rw [← authorize_withAuthorization ha (Authorization.not_excludes_iff.mp hb) hduties]
      exact h
  · intro hsome
    rcases Authorization.shutsOut_eq_false_iff.mp ha with hempty | hlisted
    · exact absurd hempty (not_and_or.mpr hsome)
    · exact hlisted

/-- Such a list: an operator who is listed by name is let in when a group is listed too. -/
theorem authorize_longer_byName :
    let shorter := (Authorization.anyone.allowOperator "bob").separateDuties
    let longer := (shorter.allowGroup "release")
    let log := World.auditLog .calm
    let target := Environment.named "prod"
    authorize log (.named "bob") "v1" "staging" (target.withAuthorization shorter) World.handedOn =
        (.ok (), World.handedOn) ∧
      authorize log (.named "bob") "v1" "staging" (target.withAuthorization longer)
        World.handedOn = (.ok (), World.handedOn) := by
  intro shorter longer log target
  have htells : log.Tells World.handedOn Audit.handedOn := (World.answers .calm).tells rfl
  have hshorter : authorize log (.named "bob") "v1" "staging" (target.withAuthorization shorter)
      World.handedOn = (.ok (), World.handedOn) := by
    refine (authorize_separated (by decide) htells rfl (by decide) rfl rfl).2.mpr ?_
    rintro ⟨e, hlast, hbob⟩
    have hnewest := (Audit.newest?_arrivals_iff (by decide)).mpr hlast
    have hann : (Audit.newest? (Audit.arrivals Audit.handedOn "v1" "staging")).map
        (fun e => e.record.operator) = some "ann" := by decide
    rw [hnewest, Option.map_some, hbob] at hann
    exact absurd (Option.some.inj hann) (by decide)
  refine ⟨hshorter, ?_⟩
  exact (authorize_longer log (.named "bob") "v1" "staging" target (b := longer) rfl
    (fun _ => id) (fun _ => List.mem_append_left _) hshorter).1.mpr fun h => absurd h.1 (by decide)

/-- The empty list is shorter than any other, and lets in everybody. With one name on it, it shuts
    out everybody else. -/
theorem authorize_longer_emptied :
    let nobody := Authorization.anyone
    let one := nobody.allowOperator "ann"
    let log := World.auditLog .calm
    let target := Environment.named "prod"
    nobody.separationOfDuties = one.separationOfDuties ∧
      (∀ name ∈ nobody.allowedOperators, name ∈ one.allowedOperators) ∧
      (∀ group ∈ nobody.allowedGroups, group ∈ one.allowedGroups) ∧
      authorize log (.named "bob") "v1" "staging" (target.withAuthorization nobody)
        World.single = (.ok (), World.single) ∧
      authorize log (.named "bob") "v1" "staging" (target.withAuthorization one)
        World.single = (.error (.notAuthorized "bob" "prod" .notListed), World.single) := by
  refine ⟨rfl, nofun, nofun, ?_, ?_⟩
  · exact authorize_of_unseparated rfl (by decide) rfl
  · exact authorize_of_shutsOut rfl (by decide)

end Promotion
