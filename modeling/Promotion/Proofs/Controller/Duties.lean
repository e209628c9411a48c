import Promotion.Proofs.Audit.Query
import Promotion.Proofs.Controller.Policy

/-!
# Separated Duties

Whoever brought a tag into an environment last has not brought it on.

Before a promotion into an environment with separated duties the log is asked
for the newest promotion of the tag into the source environment. Between that
question and the new entry nothing is added, as one promotion comes after the
other. So what the answer says of the operators can be read off the log that
comes out of a run: cut in front of an entry, it is the log that was asked.

The newest is meant by the time of the record, which need not be the order of
the log. `Newest` has both, so nothing is assumed of the clock.

## Main definitions

* `Collaborators.Answers`: Questions to the log are answered by what it has.
* `Pipeline.Separates`: An entry is by somebody else than the one it follows on.

## Theorems

* `separated_of_authorize`: Whoever is let in was not the last to bring the tag.
* `Assessed.separated`: So it is with every promotion that passed its checks.
* `runAll_separates`: And with every entry of the log.
-/

namespace Promotion

variable {σ : Type}

/-- There is a log behind the requests, and a question that is answered is answered by it. -/
structure Collaborators.Answers (k : Collaborators σ) (log : σ → Audit.Store) : Prop
    extends k.Logs log where
  answered : ∀ {question w records w'}, k.audit.query question w = (.ok records, w') →
    (log w).query question = .ok records

/-- In a world questions are answered by the log that is there, or refused. -/
theorem World.answers {ε : Type} (s : Surroundings ε) :
    (collaborators s).Answers World.audit where
  toLogs := World.logs s
  answered {question w records w'} h := by
    rcases unlessRefused_cases (s.auditRefuses (.query question))
      (fun w => (w.audit.query question, w)) w with ⟨e, around, -, he⟩ | ⟨around, hok⟩
    · cases he.symm.trans h
    · exact congrArg Prod.fst (hok.symm.trans h)

/-- Where duties are separated, whoever is let in was not the last to bring the tag to its source. -/
theorem separated_of_authorize {log : Audit.Log σ} {o : Operator} {tag source : String}
    {target : Environment} {w w' : σ} (h : authorize log o tag source target w = (.ok (), w'))
    {a : Authorization} (ha : target.authorization = some a) (hduty : a.separationOfDuties = true) :
    ∃ records w₁, log.query (.latestInto tag source) w = (.ok records, w₁) ∧
      ∀ previous, records.head? = some previous → previous.operator ≠ o.name := by
  have hin := shutsOut_of_authorize h ha
  rcases hquery : log.query (.latestInto tag source) w with ⟨e | records, w₁⟩
  · have hlookup : log.latestInto tag source w = (.error e, w₁) := by
      rw [Audit.Log.latestInto, hquery]
      rfl
    cases (authorize_of_failed ha hin hduty hlookup).symm.trans h
  · have hlookup : log.latestInto tag source w = (.ok records.head?, w₁) := by
      rw [Audit.Log.latestInto, hquery]
      rfl
    refine ⟨records, w₁, rfl, fun previous hprevious hsame => ?_⟩
    have hrefused := (authorize_of_found ha hin hduty hlookup).symm.trans h
    rw [if_pos ⟨previous, hprevious, hsame⟩] at hrefused
    cases hrefused

/-- An entry is by somebody else than the newest promotion of its tag into its source environment,
    if there is one before it and its target separates duties. -/
def Pipeline.Separates (p : Pipeline) (before : List Audit.Entry) (k : Record) : Prop :=
  ∀ target ∈ p.environments, target.name = k.toEnv →
    ∀ a, target.authorization = some a → a.separationOfDuties = true →
      ∀ previous, Audit.Newest (Audit.arrivals before k.tag k.fromEnv) previous →
        previous.record.operator ≠ k.operator

namespace Controller

variable {c : Controller σ} {log : σ → Audit.Store}

/-- A promotion that passed its checks is separated from the log that it was made with. -/
theorem Assessed.separated (hvalid : c.pipeline.validate = .ok ())
    (hlog : c.collaborators.Answers log) {r : Request} {t t' : Traced (State σ)}
    {artifact : Artifact} {record : Record} {es : List Audit.Entry}
    (hes : (log t.world.world).Keeps es) (h : c.Assessed r t artifact record t') :
    c.pipeline.Separates es record := by
  intro target htarget hname a ha hduty previous hnewest
  have hlooks := hlog.looks (log t.world.world)
  cases h with
  | @passed _ found artifact _ _ _ _ t₁ t₂ t₃ _ _ _ _ hfound hresolve hgates hcheck hauth _ _ =>
      have htargetFound := Pipeline.environment?_name hvalid htarget
      rw [hname] at htargetFound
      cases hfound.symm.trans htargetFound
      -- Three checks come before the question, and none of them touches the log.
      have hresolved := hlooks.resolveTag r.tag t rfl
      rw [hresolve] at hresolved
      have hran : log ((inWorld (Gate.runAll c.collaborators.gates
          ⟨artifact, target, r.dryRun⟩)).outcome t₁).2.world.world = log t.world.world :=
        hlooks.runList _ target.gates t₁ hresolved
      rw [hgates] at hran
      have hchecked := hlooks.checkSignature artifact target t₂ hran
      rw [hcheck] at hchecked
      rcases separated_of_authorize hauth ha hduty with ⟨records, w₁, hquery, hdiffers⟩
      have hanswer := hlog.answered hquery
      rw [hchecked, hes.query_eq] at hanswer
      -- What was asked for is the head of the answer, and that is the newest.
      refine hdiffers previous.record ?_
      rw [← Except.ok.inj hanswer, Audit.apply_latestInto, hnewest.newest?_eq]
      rfl

/-- Duties are separated over the whole history. After any run of a controller that was put
    together, from an empty log: if an entry's target separates duties, and there are entries before
    it of its tag into its source environment, then just one of these is the newest, and its
    operator is not the entry's. -/
theorem runAll_separates {p : Parts σ} (hbuild : build p = .ok c)
    (hlog : c.collaborators.Answers log) (rs : List Request) {t : Traced (State σ)}
    (hempty : (log t.world.world).Keeps []) :
    ∃ es, (log (c.runAll rs t).2.world.world).entries = .ok es ∧
      ∀ before k behind, es = before ++ k :: behind →
        ∀ target ∈ c.pipeline.environments, target.name = k.record.toEnv →
          ∀ a, target.authorization = some a → a.separationOfDuties = true →
            Audit.arrivals before k.record.tag k.record.fromEnv ≠ [] →
              ∃ previous,
                (∀ e, Audit.Newest (Audit.arrivals before k.record.tag k.record.fromEnv) e ↔
                  e = previous) ∧
                previous.record.operator ≠ k.record.operator := by
  have hvalid := validate_of_build hbuild
  rcases runAll_adds hlog.toLogs (P := fun before _ record => c.pipeline.Separates before record)
    (fun hes hassessed _ _ => hassessed.separated hvalid hlog hes) rs hempty with
    ⟨es, hkept, hadded⟩
  refine ⟨es, hkept.entries_eq, ?_⟩
  rintro before k behind rfl target htarget hname a ha hduty hsome
  rcases hadded.at_cut with ⟨r, hseparates⟩
  rcases Audit.exists_newest hsome with ⟨previous, hnewest⟩
  refine ⟨previous, fun e => ⟨fun he => Audit.newest_unique he hnewest, ?_⟩, ?_⟩
  · rintro rfl
    exact hnewest
  · exact hseparates target htarget hname a ha hduty previous hnewest

end Controller

namespace World

/-- The log of a calm world, which looks for a single record without sorting all of them. -/
def calmLog : Audit.Log (World Unit) where
  append := (auditLog .calm).append
  query question w :=
    if question.limit = some 1 then
      (w.audit.entries.map fun es =>
        ((Audit.newest? (es.filter fun e => question.accepts e.record)).map
          Audit.Entry.record).toList, w)
    else (w.audit.query question, w)

theorem auditLog_calm : auditLog .calm = calmLog := by
  have hquery : calmLog.query = (auditLog .calm).query := by
    funext question w
    by_cases hone : question.limit = some 1
    · refine (if_pos hone).trans ?_
      rw [← Audit.Store.query_of_limit w.audit hone]
      rfl
    · exact if_neg hone
  calc auditLog .calm = ⟨(auditLog .calm).append, (auditLog .calm).query⟩ := rfl
    _ = calmLog := by rw [← hquery]; rfl

end World

/-- Staging, and production with separated duties. -/
def Pipeline.relay : Pipeline :=
  ⟨[.named "dev", .named "staging",
    (Environment.named "prod").withAuthorization Authorization.anyone.separateDuties], []⟩

namespace Controller

/-- Two operators bring a tag to staging one after the other, and both try to bring it on. -/
def relay : List Request :=
  [⟨"v1", "dev", "staging", .named "ann", false⟩, ⟨"v1", "dev", "staging", .named "bob", false⟩,
    ⟨"v1", "staging", "prod", .named "bob", false⟩, ⟨"v1", "staging", "prod", .named "ann", false⟩]

/-- Both come to staging, and one of them to production. -/
theorem entries_relay {es : List Audit.Entry}
    (h : ((World.controller .calm .relay "registry").runAll relay
      World.start).2.world.world.audit.entries = .ok es) :
    es.map (fun e => (e.record.operator, e.record.tag, e.record.fromEnv, e.record.toEnv)) =
      [("ann", "v1", "dev", "staging"), ("bob", "v1", "dev", "staging"),
        ("ann", "v1", "staging", "prod")] := by
  have hsame : World.controller .calm .relay "registry" =
      ⟨.relay, "registry", { World.collaborators .calm with audit := World.calmLog }⟩ := by
    rw [← World.auditLog_calm]
    rfl
  have hrun : ((World.controller .calm .relay "registry").runAll relay
      World.start).2.world.world.audit.entries.toOption.map (List.map fun e =>
        (e.record.operator, e.record.tag, e.record.fromEnv, e.record.toEnv)) =
      some [("ann", "v1", "dev", "staging"), ("bob", "v1", "dev", "staging"),
        ("ann", "v1", "staging", "prod")] := by
    rw [hsame]
    decide +kernel
  rw [h] at hrun
  exact Option.some.inj hrun

/-- Of two operators who brought a tag to staging, the first may bring it on: the newest promotion
    of it there is the second one's. -/
theorem runAll_separates_relay :
    ∃ c, build (World.parts .calm .relay "registry") = .ok c ∧
      ∃ e₁ e₂ k previous,
        (c.runAll relay World.start).2.world.world.audit.entries = .ok [e₁, e₂, k] ∧
        e₁.record.operator = k.record.operator ∧
        Audit.Newest (Audit.arrivals [e₁, e₂] "v1" "staging") previous ∧
        previous.record.operator ≠ k.record.operator := by
  have hvalid : Pipeline.relay.validate = .ok () := by decide +kernel
  have huri : Text.allBlank "registry" = false := by decide +kernel
  have hbuild := World.build_parts .calm hvalid huri
  have hempty : World.start.world.world.audit.Keeps [] := Audit.Store.keeps_new.1
  rcases runAll_separates hbuild (World.answers .calm) relay hempty with ⟨es, hentries, hall⟩
  rcases List.map_eq_cons_iff.mp (entries_relay hentries) with ⟨e₁, es, rfl, hann, hfields⟩
  rcases List.map_eq_cons_iff.mp hfields with ⟨e₂, es, rfl, -, hfields⟩
  rcases List.map_eq_cons_iff.mp hfields with ⟨k, es, rfl, hback, hfields⟩
  cases List.map_eq_nil_iff.mp hfields
  simp only [Prod.mk.injEq] at hann hback
  rcases hann with ⟨hfirst, htag, -, hinto⟩
  rcases hback with ⟨hlast, htag', hfrom, hto⟩
  have hprod : (Environment.named "prod").withAuthorization Authorization.anyone.separateDuties ∈
      Pipeline.relay.environments := by decide
  have harrived : e₁ ∈ Audit.arrivals [e₁, e₂] k.record.tag k.record.fromEnv := by
    rw [htag', hfrom]
    exact List.mem_filter.mpr ⟨List.mem_cons_self, decide_eq_true ⟨htag, hinto⟩⟩
  rcases hall [e₁, e₂] k [] rfl _ hprod hto.symm _ rfl rfl (List.ne_nil_of_mem harrived) with
    ⟨previous, hnewest, hdiffers⟩
  rw [htag', hfrom] at hnewest
  exact ⟨_, hbuild, e₁, e₂, k, previous, hentries, hfirst.trans hlast.symm,
    (hnewest previous).mpr rfl, hdiffers⟩

end Controller

end Promotion
