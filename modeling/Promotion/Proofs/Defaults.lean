import Promotion.Proofs.DataModel
import Promotion.Proofs.Format.Shape

/-!
# Defaults

Whoever writes a text need not write what would be there anyway.

`DataType.shape` says what each type of value is made of, record by record as the
types list their members, and `Format.Shape.decode_without` does the rest: any
members that have their defaults may be left out, at any depth, and the text
means what it meant. The members of all types go through one proof, so that a
default that is changed in a type's list is changed here with it.

What a constructor takes has no default, and the rest has the one that the
constructor gives it; so a text that gives no more is read as what is
constructed. A section that is left out of the settings is the section that
nothing is set in.

## Main definitions

* `DataType.shape`: What the values of a type are made of.

## Theorems

* `Settings.eq_default_of_missing`: A section that is missing is the default one.
* `DataType.read_without`: Leaving defaults out changes nothing.
-/

namespace Promotion

open Format

def Operator.shape : Shape Operator.format :=
  .record
    (.required (.leaf string_lawful) <|
      .defaulted (.list (.leaf string_lawful)) .nil)
    (by decide) fun _ => rfl

def Artifact.shape : Shape Artifact.format :=
  .record
    (.required (.leaf string_lawful) <|
      .required (.leaf string_lawful) <|
      .required (.leaf Digest.format_lawful) .nil)
    (by decide) fun _ => rfl

def Gate.shape : Shape Gate.format :=
  .record
    (.required (.leaf string_lawful) <|
      .defaulted (.leaf bool_lawful) <|
      .defaulted (.option (.leaf uint64_lawful) uint64_neverNull) .nil)
    (by decide) fun _ => rfl

def Gate.Result.shape : Shape Gate.Result.format :=
  .record
    (.required (.leaf string_lawful) <|
      .required (.leaf Gate.Status.format_lawful) <|
      .required (.leaf uint64_lawful) <|
      .whenPresent (.leaf string_lawful) string_neverNull <|
      .defaulted (.leaf bool_lawful) .nil)
    (by decide) fun _ => rfl

def Signature.Verdict.shape : Shape Signature.Verdict.format :=
  .record
    (.required (.leaf Signature.Status.format_lawful) <|
      .defaulted (.option (.leaf string_lawful) string_neverNull) <|
      .defaulted (.option (.leaf string_lawful) string_neverNull) <|
      .defaulted (.leaf bool_lawful) <|
      .defaulted (.option (.leaf string_lawful) string_neverNull) <|
      .required (.leaf Timestamp.format_lawful) .nil)
    (by decide) fun _ => rfl

def Record.shape : Shape Record.format :=
  .record
    (.required (.leaf PromotionId.format_lawful) <|
      .required (.leaf string_lawful) <|
      .required (.leaf Digest.format_lawful) <|
      .required (.leaf string_lawful) <|
      .required (.leaf string_lawful) <|
      .required (.leaf string_lawful) <|
      .required (.leaf bool_lawful) <|
      .required (.list Gate.Result.shape) <|
      .required (.leaf bool_lawful) <|
      .required Signature.Verdict.shape <|
      .required (.leaf Timestamp.format_lawful) .nil)
    (by decide) fun _ => rfl

def Audit.Entry.shape : Shape Audit.Entry.format :=
  .record
    (.required (.leaf uint64_lawful) <|
      .required (.leaf Timestamp.format_lawful) <|
      .required Record.shape <|
      .optional (.leaf string_lawful) string_neverNull <|
      .required (.leaf string_lawful) .nil)
    (by decide) fun _ => rfl

def Webhook.Payload.shape : Shape Webhook.Payload.format :=
  .record
    (.required (.leaf Webhook.Event.format_lawful) <|
      .required (.leaf PromotionId.format_lawful) <|
      .required (.leaf string_lawful) <|
      .required (.leaf Digest.format_lawful) <|
      .required (.leaf string_lawful) <|
      .required (.leaf string_lawful) <|
      .required (.leaf string_lawful) <|
      .required (.leaf bool_lawful) <|
      .required (.list Gate.Result.shape) <|
      .required (.leaf Timestamp.format_lawful) .nil)
    (by decide) fun _ => rfl

def EnvironmentStanding.shape : Shape EnvironmentStanding.format :=
  .record
    (.required (.leaf bool_lawful) <|
      .optional (.leaf Timestamp.format_lawful) Timestamp.format_neverNull <|
      .required (.leaf bool_lawful) <|
      .optional (.leaf string_lawful) string_neverNull .nil)
    (by decide) fun _ => rfl

def History.Entry.shape : Shape History.Entry.format :=
  .record
    (.required (.leaf PromotionId.format_lawful) <|
      .required (.leaf Digest.format_lawful) <|
      .required (.leaf string_lawful) <|
      .required (.leaf string_lawful) <|
      .required (.leaf string_lawful) <|
      .required (.leaf Timestamp.format_lawful) .nil)
    (by decide) fun _ => rfl

def Standing.shape : Shape Standing.format :=
  .record
    (.required (.leaf string_lawful) <|
      .required (.leaf Digest.format_lawful) <|
      .required (.map EnvironmentStanding.shape) <|
      .required (.list History.Entry.shape) <|
      .required (.leaf Timestamp.format_lawful) .nil)
    (by decide) fun _ => rfl

def Signature.Policy.shape : Shape Signature.Policy.format :=
  .record
    (.defaulted (.option (.leaf string_lawful) string_neverNull) <|
      .defaulted (.option (.leaf string_lawful) string_neverNull) <|
      .defaulted (.option (.leaf string_lawful) string_neverNull) <|
      .defaulted (.leaf bool_lawful) .nil)
    (by decide) fun _ => rfl

def Signature.Rule.shape : Shape Signature.Rule.format :=
  .record
    (.defaulted (.leaf Signature.Enforcement.format_lawful) <|
      .defaulted Signature.Policy.shape .nil)
    (by decide) fun _ => rfl

def Authorization.shape : Shape Authorization.format :=
  .record
    (.defaulted (.list (.leaf string_lawful)) <|
      .defaulted (.list (.leaf string_lawful)) <|
      .defaulted (.leaf bool_lawful) .nil)
    (by decide) fun _ => rfl

def Environment.shape : Shape Environment.format :=
  .record
    (.required (.leaf string_lawful) <|
      .defaulted (.list Gate.shape) <|
      .defaulted (.option Authorization.shape record_neverNull) <|
      .defaulted Signature.Rule.shape .nil)
    (by decide) fun _ => rfl

def Webhook.shape : Shape Webhook.format :=
  .record
    (.required (.leaf string_lawful) <|
      .defaulted (.list (.leaf Webhook.Event.format_lawful)) <|
      .defaulted (.leaf uint64_lawful) <|
      .defaulted (.leaf uint32_lawful) <|
      .defaulted (.map (.leaf string_lawful)) .nil)
    (by decide) fun _ => rfl

def Pipeline.shape : Shape Pipeline.format :=
  .record
    (.defaulted (.list Environment.shape) <|
      .defaulted (.list Webhook.shape) .nil)
    (by decide) fun _ => rfl

def Log.Options.shape : Shape Log.Options.format :=
  .record
    (.defaulted (.leaf string_lawful) <|
      .defaulted (.leaf bool_lawful) <|
      .defaulted (.leaf bool_lawful) .nil)
    (by decide) fun _ => rfl

def Settings.shape : Shape Settings.format :=
  .record
    (.defaulted (.leaf string_lawful) <|
      .defaulted Pipeline.shape <|
      -- A storage has a kind and what belongs to it, and none of that has a default.
      .defaulted (.leaf (Audit.Storage.formatWithin_lawful (by decide))) <|
      .defaulted Log.Options.shape .nil)
    (by decide) fun _ => rfl

/-- What the values of a type are made of. -/
def DataType.shape : (d : DataType) → Shape d.format
  | promotionId => .leaf PromotionId.format_lawful
  | digest => .leaf Digest.format_lawful
  | operator => Operator.shape
  | artifact => Artifact.shape
  | gateStatus => .leaf Gate.Status.format_lawful
  | gateResult => Gate.Result.shape
  | signatureStatus => .leaf Signature.Status.format_lawful
  | verdict => Signature.Verdict.shape
  | record => Record.shape
  | auditEntry => Audit.Entry.shape
  | historyEntry => History.Entry.shape
  | environmentStanding => EnvironmentStanding.shape
  | standing => Standing.shape
  | webhookEvent => .leaf Webhook.Event.format_lawful
  | webhook => Webhook.shape
  | payload => Webhook.Payload.shape
  | gate => Gate.shape
  | authorization => Authorization.shape
  | signatureRule => Signature.Rule.shape
  | policy => Signature.Policy.shape
  | enforcement => .leaf Signature.Enforcement.format_lawful
  | environment => Environment.shape
  | pipeline => Pipeline.shape
  | auditStorage => .leaf Audit.Storage.format_lawful
  | logOptions => Log.Options.shape
  | settings => Settings.shape

/-- A member that a default stands for has it where it is missing. -/
theorem Member.eq_of_missing {γ : Type} {key : String} {f : Format γ} {value v : γ}
    {es : List (String × Json)} (hmissing : Json.Missing key es)
    (h : (defaulted key f value).ofObject es = some v) : v = value := by
  have habsent : (defaulted key f value).ofObject es = some value := ofObject_of_missing hmissing
  exact Option.some.inj (h.symm.trans habsent)

/-- A section that is missing from settings is the default one. -/
theorem Settings.eq_default_of_missing {es : List (String × Json)} {s : Settings}
    (h : Settings.format.decode (.object es) = some s) :
    (Json.Missing "registry" es → s.registry = "") ∧
    (Json.Missing "promotion" es → s.pipeline = .empty) ∧
    (Json.Missing "audit" es → s.audit = .memory) ∧
    (Json.Missing "logging" es → s.logging = .default) := by
  have hexact : Settings.members.Exact mk := by
    simp only [Settings.members, Members.Exact, Members.Keeps, implies_true, and_self]
  rcases Members.reads_of_ofObject hexact h with ⟨hregistry, hpipeline, haudit, hlogging, -⟩
  exact ⟨fun hm => Member.eq_of_missing hm hregistry, fun hm => Member.eq_of_missing hm hpipeline,
    fun hm => Member.eq_of_missing hm haudit, fun hm => Member.eq_of_missing hm hlogging⟩

/-- So is one that is missing from an environment. -/
theorem Environment.eq_default_of_missing {es : List (String × Json)} {e : Environment}
    (h : Environment.format.decode (.object es) = some e) :
    (Json.Missing "gates" es → e.gates = []) ∧
    (Json.Missing "authorization" es → e.authorization = none) ∧
    (Json.Missing "signature" es → e.signature = .default) := by
  have hexact : Environment.members.Exact mk := by
    simp only [Environment.members, Members.Exact, Members.Keeps, implies_true, and_self]
  rcases Members.reads_of_ofObject hexact h with ⟨-, hgates, hauthorization, hsignature, -⟩
  exact ⟨fun hm => Member.eq_of_missing hm hgates,
    fun hm => Member.eq_of_missing hm hauthorization,
    fun hm => Member.eq_of_missing hm hsignature⟩

/-- And one that is missing from the demands on signatures. -/
theorem Signature.Rule.eq_default_of_missing {es : List (String × Json)} {r : Signature.Rule}
    (h : Signature.Rule.format.decode (.object es) = some r) :
    (Json.Missing "enforcement" es → r.enforcement = .warn) ∧
    (Json.Missing "policy" es → r.policy = .default) := by
  have hexact : Signature.Rule.members.Exact mk := by
    simp only [Signature.Rule.members, Members.Exact, Members.Keeps, implies_true, and_self]
  rcases Members.reads_of_ofObject hexact h with ⟨henforcement, hpolicy, -⟩
  exact ⟨fun hm => Member.eq_of_missing hm henforcement, fun hm => Member.eq_of_missing hm hpolicy⟩

namespace DataType

theorem read_of_read {d : DataType} {text : String} {j : Json} (htext : Json.read text = some j) :
    d.read text = d.format.decode j := by
  rw [read, htext, Option.bind_some]

/-- Leaving defaults out changes nothing. Any members that have their defaults may go from a
    value's text, at any depth, and it is read as the value. A text with no more than a name or an
    address is read as what is constructed from that, a section that is missing from a text is the
    default one, and so is everything in a text of nothing. -/
theorem read_without :
    (∀ (d : DataType) (v : d.Value) (chosen : Json.Place → Bool),
      (∀ p, chosen p = true → d.shape.AtDefault v p) →
        d.read ((d.format.encode v).without chosen).compact = some v) ∧
    (∀ s : String,
      read .environment (Json.object [("name", .string s)]).compact = some (Environment.named s) ∧
      read .gate (Json.object [("name", .string s)]).compact = some (Gate.mandatory s) ∧
      read .operator (Json.object [("name", .string s)]).compact = some (Operator.named s) ∧
      read .webhook (Json.object [("url", .string s)]).compact = some (Webhook.ofUrl s)) ∧
    (∀ text es, Json.read text = some (.object es) →
      (∀ s : Settings, read .settings text = some s →
        (Json.Missing "registry" es → s.registry = "") ∧
        (Json.Missing "promotion" es → s.pipeline = .empty) ∧
        (Json.Missing "audit" es → s.audit = .memory) ∧
        (Json.Missing "logging" es → s.logging = .default)) ∧
      (∀ e : Environment, read .environment text = some e →
        (Json.Missing "gates" es → e.gates = []) ∧
        (Json.Missing "authorization" es → e.authorization = none) ∧
        (Json.Missing "signature" es → e.signature = .default)) ∧
      (∀ r : Signature.Rule, read .signatureRule text = some r →
        (Json.Missing "enforcement" es → r.enforcement = .warn) ∧
        (Json.Missing "policy" es → r.policy = .default))) ∧
    (∀ text, Json.read text = some (.object []) →
      read .settings text = some Settings.default ∧
      read .pipeline text = some Pipeline.empty ∧
      read .logOptions text = some Log.Options.default ∧
      read .authorization text = some Authorization.anyone ∧
      read .signatureRule text = some Signature.Rule.default ∧
      read .policy text = some Signature.Policy.default) := by
  refine ⟨fun d v chosen h => ?_, fun s => ?_, fun text es htext => ?_, fun text htext => ?_⟩
  · rw [read_of_read (Json.read_compact _)]
    exact d.shape.decode_without v h
  · simp only [read_of_read (Json.read_compact _)]
    exact ⟨rfl, rfl, rfl, rfl⟩
  · simp only [read_of_read htext]
    exact ⟨fun _ => Settings.eq_default_of_missing, fun _ => Environment.eq_default_of_missing,
      fun _ => Signature.Rule.eq_default_of_missing⟩
  · simp only [read_of_read htext]
    exact ⟨rfl, rfl, rfl, rfl, rfl, rfl⟩

/-- An environment most of whose members have their defaults. -/
def production : Environment :=
  ⟨"production", [.mandatory "tests", .advisory "scan"],
    some (Authorization.anyone.allowOperator "ada"), .default⟩

/-- Places at which it has them, on three levels. -/
def spared : List Json.Place :=
  [[.member "gates", .element 0, .member "required"],
    [.member "authorization", .member "separation_of_duties"], [.member "signature"]]

/-- What is left of the environment's text without them. -/
def sparing : Json :=
  .object [("name", .string "production"),
    ("gates", .array [.object [("name", .string "tests"), ("timeout_seconds", .null)],
      .object [("name", .string "scan"), ("required", .bool false), ("timeout_seconds", .null)]]),
    ("authorization", .object [("allowed_groups", .array []),
      ("allowed_operators", .array [.string "ada"])])]

set_option maxRecDepth 4000 in
theorem without_spared :
    (Environment.format.encode production).without (fun p => decide (p ∈ spared)) = sparing := rfl

/-- The environment is read from the shorter text, settings of nothing are the default ones, and
    settings that name a registry and nothing else have the default pipeline. -/
theorem read_without_production :
    (∀ p, decide (p ∈ spared) = true → environment.shape.AtDefault production p) ∧
      read .environment sparing.compact = some production ∧
      read .settings (Json.object []).compact = some Settings.default ∧
      ∃ (es : List (String × Json)) (s : Settings),
        read .settings (Json.object es).compact = some s ∧ s.registry = "registry.example/app" ∧
        Json.Missing "promotion" es ∧ s.pipeline = .empty := by
  have hdefaults : ∀ p, decide (p ∈ spared) = true → environment.shape.AtDefault production p := by
    intro p hp
    have hp := of_decide_eq_true hp
    simp only [spared, List.mem_cons, List.not_mem_nil, or_false] at hp
    -- A member is passed by with `inr` and met with `inl`, on the way to each place.
    rcases hp with rfl | rfl | rfl
    · exact ⟨_, _, rfl, .inr (.inl ⟨rfl, .inr ⟨0, _, .mandatory "tests", rfl, rfl, _, _, rfl,
        .inr (.inl ⟨rfl, .inl ⟨rfl, rfl⟩⟩)⟩⟩)⟩
    · exact ⟨_, _, rfl, .inr (.inr (.inl ⟨rfl, .inr ⟨_, rfl, _, _, rfl,
        .inr (.inr (.inl ⟨rfl, .inl ⟨rfl, rfl⟩⟩))⟩⟩))⟩
    · exact ⟨_, _, rfl, .inr (.inr (.inr (.inl ⟨rfl, .inl ⟨rfl, rfl⟩⟩)))⟩
  have hread : read .environment sparing.compact = some production :=
    without_spared ▸ read_without.1 environment production _ hdefaults
  have hnothing := (read_without.2.2.2 _ (Json.read_compact (.object []))).1
  have hmissing : Json.Missing "promotion" [("registry", .string "registry.example/app")] := by
    simp [Json.Missing]
  have hsettings : read .settings
      (Json.object [("registry", .string "registry.example/app")]).compact =
        some { Settings.default with registry := "registry.example/app" } :=
    read_of_read (Json.read_compact _)
  have hsections := (read_without.2.2.1 _ _ (Json.read_compact _)).1 _ hsettings
  exact ⟨hdefaults, hread, hnothing, _, _, hsettings, rfl, hmissing, hsections.2.1 hmissing⟩

end DataType

end Promotion
