import Promotion.Artifact
import Promotion.Operator
import Promotion.Proofs.Audit.Entry
import Promotion.Settings

/-!
# Reading Back What Is Written

Every value that this library writes as JSON is read back from its text.

What is written ends in a log, in a webhook's request, in a settings file or in
an answer to whoever asks where a tag stands. `DataType` lists the types of
these values. Most of them are records, and a record is read back if its
members are, so there is one lemma for each type and a change to a type changes
its lemma alone.

Two types stand apart. A storage writes its kind beside what belongs to the
kind, and is refused if it nests too deep; `Audit.Storage.formatWithin_lawful`
says that what it writes itself does not. A standing holds a map, and is read
back because a map writes its entries in the order in which it keeps them.

## Main definitions

* `DataType`: The types of the values that are written.
* `DataType.Value`, `DataType.format`: The values of a type, and their format.
* `DataType.write`, `DataType.read`: A value as its compact text, and back.

## Theorems

* `Settings.format_lawful`: Settings are read back, with all that is in them.
* `DataType.format_lawful`: The values of every type are read back.
* `DataType.read_write`: So they are from their texts, and no two have one text.
-/

namespace Promotion

open Format Member

theorem Timestamp.format_neverNull : Timestamp.format.NeverNull := ofText_neverNull

theorem Operator.format_lawful : Operator.format.Lawful :=
  record_lawful
    ⟨required_lawful string_lawful, by decide,
      defaulted_lawful (list_lawful string_lawful), by decide, trivial⟩
    fun _ => rfl

theorem Artifact.format_lawful : Artifact.format.Lawful :=
  record_lawful
    ⟨required_lawful string_lawful, by decide,
      required_lawful string_lawful, by decide,
      required_lawful Digest.format_lawful, by decide, trivial⟩
    fun _ => rfl

theorem Gate.format_lawful : Gate.format.Lawful :=
  record_lawful
    ⟨required_lawful string_lawful, by decide,
      defaulted_lawful bool_lawful, by decide,
      defaulted_lawful (option_lawful uint64_lawful uint64_neverNull), by decide, trivial⟩
    fun _ => rfl

theorem Signature.Policy.format_lawful : Signature.Policy.format.Lawful :=
  record_lawful
    ⟨defaulted_lawful (option_lawful string_lawful string_neverNull), by decide,
      defaulted_lawful (option_lawful string_lawful string_neverNull), by decide,
      defaulted_lawful (option_lawful string_lawful string_neverNull), by decide,
      defaulted_lawful bool_lawful, by decide, trivial⟩
    fun _ => rfl

theorem Signature.Enforcement.format_lawful : Signature.Enforcement.format.Lawful :=
  oneOf_lawful fun e => by cases e <;> decide

theorem Signature.Rule.format_lawful : Signature.Rule.format.Lawful :=
  record_lawful
    ⟨defaulted_lawful Signature.Enforcement.format_lawful, by decide,
      defaulted_lawful Signature.Policy.format_lawful, by decide, trivial⟩
    fun _ => rfl

theorem Authorization.format_lawful : Authorization.format.Lawful :=
  record_lawful
    ⟨defaulted_lawful (list_lawful string_lawful), by decide,
      defaulted_lawful (list_lawful string_lawful), by decide,
      defaulted_lawful bool_lawful, by decide, trivial⟩
    fun _ => rfl

theorem Environment.format_lawful : Environment.format.Lawful :=
  record_lawful
    ⟨required_lawful string_lawful, by decide,
      defaulted_lawful (list_lawful Gate.format_lawful), by decide,
      -- An authorization is an object, so null can only stand for a missing one.
      defaulted_lawful (option_lawful Authorization.format_lawful record_neverNull), by decide,
      defaulted_lawful Signature.Rule.format_lawful, by decide, trivial⟩
    fun _ => rfl

theorem Webhook.Event.format_lawful : Webhook.Event.format.Lawful :=
  oneOf_lawful fun e => by cases e <;> decide

theorem Webhook.format_lawful : Webhook.format.Lawful :=
  record_lawful
    ⟨required_lawful string_lawful, by decide,
      defaulted_lawful (list_lawful Webhook.Event.format_lawful), by decide,
      defaulted_lawful uint64_lawful, by decide,
      defaulted_lawful uint32_lawful, by decide,
      defaulted_lawful (map_lawful string_lawful), by decide, trivial⟩
    fun _ => rfl

theorem Webhook.Payload.format_lawful : Webhook.Payload.format.Lawful :=
  record_lawful
    ⟨required_lawful Webhook.Event.format_lawful, by decide,
      required_lawful PromotionId.format_lawful, by decide,
      required_lawful string_lawful, by decide,
      required_lawful Digest.format_lawful, by decide,
      required_lawful string_lawful, by decide,
      required_lawful string_lawful, by decide,
      required_lawful string_lawful, by decide,
      required_lawful bool_lawful, by decide,
      required_lawful (list_lawful Gate.Result.format_lawful), by decide,
      required_lawful Timestamp.format_lawful, by decide, trivial⟩
    fun _ => rfl

theorem History.Entry.format_lawful : History.Entry.format.Lawful :=
  record_lawful
    ⟨required_lawful PromotionId.format_lawful, by decide,
      required_lawful Digest.format_lawful, by decide,
      required_lawful string_lawful, by decide,
      required_lawful string_lawful, by decide,
      required_lawful string_lawful, by decide,
      required_lawful Timestamp.format_lawful, by decide, trivial⟩
    fun _ => rfl

theorem EnvironmentStanding.format_lawful : EnvironmentStanding.format.Lawful :=
  record_lawful
    ⟨required_lawful bool_lawful, by decide,
      optional_lawful Timestamp.format_lawful Timestamp.format_neverNull, by decide,
      required_lawful bool_lawful, by decide,
      optional_lawful string_lawful string_neverNull, by decide, trivial⟩
    fun _ => rfl

theorem Standing.format_lawful : Standing.format.Lawful :=
  record_lawful
    ⟨required_lawful string_lawful, by decide,
      required_lawful Digest.format_lawful, by decide,
      required_lawful (map_lawful EnvironmentStanding.format_lawful), by decide,
      required_lawful (list_lawful History.Entry.format_lawful), by decide,
      required_lawful Timestamp.format_lawful, by decide, trivial⟩
    fun _ => rfl

theorem Pipeline.format_lawful : Pipeline.format.Lawful :=
  record_lawful
    ⟨defaulted_lawful (list_lawful Environment.format_lawful), by decide,
      defaulted_lawful (list_lawful Webhook.format_lawful), by decide, trivial⟩
    fun _ => rfl

/-- A storage is read back where one level of nesting is allowed; it writes no more. -/
theorem Audit.Storage.formatWithin_lawful {limit : Nat} (hlimit : 1 ≤ limit) :
    (Audit.Storage.formatWithin limit).Lawful := by
  intro s
  have hnesting : ((formatWithin limit).encode s).depth = 1 ∧
      ((formatWithin limit).encode s).readable = true := by
    cases s <;> exact ⟨rfl, rfl⟩
  have hpasses : (decide (((formatWithin limit).encode s).depth ≤ limit) &&
      ((formatWithin limit).encode s).readable) = true := by
    rw [hnesting.1, hnesting.2, decide_eq_true hlimit]
    rfl
  -- It passes as a whole, and then it is read by its kind.
  refine (if_pos hpasses).trans ?_
  cases s <;> rfl

theorem Audit.Storage.format_lawful : Audit.Storage.format.Lawful :=
  formatWithin_lawful (by decide)

theorem Log.Options.format_lawful : Log.Options.format.Lawful :=
  record_lawful
    ⟨defaulted_lawful string_lawful, by decide,
      defaulted_lawful bool_lawful, by decide,
      defaulted_lawful bool_lawful, by decide, trivial⟩
    fun _ => rfl

/-- Settings are read back, with all that is in them. -/
theorem Settings.format_lawful : Settings.format.Lawful :=
  record_lawful
    ⟨defaulted_lawful string_lawful, by decide,
      defaulted_lawful Pipeline.format_lawful, by decide,
      -- The storage stands one level deep in the settings, so it may nest one level less.
      defaulted_lawful (Audit.Storage.formatWithin_lawful (by decide)), by decide,
      defaulted_lawful Log.Options.format_lawful, by decide, trivial⟩
    fun _ => rfl

/-- The types of the values that are written. -/
inductive DataType where
  | promotionId
  | digest
  | operator
  | artifact
  | gateStatus
  | gateResult
  | signatureStatus
  | verdict
  | record
  | auditEntry
  | historyEntry
  | environmentStanding
  | standing
  | webhookEvent
  | webhook
  | payload
  | gate
  | authorization
  | signatureRule
  | policy
  | enforcement
  | environment
  | pipeline
  | auditStorage
  | logOptions
  | settings
  deriving DecidableEq, Repr

namespace DataType

/-- The values of a type, with their format. -/
def formatted : DataType → (α : Type) × Format α
  | promotionId => ⟨_, PromotionId.format⟩
  | digest => ⟨_, Digest.format⟩
  | operator => ⟨_, Operator.format⟩
  | artifact => ⟨_, Artifact.format⟩
  | gateStatus => ⟨_, Gate.Status.format⟩
  | gateResult => ⟨_, Gate.Result.format⟩
  | signatureStatus => ⟨_, Signature.Status.format⟩
  | verdict => ⟨_, Signature.Verdict.format⟩
  | record => ⟨_, Record.format⟩
  | auditEntry => ⟨_, Audit.Entry.format⟩
  | historyEntry => ⟨_, History.Entry.format⟩
  | environmentStanding => ⟨_, EnvironmentStanding.format⟩
  | standing => ⟨_, Standing.format⟩
  | webhookEvent => ⟨_, Webhook.Event.format⟩
  | webhook => ⟨_, Webhook.format⟩
  | payload => ⟨_, Webhook.Payload.format⟩
  | gate => ⟨_, Gate.format⟩
  | authorization => ⟨_, Authorization.format⟩
  | signatureRule => ⟨_, Signature.Rule.format⟩
  | policy => ⟨_, Signature.Policy.format⟩
  | enforcement => ⟨_, Signature.Enforcement.format⟩
  | environment => ⟨_, Environment.format⟩
  | pipeline => ⟨_, Pipeline.format⟩
  | auditStorage => ⟨_, Audit.Storage.format⟩
  | logOptions => ⟨_, Log.Options.format⟩
  | settings => ⟨_, Settings.format⟩

/-- The values of a type. -/
def Value (d : DataType) : Type := d.formatted.1

/-- The format of a type. -/
def format (d : DataType) : Format d.Value := d.formatted.2

/-- A value as its compact text. -/
def write {d : DataType} (v : d.Value) : String :=
  (d.format.encode v).compact

/-- The value of a text. -/
def read (d : DataType) (text : String) : Option d.Value :=
  (Json.read text).bind d.format.decode

/-- The values of every type are read back. -/
theorem format_lawful (d : DataType) : d.format.Lawful := by
  cases d with
  | promotionId => exact PromotionId.format_lawful
  | digest => exact Digest.format_lawful
  | operator => exact Operator.format_lawful
  | artifact => exact Artifact.format_lawful
  | gateStatus => exact Gate.Status.format_lawful
  | gateResult => exact Gate.Result.format_lawful
  | signatureStatus => exact Signature.Status.format_lawful
  | verdict => exact Signature.Verdict.format_lawful
  | record => exact Record.format_lawful
  | auditEntry => exact Audit.Entry.format_lawful
  | historyEntry => exact History.Entry.format_lawful
  | environmentStanding => exact EnvironmentStanding.format_lawful
  | standing => exact Standing.format_lawful
  | webhookEvent => exact Webhook.Event.format_lawful
  | webhook => exact Webhook.format_lawful
  | payload => exact Webhook.Payload.format_lawful
  | gate => exact Gate.format_lawful
  | authorization => exact Authorization.format_lawful
  | signatureRule => exact Signature.Rule.format_lawful
  | policy => exact Signature.Policy.format_lawful
  | enforcement => exact Signature.Enforcement.format_lawful
  | environment => exact Environment.format_lawful
  | pipeline => exact Pipeline.format_lawful
  | auditStorage => exact Audit.Storage.format_lawful
  | logOptions => exact Log.Options.format_lawful
  | settings => exact Settings.format_lawful

/-- Every value of every type is read back from its text, so no two values of a type have the same
    text. -/
theorem read_write (d : DataType) :
    (∀ v : d.Value, d.read (write v) = some v) ∧
      Function.Injective (write : d.Value → String) := by
  have hread : ∀ v : d.Value, d.read (write v) = some v := by
    intro v
    have htext : Json.read (d.format.encode v).compact = some (d.format.encode v) := by
      unfold Json.read Json.compact
      rw [String.toList_ofList]
      exact Json.readChars_print (d.format.encode v) (fun _ hblank => absurd hblank List.not_mem_nil)
    unfold read write
    rw [htext]
    exact d.format_lawful v
  refine ⟨hread, fun v w htexts => ?_⟩
  exact Option.some.inj ((hread v).symm.trans ((congrArg d.read htexts).trans (hread w)))

end DataType

end Promotion
