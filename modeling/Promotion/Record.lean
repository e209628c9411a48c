import Promotion.Digest
import Promotion.Gate
import Promotion.PromotionId
import Promotion.Signature
import Promotion.Webhook

/-!
# Records

What is kept of a promotion, and the shorter forms in which it is shown.

## Main definitions

* `Record`: Everything about one attempt at a promotion.
* `Record.blockingFailures`: The gates that keep it from happening.
* `History.Entry`: A record as a tag's history shows it.
* `Standing`: Where a tag stands in every environment.
* `Webhook.Payload`: A record as a webhook is told of it.
-/

namespace Promotion

/-- Everything about one attempt at a promotion. -/
structure Record where
  id : PromotionId
  tag : String
  digest : Digest
  fromEnv : String
  toEnv : String
  /-- The operator's name. -/
  operator : String
  dryRun : Bool
  /-- One result per gate, in the order of the configuration. -/
  gateResults : List Gate.Result
  /-- The signature was found valid. -/
  signatureVerified : Bool
  verification : Signature.Verdict
  timestamp : Timestamp
  deriving DecidableEq, Inhabited

namespace Record

/-- The results of the gates that keep the promotion from happening. -/
def blockingFailures (r : Record) : List Gate.Result :=
  r.gateResults.filter Gate.Result.blocks

/-- Some gate keeps the promotion from happening. -/
def isBlocked (r : Record) : Bool :=
  r.gateResults.any Gate.Result.blocks

/-- The members of a record. -/
def members : Members Record
    (PromotionId → String → Digest → String → String → String → Bool → List Gate.Result →
      Bool → Signature.Verdict → Timestamp → Record) :=
  .cons (.required "promotion_id" PromotionId.format) id <|
  .cons (.required "tag" .string) tag <|
  .cons (.required "digest" Digest.format) digest <|
  .cons (.required "from_env" .string) fromEnv <|
  .cons (.required "to_env" .string) toEnv <|
  .cons (.required "operator" .string) operator <|
  .cons (.required "dry_run" .bool) dryRun <|
  .cons (.required "gate_results" (.list Gate.Result.format)) gateResults <|
  .cons (.required "signature_verified" .bool) signatureVerified <|
  .cons (.required "verification" Signature.Verdict.format) verification <|
  .cons (.required "timestamp" Timestamp.format) timestamp .nil

/-- The format of a record. -/
def format : Format Record := .record mk members

end Record

namespace History

/-- A record as a tag's history shows it. -/
structure Entry where
  id : PromotionId
  digest : Digest
  source : String
  target : String
  operator : String
  promotedAt : Timestamp
  deriving DecidableEq, Inhabited

namespace Entry

/-- The entry of a record. -/
def ofRecord (r : Record) : Entry :=
  ⟨r.id, r.digest, r.fromEnv, r.toEnv, r.operator, r.timestamp⟩

/-- The members of an entry. -/
def members : Members Entry
    (PromotionId → Digest → String → String → String → Timestamp → Entry) :=
  .cons (.required "promotionId" PromotionId.format) id <|
  .cons (.required "artifactDigest" Digest.format) digest <|
  .cons (.required "sourceEnvironment" .string) source <|
  .cons (.required "targetEnvironment" .string) target <|
  .cons (.required "operator" .string) operator <|
  .cons (.required "promotedAt" Timestamp.format) promotedAt .nil

/-- The format of an entry. -/
def format : Format Entry := .record mk members

end Entry

end History

/-- How a tag stands in one environment. -/
structure EnvironmentStanding where
  /-- The tag's digest was promoted into the environment. -/
  promoted : Bool
  promotedAt : Option Timestamp
  /-- The environment's pointer to its latest artifact has the tag's digest. -/
  isLatest : Bool
  operator : Option String
  deriving DecidableEq, Inhabited

namespace EnvironmentStanding

/-- The members of a standing. -/
def members : Members EnvironmentStanding
    (Bool → Option Timestamp → Bool → Option String → EnvironmentStanding) :=
  .cons (.required "promoted" .bool) promoted <|
  .cons (.optional "promotedAt" Timestamp.format) promotedAt <|
  .cons (.required "isLatest" .bool) isLatest <|
  .cons (.optional "operator" .string) operator .nil

/-- The format of a standing. -/
def format : Format EnvironmentStanding := .record mk members

end EnvironmentStanding

/-- Where a tag stands. -/
structure Standing where
  tag : String
  digest : Digest
  environments : SortedMap EnvironmentStanding
  /-- The tag's promotions, the newest first. -/
  history : List History.Entry
  queriedAt : Timestamp
  deriving DecidableEq, Inhabited

namespace Standing

/-- The members of a standing. -/
def members : Members Standing
    (String → Digest → SortedMap EnvironmentStanding → List History.Entry → Timestamp →
      Standing) :=
  .cons (.required "tag" .string) tag <|
  .cons (.required "digest" Digest.format) digest <|
  .cons (.required "environments" (.map EnvironmentStanding.format)) environments <|
  .cons (.required "history" (.list History.Entry.format)) history <|
  .cons (.required "queriedAt" Timestamp.format) queriedAt .nil

/-- The format of a standing. -/
def format : Format Standing := .record mk members

end Standing

namespace Webhook

/-- A record as a webhook is told of it. -/
structure Payload where
  event : Event
  id : PromotionId
  tag : String
  digest : Digest
  fromEnv : String
  toEnv : String
  operator : String
  signatureVerified : Bool
  gateResults : List Gate.Result
  timestamp : Timestamp
  deriving DecidableEq, Inhabited

namespace Payload

/-- The payload of an event about a record. -/
def ofRecord (event : Event) (r : Record) : Payload :=
  ⟨event, r.id, r.tag, r.digest, r.fromEnv, r.toEnv, r.operator, r.signatureVerified,
    r.gateResults, r.timestamp⟩

/-- The members of a payload. -/
def members : Members Payload
    (Event → PromotionId → String → Digest → String → String → String → Bool →
      List Gate.Result → Timestamp → Payload) :=
  .cons (.required "event" Event.format) event <|
  .cons (.required "promotion_id" PromotionId.format) id <|
  .cons (.required "tag" .string) tag <|
  .cons (.required "digest" Digest.format) digest <|
  .cons (.required "from_env" .string) fromEnv <|
  .cons (.required "to_env" .string) toEnv <|
  .cons (.required "operator" .string) operator <|
  .cons (.required "signature_verified" .bool) signatureVerified <|
  .cons (.required "gate_results" (.list Gate.Result.format)) gateResults <|
  .cons (.required "timestamp" Timestamp.format) timestamp .nil

/-- The format of a payload. -/
def format : Format Payload := .record mk members

end Payload

end Webhook

end Promotion
