import Promotion.Controller

/-!
# Where a Tag Stands

What the registry and the log say of a tag: the digest it points to, for every
environment whether that digest was promoted into it and is the latest there,
and the tag's newest promotions, whatever their digest.
-/

namespace Promotion

namespace Controller

variable {σ : Type} (c : Controller σ)

/-- The environments a question is about: one that is named, or all. -/
def asked (environment : Option String) : Except Error (List String) :=
  match environment with
  | none => .ok c.pipeline.names
  | some name =>
    match c.pipeline.environment? name with
    | some e => .ok [e.name]
    | none => .error (.settings (.unknownEnvironment name))

/-- An environment's latest tag points to a digest. -/
def isLatest (environment : String) (digest : Digest) : Action (State σ) Error Bool := do
  let (_, latest) ← c.lookTag (latestTag environment)
  return latest = some digest

/-- How a digest stands in one environment, by the records of its tag, the newest first. -/
def standingIn (records : List Record) (digest : Digest) (environment : String) :
    Action (State σ) Error EnvironmentStanding := do
  let newest := records.find? fun r => r.toEnv = environment && r.digest = digest
  let isLatest ← c.isLatest environment digest
  return ⟨newest.isSome, newest.map Record.timestamp, isLatest, newest.map Record.operator⟩

/-- How a digest stands in some environments. -/
def standingsIn (records : List Record) (digest : Digest) :
    List String → Action (State σ) Error (List (String × EnvironmentStanding))
  | [] => return []
  | name :: rest => do
    let standing ← c.standingIn records digest name
    let standings ← standingsIn records digest rest
    return (name, standing) :: standings

/-- Where a tag stands, with as many of its promotions as are wanted. -/
def standing (tag : String) (environment : Option String) (history : Nat) :
    Action (State σ) Error Standing := do
  let artifact ← c.resolve tag
  match c.asked environment with
  | .error e => throw e
  | .ok names =>
    let question : Audit.Query := { Audit.Query.all with tag := some tag }
    let records ← Action.mapError .audit (ask (c.collaborators.audit.query question))
    let environments ← c.standingsIn records artifact.digest names
    let queriedAt ← tell c.collaborators.clock
    return ⟨tag, artifact.digest, .ofList environments,
      (records.take history).map History.Entry.ofRecord, queriedAt⟩

end Controller

end Promotion
