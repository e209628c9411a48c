import Promotion.Audit.Entry

/-!
# Questions to the Log

The records of a log that answer a question, the newest first.

Newest means by timestamp and, of two records with one timestamp, by place in
the log. Sorting is stable, so entries that agree in both stay in their order.

## Main definitions

* `Audit.Query`: A question: what the records must have, and how many are wanted.
* `Audit.Query.accepts`: A record has what is asked for.
* `Audit.newerOrSame`: The order of answers.
* `Audit.Query.apply`: The records that answer a question.
-/

namespace Promotion

namespace Audit

/-- A question to the log. What is not given may be anything. -/
structure Query where
  tag : Option String
  digest : Option Digest
  /-- The environment promoted into. -/
  environment : Option String
  operator : Option String
  /-- The most records wanted. -/
  limit : Option Nat
  deriving DecidableEq, Repr

/-- One record comes no later in an answer than another. -/
def newerOrSame (a b : Entry) : Bool :=
  if a.record.timestamp = b.record.timestamp then b.sequence ≤ a.sequence
  else b.record.timestamp < a.record.timestamp

namespace Query

/-- The question for every record. -/
def all : Query := ⟨none, none, none, none, none⟩

instance : Inhabited Query := ⟨all⟩

/-- A filter that is given has the value. -/
def admits {α : Type} [DecidableEq α] (filter : Option α) (value : α) : Bool :=
  match filter with
  | none => true
  | some wanted => value = wanted

/-- The record has what is asked for. -/
def accepts (q : Query) (r : Record) : Bool :=
  admits q.tag r.tag && admits q.digest r.digest && admits q.environment r.toEnv &&
    admits q.operator r.operator

/-- The first of some records, as many as are wanted. -/
def cut (q : Query) (records : List Record) : List Record :=
  match q.limit with
  | none => records
  | some n => records.take n

/-- The records of a log that answer the question, the newest first. -/
def apply (q : Query) (entries : List Entry) : List Record :=
  q.cut (((entries.filter fun e => q.accepts e.record).mergeSort newerOrSame).map Entry.record)

/-- The question for the newest promotion of a tag into an environment. -/
def latestInto (tag environment : String) : Query :=
  { all with tag := some tag, environment := some environment, limit := some 1 }

end Query

end Audit

end Promotion
