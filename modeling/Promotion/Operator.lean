import Promotion.Format.Record

/-!
# Operators

The person or service account that asks for a promotion, with the groups it
belongs to. Records keep the name only.
-/

namespace Promotion

/-- Who asks for a promotion. -/
structure Operator where
  name : String
  groups : List String
  deriving DecidableEq, Repr, Inhabited

namespace Operator

/-- An operator without groups. -/
def named (name : String) : Operator := ⟨name, []⟩

/-- The operator with one more group. -/
def withGroup (o : Operator) (group : String) : Operator :=
  { o with groups := o.groups ++ [group] }

/-- The operator belongs to a group. -/
def inGroup (o : Operator) (group : String) : Bool :=
  o.groups.contains group

/-- The members of an operator. -/
def members : Members Operator (String → List String → Operator) :=
  .cons (.required "name" .string) name <|
  .cons (.defaulted "groups" (.list .string) []) groups .nil

/-- The format of an operator. -/
def format : Format Operator := .record mk members

end Operator

end Promotion
