import Promotion.Gate
import Promotion.Signature

/-!
# Environments

An environment is one place an artifact can be promoted into: the gates on its
way in, who may bring something in, and what signature it must carry.

## Main definitions

* `Authorization`: Who may promote into an environment.
* `Environment`: An environment's configuration.
-/

namespace Promotion

/-- Who may promote into an environment. -/
structure Authorization where
  allowedGroups : List String
  allowedOperators : List String
  /-- Whoever promoted a tag into the environment before may not promote it into this one. -/
  separationOfDuties : Bool
  deriving DecidableEq, Repr

namespace Authorization

/-- Anyone. -/
def anyone : Authorization := ⟨[], [], false⟩

instance : Inhabited Authorization := ⟨anyone⟩

/-- One more operator may. -/
def allowOperator (a : Authorization) (name : String) : Authorization :=
  { a with allowedOperators := a.allowedOperators ++ [name] }

/-- One more group may. -/
def allowGroup (a : Authorization) (group : String) : Authorization :=
  { a with allowedGroups := a.allowedGroups ++ [group] }

/-- Nobody may take a tag two steps in a row. -/
def separateDuties (a : Authorization) : Authorization :=
  { a with separationOfDuties := true }

/-- Somebody is listed, so that nobody else may. -/
def hasAllowList (a : Authorization) : Bool :=
  !a.allowedOperators.isEmpty || !a.allowedGroups.isEmpty

/-- The members of an authorization. -/
def members : Members Authorization (List String → List String → Bool → Authorization) :=
  .cons (.defaulted "allowed_groups" (.list .string) []) allowedGroups <|
  .cons (.defaulted "allowed_operators" (.list .string) []) allowedOperators <|
  .cons (.defaulted "separation_of_duties" .bool false) separationOfDuties .nil

/-- The format of an authorization. -/
def format : Format Authorization := .record mk members

end Authorization

/-- An environment's configuration. -/
structure Environment where
  name : String
  gates : List Gate
  /-- Without one, anyone may promote. -/
  authorization : Option Authorization
  signature : Signature.Rule
  deriving DecidableEq, Repr, Inhabited

namespace Environment

/-- An environment that demands nothing. -/
def named (name : String) : Environment := ⟨name, [], none, .default⟩

/-- The environment with one more gate. -/
def withGate (e : Environment) (g : Gate) : Environment :=
  { e with gates := e.gates ++ [g] }

/-- The environment with an authorization. -/
def withAuthorization (e : Environment) (a : Authorization) : Environment :=
  { e with authorization := some a }

/-- The environment with another enforcement. -/
def withEnforcement (e : Environment) (enforcement : Signature.Enforcement) : Environment :=
  { e with signature := { e.signature with enforcement } }

/-- The environment with another signature policy. -/
def withPolicy (e : Environment) (policy : Signature.Policy) : Environment :=
  { e with signature := { e.signature with policy } }

/-- The first gate of a name. -/
def gate? (e : Environment) (name : String) : Option Gate :=
  e.gates.find? fun g => g.name = name

/-- A failure of the gate blocks a promotion. -/
def requires (e : Environment) (gate : String) : Bool :=
  ((e.gate? gate).map Gate.required).getD false

/-- The members of an environment. -/
def members : Members Environment
    (String → List Gate → Option Authorization → Signature.Rule → Environment) :=
  .cons (.required "name" .string) name <|
  .cons (.defaulted "gates" (.list Gate.format) []) gates <|
  .cons (.defaulted "authorization" (.option Authorization.format) none) authorization <|
  .cons (.defaulted "signature" Signature.Rule.format .default) signature .nil

/-- The format of an environment. -/
def format : Format Environment := .record mk members

end Environment

end Promotion
