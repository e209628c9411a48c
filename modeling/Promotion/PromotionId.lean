import Promotion.Format
import Promotion.Uuid

/-!
# Promotion Identifiers

Each attempt at a promotion has an identifier of its own. In data it is the
bare identifier; in messages it is marked as a promotion's.
-/

namespace Promotion

/-- The identifier of one attempt at a promotion. -/
structure PromotionId where
  uuid : Uuid
  deriving DecidableEq, Repr, Inhabited

namespace PromotionId

/-- The identifier as messages show it. -/
def label (id : PromotionId) : String :=
  "promotion:" ++ id.uuid.text

/-- The bare identifier. -/
def format : Format PromotionId :=
  (Format.ofText Uuid.text Uuid.read?).convert uuid mk

end PromotionId

end Promotion
