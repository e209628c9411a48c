import Promotion.Format
import Promotion.Timestamp.Rfc3339

/-!
# The Format of Timestamps

In data a timestamp is its text.
-/

namespace Promotion

namespace Timestamp

/-- The format of a timestamp. -/
def format : Format Timestamp :=
  .ofText text read?

end Timestamp

end Promotion
