import Promotion.Signature.Verifier
import Promotion.Table

/-!
# Remembered Verdicts

What was found once for a digest under a policy need not be looked for again:
the content of a digest does not change, and a stricter policy is looked up on
its own. A failure is not remembered, so the next attempt asks again.

The verifier itself is kept the same way: it is built on first demand, built
again as long as building fails, and never after that.

## Main definitions

* `Signature.Cache`: The verdicts so far, by digest and policy.
* `Signature.Cache.getOrTry`: The verdict of a key, found if need be.
* `Signature.demand`: Builds a verifier unless it has been built.

## Theorems

* `Signature.Cache.get?_insert_self`, `get?_insert_of_ne`: What a new verdict changes.
-/

namespace Promotion

namespace Signature

/-- The verdicts so far, by digest and policy. -/
abbrev Cache := Table (Digest × Policy) Verdict

namespace Cache

/-- The verdict of a digest under a policy. -/
def get? (c : Cache) (digest : Digest) (policy : Policy) : Option Verdict :=
  c.find? (digest, policy)

theorem get?_insert_self (c : Cache) (digest : Digest) (policy : Policy) (v : Verdict) :
    get? (c.insert (digest, policy) v) digest policy = some v :=
  (Table.find?_insert _ _ _ _).trans (if_pos rfl)

/-- A verdict that is added leaves those under other keys as they are. -/
theorem get?_insert_of_ne (c : Cache) {key : Digest × Policy} {digest : Digest} {policy : Policy}
    (v : Verdict) (h : key ≠ (digest, policy)) :
    get? (c.insert key v) digest policy = c.get? digest policy :=
  (Table.find?_insert _ _ _ _).trans (if_neg h.symm)

/-- The verdict of a key. One that is not there is looked for, and kept if it is found. -/
def getOrTry {σ ε : Type} (c : Cache) (digest : Digest) (policy : Policy)
    (find : Action σ ε Verdict) : Action σ ε (Verdict × Cache) :=
  match c.get? digest policy with
  | some verdict => return (verdict, c)
  | none => do
    let verdict ← find
    return (verdict, c.insert (digest, policy) verdict)

end Cache

/-- Builds a verifier unless it has been built. The first part of the world says whether it has. -/
def demand {σ : Type} (build : Call σ Failure Unit) (built : Bool) :
    σ → Except Failure Unit × Bool × σ := fun w =>
  if built then (.ok (), true, w)
  else
    match build w with
    | (.ok (), w) => (.ok (), true, w)
    | (.error failure, w) => (.error failure, false, w)

end Signature

end Promotion
