/-!
# Failures

What ends without a result either reports an error, which its caller may
handle, or is aborted. Nobody handles an abort: whatever was going on
ends with it, and nothing is answered. What was done until then stays
done.
-/

namespace SignOn

/-- How something ends that has no result. -/
inductive Failure (ε : Type)
  | reported (error : ε)
  /-- A sum has left the range of its numbers. -/
  | aborted
deriving Repr, DecidableEq

/-- The same failure, with another error for the one that is reported. -/
def Failure.map {ε δ : Type} (f : ε → δ) : Failure ε → Failure δ
  | .reported e => .reported (f e)
  | .aborted => .aborted

end SignOn
