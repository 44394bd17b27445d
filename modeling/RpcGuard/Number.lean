import RpcGuard.Binary64

/-!
# Numbers

The numbers of data formats. An integer that fits in 64 bits, without sign or with one, is kept as
it is; any other number is a binary64 value.
-/

namespace RpcGuard

/-- A number. `negative` holds integers below zero. -/
inductive Number where
  | natural (n : UInt64)
  | negative (n : Int)
  | float (x : Binary64)
  deriving DecidableEq, Repr

/-- Equality within one kind; an integer never equals a float. -/
def Number.same : Number → Number → Bool
  | natural a, natural b => a == b
  | negative a, negative b => a == b
  | float a, float b => a.same b
  | _, _ => false

end RpcGuard
