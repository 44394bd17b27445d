/-!
# The clock of the key cache

The clock counts seconds from some moment on and is never set. Its counts end with `Clock.latest`,
so that the end of a long duration may be more than it can show.
-/

namespace RpcGuard

namespace Clock

/-- The last second that the clock can count, `2 ^ 63 - 1`. -/
def latest : Nat := 9223372036854775807

/-- A hundred years. -/
def farFuture : Nat := 100 * 365 * 24 * 60 * 60

end Clock

/-- A reading of the clock, which goes on for another hundred years. -/
structure Uptime where
  seconds : Nat
  bounded : seconds + Clock.farFuture ≤ Clock.latest
  deriving DecidableEq, Repr

namespace Uptime

instance : Coe Uptime Nat := ⟨seconds⟩

/-- The reading after so many seconds, or the last one if they are too many. -/
def ofSeconds (n : Nat) : Uptime where
  seconds := min n (Clock.latest - Clock.farFuture)
  bounded := by
    have h : Clock.farFuture ≤ Clock.latest := by decide
    omega

instance (n : Nat) : OfNat Uptime n := ⟨ofSeconds n⟩

/-- The end of a duration that begins now. An end that the clock cannot show is brought forward to
a hundred years from now, and if it cannot show that either, the duration is over at once. -/
def deadline (now : Uptime) (duration : UInt64) : Nat :=
  if now.seconds + duration.toNat ≤ Clock.latest then now.seconds + duration.toNat
  else if now.seconds + Clock.farFuture ≤ Clock.latest then now.seconds + Clock.farFuture
  else now.seconds

end Uptime

end RpcGuard
