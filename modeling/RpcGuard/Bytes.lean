/-!
# Byte strings

The wire form of everything the guard reads: lists of bytes, with the two readings that the rest
of the library needs, the number they spell in base 256 and the bytes of an ASCII text.
-/

namespace RpcGuard

/-- A byte string. -/
abbrev Bytes := List UInt8

namespace Bytes

/-- The number that the bytes spell in base 256, most significant byte first. -/
def toNat (bs : Bytes) : Nat :=
  bs.foldl (fun n b => 256 * n + b.toNat) 0

/-- The bytes of a text whose characters all lie below 256. -/
def ofLatin (cs : List Char) : Bytes :=
  cs.map fun c => UInt8.ofNat c.toNat

@[simp] theorem toNat_nil : toNat [] = 0 := rfl

@[simp] theorem toNat_append_singleton (bs : Bytes) (b : UInt8) :
    toNat (bs ++ [b]) = 256 * toNat bs + b.toNat := by
  simp [toNat]

end Bytes

end RpcGuard
