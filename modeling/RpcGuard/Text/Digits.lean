/-!
# Digits

Digits of bases up to sixteen. Letters are read in either case and written in upper case. Bytes and
characters are both read by their code, so that one function serves all formats.
-/

namespace RpcGuard.Digits

/-- The value of the digit with a given code, below 16. -/
def value? (code : Nat) : Option Nat :=
  if 0x30 ≤ code ∧ code ≤ 0x39 then some (code - 0x30)
  else if 0x41 ≤ code ∧ code ≤ 0x46 then some (code - 0x41 + 10)
  else if 0x61 ≤ code ∧ code ≤ 0x66 then some (code - 0x61 + 10)
  else none

/-- The digit of a value below 16. -/
def ofValue (n : Nat) : Char :=
  if n < 10 then Char.ofNat (0x30 + n) else Char.ofNat (0x41 + (n - 10))

/-- A digit that is written reads back. -/
theorem value?_ofValue : ∀ n < 16, value? (ofValue n).toNat = some n := by decide

/-- The number that digits of a base spell; no digits spell zero. -/
def number? (base : Nat) (cs : List Char) : Option Nat :=
  cs.foldlM (fun n c => do
    let d ← value? c.toNat
    if d < base then some (n * base + d) else none) 0

end RpcGuard.Digits
