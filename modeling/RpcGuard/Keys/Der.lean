import RpcGuard.Rsa
import RpcGuard.Text.Utf8

/-!
# DER

Two readers of ASN.1 values. `Asn1.read?` is lenient about lengths and knows just enough types to
look for a key inside a certificate or a key container; `Rsa.PublicKey.ofDer?` is strict and reads
exactly an RSA public key.
-/

namespace RpcGuard

/-- A value, as far as the search for a key looks into it. -/
inductive Asn1 where
  | objectId (arcs : List Nat)
  | bitString (bits : Bytes)
  | octetString (bytes : Bytes)
  | sequence (items : List Asn1)
  /-- Any other value. -/
  | other
  deriving Repr

namespace Asn1

/-- A number in groups of seven bits, all but the last marked by their high bit, after a number
read so far. -/
def base128? (n : Nat) : Bytes → Option (Nat × Bytes)
  | [] => none
  | b :: r =>
    let n := n * 128 + b.toNat % 128
    if b < 0x80 then some (n, r) else base128? n r

/-- Numbers in groups of seven bits, one after the other. -/
def arcs? : Nat → Bytes → Option (List Nat)
  | _, [] => some []
  | 0, _ => none
  | fuel + 1, bs => do
    let (n, r) ← base128? 0 bs
    return n :: (← arcs? fuel r)

/-- An object identifier. The first byte holds two arcs. -/
def objectId? : Bytes → Option (List Nat)
  | [] => none
  | b :: r => do
    let n := b.toNat
    let first := if n < 40 then [0, n] else if n < 80 then [1, n - 40] else [2, n - 80]
    return first ++ (← arcs? r.length r)

/-- The length of a value: a byte below 128, or a count of up to eight bytes that follow. -/
def length? : Bytes → Option (Nat × Bytes)
  | [] => none
  | b :: r =>
    if b < 0x80 then some (b.toNat, r)
    else
      let k := b.toNat - 0x80
      if k ≤ 8 ∧ k ≤ r.length then some (Bytes.toNat (r.take k), r.drop k) else none

/-- What stands before a value. -/
structure Tag where
  number : Nat
  constructed : Bool
  universal : Bool

/-- The tag of a value. -/
def tag? : Bytes → Option (Tag × Bytes)
  | [] => none
  | b :: r =>
    let constructed := b.toNat / 32 % 2 == 1
    let universal := b.toNat / 64 == 0
    if b.toNat % 32 = 31 then (base128? 0 r).map fun (n, r) => (⟨n, constructed, universal⟩, r)
    else some (⟨b.toNat % 32, constructed, universal⟩, r)

/-- The characters of a printable string. -/
def isPrintable (b : UInt8) : Bool :=
  let n := b.toNat
  (0x41 ≤ n && n ≤ 0x5A) || (0x61 ≤ n && n ≤ 0x7A) || (0x30 ≤ n && n ≤ 0x39) ||
    (Bytes.ofLatin " '()+,-./:=?".toList).contains b

/-- The number that two digits show. -/
def twoDigits? (a b : UInt8) : Option Nat :=
  let isDigit (x : UInt8) : Bool := 0x30 ≤ x && x ≤ 0x39
  if isDigit a && isDigit b then some ((a.toNat - 0x30) * 10 + (b.toNat - 0x30)) else none

/-- The number of days in a month of the Gregorian calendar. -/
def daysIn (year month : Nat) : Nat :=
  if month = 2 then
    if year % 4 = 0 ∧ (year % 100 ≠ 0 ∨ year % 400 = 0) then 29 else 28
  else if month = 4 ∨ month = 6 ∨ month = 9 ∨ month = 11 then 30
  else 31

/-- Month, day, hour, minute and second of a year, two digits each; what follows them. -/
def afterYear? (year : Nat) : Bytes → Option Bytes
  | a :: b :: c :: d :: e :: f :: g :: h :: i :: j :: rest => do
    let month ← twoDigits? a b
    let day ← twoDigits? c d
    let hour ← twoDigits? e f
    let minute ← twoDigits? g h
    let second ← twoDigits? i j
    if 1 ≤ month ∧ month ≤ 12 ∧ 1 ≤ day ∧ day ≤ daysIn year month ∧ hour < 24 ∧ minute < 60 ∧
        second < 60 then some rest
    else none
  | _ => none

/-- A time whose year has two digits, from 1950 to 2049. -/
def isUtcTime : Bytes → Bool
  | a :: b :: rest =>
    match twoDigits? a b with
    | some y => afterYear? (if 50 ≤ y then 1900 + y else 2000 + y) rest == some [0x5A]
    | none => false
  | _ => false

/-- A text that ends in at least one digit and `Z`. -/
def isFraction (bs : Bytes) : Bool :=
  bs.getLast? == some 0x5A && 2 ≤ bs.length &&
    bs.dropLast.all fun x => 0x30 ≤ x && x ≤ 0x39

/-- A time in full: a year of four digits, perhaps signed, month to second, and a fraction. -/
def isFullTime (bs : Bytes) : Bool :=
  let unsigned := match bs with
    | s :: r => if s = 0x2B ∨ s = 0x2D then r else bs
    | [] => []
  match unsigned with
  | a :: b :: c :: d :: rest =>
    match twoDigits? a b, twoDigits? c d with
    | some hi, some lo =>
      match afterYear? (hi * 100 + lo) rest with
      | some (0x2E :: fraction) => isFraction fraction
      | _ => false
    | _, _ => false
  | _ => false

/-- A time whose year has four digits. Without a point, what follows the fourteenth byte is the
fraction; zeros before the last byte fill the text up to 25 bytes. -/
def isGeneralizedTime (bs : Bytes) : Bool :=
  let pointed := if bs.contains 0x2E then bs else bs.take 14 ++ 0x2E :: bs.drop 14
  let zeros := List.replicate (25 - pointed.length) 0x30
  15 ≤ bs.length && isFullTime (pointed.dropLast ++ zeros ++ pointed.getLast?.toList)

mutual

/-- The values that fill a byte string. -/
def items? : Nat → Bytes → Option (List Asn1)
  | _, [] => some []
  | 0, _ => none
  | fuel + 1, bs => do
    let (tag, r) ← tag? bs
    let (n, r) ← length? r
    if n ≤ r.length then
      let x ← item? fuel tag (r.take n)
      return x :: (← items? fuel (r.drop n))
    else none

/-- The value with a tag and a body. Outside the universal class nothing is refused; a sequence or
set holds at least one value. -/
def item? : Nat → Tag → Bytes → Option Asn1
  | fuel, tag, body =>
    if !tag.universal then some .other
    else
      match tag.number with
      | 0x01 => if body.length = 1 then some .other else none
      | 0x03 =>
        match body with
        | [] => some (.bitString [])
        | unused :: bits => if unused.toNat ≤ 8 * bits.length then some (.bitString bits) else none
      | 0x04 => some (.octetString body)
      | 0x06 => (objectId? body).map .objectId
      | 0x0C => if (Utf8.decode? body).isSome then some .other else none
      | 0x10 =>
        match fuel, body with
        | 0, _ | _, [] => none
        | fuel + 1, body => (items? fuel body).map .sequence
      | 0x11 =>
        match fuel, body with
        | 0, _ | _, [] => none
        | fuel + 1, body => (items? fuel body).map fun _ => .other
      | 0x13 => if body.all isPrintable then some .other else none
      | 0x14 | 0x1C | 0x1E => if (Utf8.decode? body).isSome then some .other else none
      | 0x17 => if isUtcTime body then some .other else none
      | 0x18 => if isGeneralizedTime body then some .other else none
      | _ => some .other

end

/-- The values of a text, of which there must be one. Each value and each level uses a byte, so the
length of the text bounds the calls. -/
def read? (bs : Bytes) : Option (List Asn1) :=
  (items? (2 * bs.length + 2) bs).filter fun items => !items.isEmpty

/-! ## The search for a key -/

/-- Types of keys, as object identifiers name them. -/
inductive KeyType where
  | rsa
  | ellipticCurve
  | ed25519
  deriving DecidableEq, Repr

/-- The key type that an object identifier names. -/
def KeyType.ofArcs? (arcs : List Nat) : Option KeyType :=
  if arcs = [1, 2, 840, 113549, 1, 1, 1] then some rsa
  else if arcs = [1, 2, 840, 10045, 2, 1] then some ellipticCurve
  else if arcs = [1, 3, 101, 112] then some ed25519
  else none

mutual

/-- The first key type that the values name, looking into sequences as they come. -/
def keyType? : List Asn1 → Option KeyType
  | [] => none
  | x :: xs =>
    match keyTypeOf? x with
    | some t => some t
    | none => keyType? xs

def keyTypeOf? : Asn1 → Option KeyType
  | sequence items => keyType? items
  | objectId arcs => KeyType.ofArcs? arcs
  | _ => none

end

mutual

/-- The first bit or octet string of the values, looking into sequences as they come. -/
def firstString? : List Asn1 → Option Bytes
  | [] => none
  | x :: xs =>
    match firstStringOf? x with
    | some bs => some bs
    | none => firstString? xs

def firstStringOf? : Asn1 → Option Bytes
  | sequence items => firstString? items
  | bitString bs => some bs
  | octetString bs => some bs
  | _ => none

end

end Asn1

/-! ## RSA public keys -/

namespace Rsa.PublicKey

/-- The body of a value with a given tag, and what follows it. The length has its shortest form,
of at most three bytes. -/
def body? (tag : UInt8) : Bytes → Option (Bytes × Bytes)
  | t :: l :: r =>
    let split (n : Nat) (r : Bytes) : Option (Bytes × Bytes) :=
      if n ≤ r.length then some (r.take n, r.drop n) else none
    if t ≠ tag then none
    else if l < 0x80 then split l.toNat r
    else if l = 0x81 then
      match r with
      | a :: r => if 0x80 ≤ a then split a.toNat r else none
      | [] => none
    else if l = 0x82 then
      match r with
      | a :: b :: r => if a ≠ 0 then split (Bytes.toNat [a, b]) r else none
      | _ => none
    else none
  | _ => none

/-- A positive number in its shortest form, without a zero byte that only keeps it positive. -/
def positive? (bs : Bytes) : Option (Bytes × Bytes) := do
  let (n, r) ← body? 0x02 bs
  match n with
  | 0 :: b :: m => if 0x80 ≤ b then some (b :: m, r) else none
  | b :: m => if 0 < b ∧ b < 0x80 then some (b :: m, r) else none
  | [] => none

/-- The key that a byte string encodes. -/
def ofDer? (bs : Bytes) : Option PublicKey := do
  let (fields, rest) ← body? 0x30 bs
  let (n, r) ← positive? fields
  let (e, r) ← positive? r
  if rest.isEmpty ∧ r.isEmpty then some ⟨n, e⟩ else none

end Rsa.PublicKey

end RpcGuard
