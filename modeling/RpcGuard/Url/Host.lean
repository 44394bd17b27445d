import RpcGuard.Text.Digits
import RpcGuard.Text.Percent
import RpcGuard.Url.Domain

/-!
# Hosts

The hosts of URLs. A host of a scheme that is registered as special is a domain name, in lower case
and ASCII, or an address; a name that ends in a number must be an IPv4 address. Any other host is
kept as it is written, with controls and characters outside ASCII escaped.
-/

namespace RpcGuard

/-- A reason to refuse a URL. -/
inductive Url.Fault where
  | emptyHost
  | domainName
  | port
  | ipv4
  | ipv6
  | hostCharacter
  /-- There is no scheme, and no URL to be relative to. -/
  | relative
  /-- A relative reference to a URL without a hierarchy. -/
  | noHierarchy
  deriving DecidableEq, Repr

/-- The fault in words. -/
def Url.Fault.message : Url.Fault → String
  | emptyHost => "empty host"
  | domainName => "invalid international domain name"
  | port => "invalid port number"
  | ipv4 => "invalid IPv4 address"
  | ipv6 => "invalid IPv6 address"
  | hostCharacter => "invalid domain character"
  | relative => "relative URL without a base"
  | noHierarchy => "relative URL with a cannot-be-a-base base"

/-- A host. A name may be empty, but only where no domain name is needed. -/
inductive Host where
  | name (s : String)
  | ipv4 (address : Nat)
  | ipv6 (pieces : List Nat)
  deriving DecidableEq, Repr

namespace Host

-- Powers of naturals are those of the core library, whatever else is imported.
attribute [local instance (high)] instPowNat

/-! ## IPv4 addresses -/

/-- A part of an address: decimal, octal after `0`, hexadecimal after `0x`. Nothing after the mark
of the base is zero. -/
def ipv4Part? : List Char → Option Nat
  | [] => none
  | '0' :: 'x' :: cs => Digits.number? 16 cs
  | '0' :: 'X' :: cs => Digits.number? 16 cs
  | '0' :: c :: cs => Digits.number? 8 (c :: cs)
  | cs => Digits.number? 10 cs

/-- The parts between the dots, without an empty last one. -/
def dotted (cs : List Char) : List (List Char) :=
  let parts := cs.splitOn '.'
  if parts.getLast? = some [] then parts.dropLast else parts

/-- The last part is a number, so the name must be an address. -/
def endsInNumber (cs : List Char) : Bool :=
  match (dotted cs).getLast? with
  | some [] | none => false
  | some part => part.all Char.isDigit || (ipv4Part? part).isSome

/-- The address of parts: all but the last are bytes, and the last fills the rest. -/
def ipv4OfParts? (parts : List Nat) : Option Nat :=
  match parts.reverse with
  | [] => none
  | last :: front =>
    let front := front.reverse
    if parts.length ≤ 4 ∧ front.all (· ≤ 255) ∧ last < 256 ^ (4 - front.length) then
      some (front.zipIdx.foldl (fun n (b, i) => n + b * 256 ^ (3 - i)) last)
    else none

/-- The address that a name spells. -/
def ipv4? (cs : List Char) : Option Nat := do
  ipv4OfParts? (← (dotted cs).mapM ipv4Part?)

/-! ## IPv6 addresses -/

/-- A byte in decimal, without leading zeros. -/
def byte? (cs : List Char) : Option Nat := do
  if cs.isEmpty ∨ (cs.head? = some '0' ∧ 1 < cs.length) ∨ !cs.all Char.isDigit then none
  else (Digits.number? 10 cs).filter (· ≤ 255)

/-- Two pieces, written as an IPv4 address. -/
def embedded? (cs : List Char) : Option (List Nat) := do
  match ← (cs.splitOn '.').mapM byte? with
  | [a, b, c, d] => some [a * 256 + b, c * 256 + d]
  | _ => none

/-- A piece of 16 bits, in up to four hexadecimal digits. -/
def piece? (cs : List Char) : Option Nat :=
  if cs.isEmpty ∨ 4 < cs.length then none else Digits.number? 16 cs

/-- The pieces between colons. If `last`, the final one may be an embedded IPv4 address. -/
def pieces? (last : Bool) : List (List Char) → Option (List Nat)
  | [] => some []
  | [g] => if last ∧ g.contains '.' then embedded? g else (piece? g).map ([·])
  | g :: gs => do return (← piece? g) :: (← pieces? last gs)

/-- The groups of a text between colons; an empty text has none. -/
def groups (cs : List Char) : List (List Char) := if cs.isEmpty then [] else cs.splitOn ':'

/-- The text around the first double colon. -/
def splitDouble : List Char → List Char → Option (List Char × List Char)
  | _, [] => none
  | seen, ':' :: ':' :: cs => some (seen.reverse, cs)
  | seen, c :: cs => splitDouble (c :: seen) cs

/-- The eight pieces of an address. A double colon stands for one zero piece or more. -/
def ipv6? (cs : List Char) : Option (List Nat) :=
  match splitDouble [] cs with
  | none => (pieces? true (groups cs)).filter (·.length = 8)
  | some (front, back) => do
    let front ← pieces? false (groups front)
    let back ← pieces? true (groups back)
    let n := front.length + back.length
    if n ≤ 7 then some (front ++ List.replicate (8 - n) 0 ++ back) else none

/-- The zeros at the head of a list of pieces. -/
def zeros (pieces : List Nat) : Nat := (pieces.takeWhile (· == 0)).length

/-- Where the longest run of zeros begins, the first of equals, and how long it is. -/
def longestZeros (pieces : List Nat) : Nat × Nat :=
  (List.range pieces.length).foldl (fun best i =>
    let n := zeros (pieces.drop i)
    if best.2 < n then (i, n) else best) (0, 0)

/-- Pieces in hexadecimal between colons. -/
def joined (pieces : List Nat) : String :=
  ":".intercalate (pieces.map fun p => String.ofList (Nat.toDigits 16 p))

/-- The text of an address: the longest run of two zeros or more is written as a double colon. -/
def ipv6Text (pieces : List Nat) : String :=
  let (start, n) := longestZeros pieces
  if n < 2 then joined pieces
  else joined (pieces.take start) ++ "::" ++ joined (pieces.drop (start + n))

/-! ## Hosts -/

/-- The address between brackets. -/
def bracketed (cs : List Char) : Except Url.Fault Host :=
  match cs.getLast?, ipv6? cs.dropLast with
  | some ']', some pieces => .ok (.ipv6 pieces)
  | _, _ => .error .ipv6

/-- The host of a special scheme. -/
def ofDomain (cs : List Char) : Except Url.Fault Host :=
  match cs with
  | '[' :: cs => bracketed cs
  | _ =>
    match (Utf8.decode? (Percent.decode (Utf8.encode cs))).bind Domain.ascii? with
    | none => .error .domainName
    | some [] => .error .emptyHost
    | some domain =>
      if endsInNumber domain then
        match ipv4? domain with
        | some address => .ok (.ipv4 address)
        | none => .error .ipv4
      else .ok (.name (String.ofList domain))

/-- Characters that no host may contain. -/
def forbiddenInHost (c : Char) : Bool :=
  c.toNat == 0 || "\t\n\r #/:<>?@[\\]^|".toList.contains c

/-- The host of any other scheme. -/
def ofOpaque (cs : List Char) : Except Url.Fault Host :=
  match cs with
  | '[' :: cs => bracketed cs
  | _ =>
    if cs.any forbiddenInHost then .error .hostCharacter
    else .ok (.name (String.ofList (Percent.encode [] cs)))

/-- The text of a host. -/
def toString : Host → String
  | name s => s
  | ipv4 a =>
    ".".intercalate
      ([a / 256 ^ (3 : Nat), a / 256 ^ (2 : Nat) % 256, a / 256 % 256, a % 256].map Nat.repr)
  | ipv6 pieces => "[" ++ ipv6Text pieces ++ "]"

end Host

end RpcGuard
