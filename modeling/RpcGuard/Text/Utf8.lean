import RpcGuard.Bytes

/-!
# UTF-8

Characters to bytes and back. `decode?` accepts exactly the well-formed sequences (shortest forms,
no surrogates, nothing past U+10FFFF); `decodeLossy` puts one U+FFFD in the place of each longest
run of bytes that could have begun a character but did not.
-/

namespace RpcGuard.Utf8

/-- A byte that continues a character. -/
def isTail (b : UInt8) : Bool := 0x80 ≤ b && b ≤ 0xBF

/-- The bytes `a b` are a whole two-byte character. -/
def isPair (a b : UInt8) : Bool := 0xC2 ≤ a && a ≤ 0xDF && isTail b

/-- The bytes `a b` begin a three-byte character. -/
def beginsTriple (a b : UInt8) : Bool :=
  (a == 0xE0 && 0xA0 ≤ b && b ≤ 0xBF) || (a == 0xED && 0x80 ≤ b && b ≤ 0x9F) ||
    (0xE1 ≤ a && a ≤ 0xEF && a != 0xED && isTail b)

/-- The bytes `a b` begin a four-byte character. -/
def beginsQuad (a b : UInt8) : Bool :=
  (a == 0xF0 && 0x90 ≤ b && b ≤ 0xBF) || (a == 0xF4 && 0x80 ≤ b && b ≤ 0x8F) ||
    (0xF1 ≤ a && a ≤ 0xF3 && isTail b)

/-- The six low bits of a byte, as a number. -/
def low (b : UInt8) : Nat := b.toNat % 64

def charOfPair (a b : UInt8) : Char := Char.ofNat (a.toNat % 32 * 64 + low b)

def charOfTriple (a b c : UInt8) : Char :=
  Char.ofNat (a.toNat % 16 * 4096 + low b * 64 + low c)

def charOfQuad (a b c d : UInt8) : Char :=
  Char.ofNat (a.toNat % 8 * 262144 + low b * 4096 + low c * 64 + low d)

/-- The characters of a well-formed sequence; `none` for any other. -/
def decode? : Bytes → Option (List Char)
  | [] => some []
  | a :: r =>
    if a < 0x80 then (decode? r).map (Char.ofNat a.toNat :: ·)
    else match r with
      | [] => none
      | b :: r =>
        if isPair a b then (decode? r).map (charOfPair a b :: ·)
        else match r with
          | [] => none
          | c :: r =>
            if beginsTriple a b && isTail c then (decode? r).map (charOfTriple a b c :: ·)
            else match r with
              | [] => none
              | d :: r =>
                if beginsQuad a b && isTail c && isTail d then
                  (decode? r).map (charOfQuad a b c d :: ·)
                else none

/-- The text of a well-formed sequence. -/
def text? (bs : Bytes) : Option String := (decode? bs).map String.ofList

/-- The bytes of one character. -/
def encodeChar (c : Char) : Bytes :=
  let n := c.toNat
  let tail (k : Nat) : UInt8 := UInt8.ofNat (0x80 + k % 64)
  if n < 0x80 then [UInt8.ofNat n]
  else if n < 0x800 then [UInt8.ofNat (0xC0 + n / 64), tail n]
  else if n < 0x10000 then [UInt8.ofNat (0xE0 + n / 4096), tail (n / 64), tail n]
  else [UInt8.ofNat (0xF0 + n / 262144), tail (n / 4096), tail (n / 64), tail n]

/-- The bytes of a list of characters. -/
def encode (cs : List Char) : Bytes := cs.flatMap encodeChar

/-- The bytes of a text. -/
def bytes (s : String) : Bytes := encode s.toList

/-- U+FFFD, which stands for what could not be read. -/
def replacement : Char := Char.ofNat 0xFFFD

/-- Reads any byte string: a malformed stretch becomes U+FFFD, once for each longest run that is a
proper beginning of some character, else once for a single byte. -/
def decodeLossy : Bytes → List Char
  | [] => []
  | a :: r =>
    if a < 0x80 then Char.ofNat a.toNat :: decodeLossy r
    else match r with
      | [] => [replacement]
      | b :: s =>
        if isPair a b then charOfPair a b :: decodeLossy s
        else if beginsTriple a b then
          match s with
          | [] => [replacement]
          | c :: t =>
            if isTail c then charOfTriple a b c :: decodeLossy t
            else replacement :: decodeLossy (c :: t)
        else if beginsQuad a b then
          match s with
          | [] => [replacement]
          | c :: t =>
            if isTail c then
              match t with
              | [] => [replacement]
              | d :: u =>
                if isTail d then charOfQuad a b c d :: decodeLossy u
                else replacement :: decodeLossy (d :: u)
            else replacement :: decodeLossy (c :: t)
        else replacement :: decodeLossy (b :: s)

end RpcGuard.Utf8
