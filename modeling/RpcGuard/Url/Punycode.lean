/-!
# Punycode

The encoding of a label of any characters as ASCII (RFC 3492): the ASCII characters, a hyphen, and
for each other character, in the order of code points, the number of steps to it in a code of
variable length.
-/

namespace RpcGuard.Punycode

/-- The first code point outside ASCII. -/
def firstCode : Nat := 0x80

/-- The bias at the start. -/
def firstBias : Nat := 72

/-- The digit of a value below 36: letters, then numerals. -/
def digit (n : Nat) : Char :=
  if n < 26 then Char.ofNat (n + 0x61) else Char.ofNat (n - 26 + 0x30)

/-- The value of a digit. -/
def value? (c : Char) : Option Nat :=
  let n := c.toNat
  if 0x61 ≤ n ∧ n ≤ 0x7A then some (n - 0x61)
  else if 0x41 ≤ n ∧ n ≤ 0x5A then some (n - 0x41)
  else if 0x30 ≤ n ∧ n ≤ 0x39 then some (n - 0x30 + 26)
  else none

/-- The threshold of the digit at position `k`, a multiple of 36. -/
def threshold (k bias : Nat) : Nat :=
  if k ≤ bias then 1 else if bias + 26 ≤ k then 26 else k - bias

/-- Divides by 35 until the number is small, and counts by 36. -/
def shrink : Nat → Nat → Nat → Nat
  | 0, delta, k => k + 36 * delta / (delta + 38)
  | fuel + 1, delta, k =>
    if 455 < delta then shrink fuel (delta / 35) (k + 36) else k + 36 * delta / (delta + 38)

/-- The bias after a number, among `count` characters so far. -/
def adapt (delta count : Nat) (first : Bool) : Nat :=
  let delta := if first then delta / 700 else delta / 2
  shrink delta (delta + delta / count) 0

/-- The digits of a number, from position `k` on. -/
def digits (bias : Nat) : Nat → Nat → Nat → List Char
  | 0, _, _ => []
  | fuel + 1, q, k =>
    let t := threshold k bias
    if q < t then [digit q]
    else digit (t + (q - t) % (36 - t)) :: digits bias fuel ((q - t) / (36 - t)) (k + 36)

/-- What the encoder knows between two characters. -/
structure Encoder where
  code : Nat := firstCode
  delta : Nat := 0
  bias : Nat := firstBias
  count : Nat
  first : Bool := true
  output : List Char

/-- Passes over the label once and writes each `c`. -/
def Encoder.pass (c : Nat) (e : Encoder) (label : List Char) : Encoder :=
  label.foldl (fun e x =>
    if x.toNat < c then { e with delta := e.delta + 1 }
    else if x.toNat = c then
      { e with
        delta := 0
        bias := adapt e.delta (e.count + 1) e.first
        count := e.count + 1
        first := false
        output := e.output ++ digits e.bias (e.delta + 1) e.delta 36 }
    else e) e

/-- The numbers without repetition, from the least. -/
def sortedCodes (codes : List Nat) : List Nat :=
  (codes.mergeSort (· ≤ ·)).eraseReps

/-- The encoding of a label. -/
def encode (label : List Char) : List Char :=
  let basic := label.filter fun c => c.toNat < firstCode
  let start : Encoder :=
    { count := basic.length, output := if basic.isEmpty then [] else basic ++ ['-'] }
  let codes := sortedCodes ((label.map Char.toNat).filter (firstCode ≤ ·))
  let done := codes.foldl (fun e c =>
    let e := { e with delta := e.delta + (c - e.code) * (e.count + 1) }
    let e := e.pass c label
    { e with code := c + 1, delta := e.delta + 1 }) start
  done.output

/-- A number, read from position `k` on with weight `w`, and what follows it. -/
def number? (bias : Nat) : Nat → Nat → Nat → List Char → Option (Nat × List Char)
  | _, _, _, [] => none
  | i, w, k, c :: cs => do
    let d ← value? c
    let t := threshold k bias
    if d < t then return (i + d * w, cs)
    else number? bias (i + d * w) (w * (36 - t)) (k + 36) cs

/-- What the decoder knows between two characters. -/
structure Decoder where
  code : Nat := firstCode
  place : Nat := 0
  bias : Nat := firstBias
  first : Bool := true
  output : List Char

/-- Takes a character in its place, as the next number says. -/
def Decoder.step? (d : Decoder) (cs : List Char) : Option (Decoder × List Char) := do
  let (n, rest) ← number? d.bias d.place 1 36 cs
  let size := d.output.length + 1
  let code := d.code + n / size
  let place := n % size
  if code < 0x110000 ∧ ¬(0xD800 ≤ code ∧ code < 0xE000) then
    return ({
      code
      place := place + 1
      bias := adapt (n - d.place) size d.first
      first := false
      output := d.output.take place ++ Char.ofNat code :: d.output.drop place }, rest)
  else none

/-- Takes in all numbers of a text. Each has a digit, so the length of the text is fuel enough. -/
def Decoder.run? : Nat → Decoder → List Char → Option (List Char)
  | _, d, [] => some d.output
  | 0, _, _ => none
  | fuel + 1, d, cs => do
    let (d, rest) ← d.step? cs
    run? fuel d rest

/-- The label that an encoding stands for. -/
def decode? (cs : List Char) : Option (List Char) :=
  let tail := (cs.reverse.takeWhile (· ≠ '-')).reverse
  let basic := cs.take (cs.length - tail.length - 1)
  if basic.all (fun c => c.toNat < firstCode) then Decoder.run? tail.length { output := basic } tail
  else none

end RpcGuard.Punycode
