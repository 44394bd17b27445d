import RpcGuard.Bytes
import RpcGuard.Decimal
import RpcGuard.Text.Digits

/-!
# The grammar of JSON

A JSON text as it is written: strings keep their escapes and numbers their digits. Reading a text
checks the grammar and nothing else. Whether a string is well-formed Unicode, whether a number is
in range and how deep a value may nest is the business of `RpcGuard.Json.Value`, and only of those
parts of a text whose value somebody asks for.

`parse?` reads a whole text; `Opening.read` reads the members of an object up to the first fault,
for readers that must report the first thing wrong in the order of the text.
-/

namespace RpcGuard.Json

/-- A value as written. A string is the bytes between its quotes. -/
inductive Syntax where
  | null
  | bool (b : Bool)
  | number (x : Decimal)
  | string (body : Bytes)
  | array (items : List Syntax)
  | object (members : List (Bytes × Syntax))
  deriving Repr

namespace Syntax

/-! ## Characters -/

/-- The byte of an ASCII character. -/
def ascii (c : Char) : UInt8 := UInt8.ofNat c.toNat

/-- White space between the tokens of a text. -/
def isSpace (b : UInt8) : Bool :=
  b == ascii ' ' || b == ascii '\n' || b == ascii '\t' || b == ascii '\r'

/-- The text from its first token on. -/
def skipSpace (bs : Bytes) : Bytes := bs.dropWhile isSpace

/-- The byte is a hexadecimal digit. -/
def isHexDigit (b : UInt8) : Bool := (Digits.value? b.toNat).isSome

/-- The value of a decimal digit. -/
def digit? (b : UInt8) : Option Nat :=
  let n := b.toNat
  if 0x30 ≤ n ∧ n ≤ 0x39 then some (n - 0x30) else none

/-- The byte may follow a backslash, other than `u`. -/
def isEscape (b : UInt8) : Bool :=
  b == ascii '"' || b == ascii '\\' || b == ascii '/' || b == ascii 'b' || b == ascii 'f' ||
    b == ascii 'n' || b == ascii 'r' || b == ascii 't'

/-! ## Strings and numbers -/

/-- The body of a string, from after its opening quote, and what follows its closing quote. Control
characters must be escaped, and `\u` takes four hexadecimal digits. -/
def stringBody? : Bytes → Option (Bytes × Bytes)
  | [] => none
  | b :: r =>
    if b = ascii '"' then some ([], r)
    else if b < 0x20 then none
    else if b = ascii '\\' then
      match r with
      | [] => none
      | e :: r =>
        if isEscape e then (stringBody? r).map fun (s, t) => (b :: e :: s, t)
        else if e = ascii 'u' then
          match r with
          | h₁ :: h₂ :: h₃ :: h₄ :: r =>
            if isHexDigit h₁ && isHexDigit h₂ && isHexDigit h₃ && isHexDigit h₄ then
              (stringBody? r).map fun (s, t) => (b :: e :: h₁ :: h₂ :: h₃ :: h₄ :: s, t)
            else none
          | _ => none
        else none
    else (stringBody? r).map fun (s, t) => (b :: s, t)

/-- The digits at the head of a text, and what follows them. -/
def spanDigits : Bytes → List Nat × Bytes
  | [] => ([], [])
  | b :: r =>
    match digit? b with
    | some d => let (ds, t) := spanDigits r; (d :: ds, t)
    | none => ([], b :: r)

/-- The digits at the head of a text, of which there must be one. -/
def digits? (bs : Bytes) : Option (List Nat × Bytes) :=
  match spanDigits bs with
  | ([], _) => none
  | r => some r

/-- Digits before the point: no zero stands in front of another digit. -/
def whole? (bs : Bytes) : Option (List Nat × Bytes) :=
  match digits? bs with
  | some (0 :: _ :: _, _) => none
  | r => r

/-- The point and the digits after it, if there is a point. -/
def fraction? : Bytes → Option (Option (List Nat) × Bytes)
  | b :: r =>
    if b = ascii '.' then (digits? r).map fun (ds, t) => (some ds, t) else some (none, b :: r)
  | [] => some (none, [])

/-- The sign of an exponent: none is read as plus. -/
def sign : Bytes → Bool × Bytes
  | b :: r =>
    if b = ascii '-' then (true, r)
    else if b = ascii '+' then (false, r)
    else (false, b :: r)
  | [] => (false, [])

/-- The exponent, if there is one. -/
def exponent? : Bytes → Option (Option Decimal.Exponent × Bytes)
  | b :: r =>
    if b = ascii 'e' ∨ b = ascii 'E' then
      let (negative, r) := sign r
      (digits? r).map fun (ds, t) => (some ⟨negative, ds⟩, t)
    else some (none, b :: r)
  | [] => some (none, [])

/-- A number, and what follows it. -/
def number? (bs : Bytes) : Option (Decimal × Bytes) := do
  let (negative, bs) := match bs with
    | b :: r => if b = ascii '-' then (true, r) else (false, bs)
    | [] => (false, bs)
  let (whole, bs) ← whole? bs
  let (fraction, bs) ← fraction? bs
  let (exponent, bs) ← exponent? bs
  return (⟨negative, whole, fraction, exponent⟩, bs)

/-- The text after a fixed word. -/
def word? (w : String) (bs : Bytes) : Option Bytes :=
  let w := w.toList.map ascii
  if w.isPrefixOf bs then some (bs.drop w.length) else none

/-! ## Values

Each function takes fuel, which every call lowers by one; as every call also uses up a byte, the
length of the text is enough. -/

/-- The key of a member with its colon, and what follows. -/
def key? (bs : Bytes) : Option (Bytes × Bytes) :=
  match bs with
  | b :: r =>
    if b = ascii '"' then
      match stringBody? r with
      | some (k, r) =>
        match skipSpace r with
        | c :: r => if c = ascii ':' then some (k, skipSpace r) else none
        | [] => none
      | none => none
    else none
  | [] => none

mutual

/-- The value at the head of a text that begins with its first token, and what follows it. -/
def value? : Nat → Bytes → Option (Syntax × Bytes)
  | 0, _ => none
  | _, [] => none
  | fuel + 1, b :: r =>
    if b = ascii '"' then (stringBody? r).map fun (s, t) => (.string s, t)
    else if b = ascii '[' then
      match skipSpace r with
      | c :: r' =>
        if c = ascii ']' then some (.array [], r')
        else (items? fuel (c :: r')).map fun (xs, t) => (.array xs, t)
      | [] => none
    else if b = ascii '{' then
      match skipSpace r with
      | c :: r' =>
        if c = ascii '}' then some (.object [], r')
        else (members? fuel (c :: r')).map fun (ms, t) => (.object ms, t)
      | [] => none
    else if b = ascii 't' then (word? "rue" r).map fun t => (.bool true, t)
    else if b = ascii 'f' then (word? "alse" r).map fun t => (.bool false, t)
    else if b = ascii 'n' then (word? "ull" r).map fun t => (.null, t)
    else (number? (b :: r)).map fun (x, t) => (.number x, t)

/-- The values of an array from the first on, and what follows the closing bracket. -/
def items? : Nat → Bytes → Option (List Syntax × Bytes)
  | 0, _ => none
  | fuel + 1, bs =>
    match value? fuel bs with
    | none => none
    | some (x, r) =>
      match skipSpace r with
      | c :: r =>
        if c = ascii ']' then some ([x], r)
        else if c = ascii ',' then (items? fuel (skipSpace r)).map fun (xs, t) => (x :: xs, t)
        else none
      | [] => none

/-- The members of an object from the first on, and what follows the closing brace. -/
def members? : Nat → Bytes → Option (List (Bytes × Syntax) × Bytes)
  | 0, _ => none
  | fuel + 1, bs =>
    match key? bs with
    | none => none
    | some (k, r) =>
      match value? fuel r with
      | none => none
      | some (x, r) =>
        match skipSpace r with
        | c :: r =>
          if c = ascii '}' then some ([(k, x)], r)
          else if c = ascii ',' then
            (members? fuel (skipSpace r)).map fun (ms, t) => ((k, x) :: ms, t)
          else none
        | [] => none

end

/-- Fuel for reading a text: two calls for each byte. -/
def fuelFor (bs : Bytes) : Nat := 2 * bs.length + 2

/-- The value that a whole text writes. -/
def parse? (bs : Bytes) : Option Syntax :=
  match value? (fuelFor bs) (skipSpace bs) with
  | some (x, r) => if (skipSpace r).isEmpty then some x else none
  | none => none

end Syntax

/-! ## The members before the first fault -/

/-- An object as far as it can be read: the members before the first fault, and whether there was
none up to the end of the text. -/
structure Opening where
  members : List (Bytes × Syntax)
  complete : Bool
  deriving Repr

namespace Opening

/-- Nothing could be read. -/
def fault : Opening := ⟨[], false⟩

/-- The object ended, and this follows. -/
def ended (rest : Bytes) : Opening := ⟨[], (Syntax.skipSpace rest).isEmpty⟩

/-- The members from the first on. -/
def ofMembers : Nat → Bytes → Opening
  | 0, _ => fault
  | fuel + 1, bs =>
    match Syntax.key? bs with
    | none => fault
    | some (k, r) =>
      match Syntax.value? fuel r with
      | none => fault
      | some (x, r) =>
        let after : Opening := match Syntax.skipSpace r with
          | c :: r =>
            if c = Syntax.ascii '}' then ended r
            else if c = Syntax.ascii ',' then ofMembers fuel (Syntax.skipSpace r)
            else fault
          | [] => fault
        ⟨(k, x) :: after.members, after.complete⟩

/-- Reads the object that a text should be. -/
def read (bs : Bytes) : Opening :=
  match Syntax.skipSpace bs with
  | b :: r =>
    if b = Syntax.ascii '{' then
      match Syntax.skipSpace r with
      | c :: r =>
        if c = Syntax.ascii '}' then ended r else ofMembers (Syntax.fuelFor bs) (c :: r)
      | [] => fault
    else fault
  | [] => fault

end Opening

end RpcGuard.Json
