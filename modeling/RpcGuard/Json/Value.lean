import RpcGuard.Dictionary
import RpcGuard.Json.Syntax
import RpcGuard.Number
import RpcGuard.Text.Utf8

/-!
# JSON values

What a JSON text means. Strings are Unicode texts, numbers are 64-bit integers or binary64 values,
and at most `Json.maxDepth` arrays and objects lie inside one another. An object keeps its members
in the order of the text, repeated names included; `member?` and `collapse` let the last of a name
win.
-/

namespace RpcGuard

/-- A JSON value. -/
inductive Json where
  | null
  | bool (b : Bool)
  | number (n : Number)
  | string (s : String)
  | array (items : List Json)
  | object (members : List (String × Json))
  deriving Repr

namespace Json

-- Powers of naturals are those of the core library, whatever else is imported.
attribute [local instance (high)] instPowNat

/-- The number of arrays and objects that may lie inside one another. -/
def maxDepth : Nat := 127

/-! ## Strings -/

/-- The number that four hexadecimal digits spell. -/
def hex4? (a b c d : UInt8) : Option Nat := do
  let a ← Digits.value? a.toNat
  let b ← Digits.value? b.toNat
  let c ← Digits.value? c.toNat
  let d ← Digits.value? d.toNat
  return a * 4096 + b * 256 + c * 16 + d

/-- The character that a one-letter escape stands for. -/
def escaped? (b : UInt8) : Option UInt8 :=
  if b = Syntax.ascii '"' ∨ b = Syntax.ascii '\\' ∨ b = Syntax.ascii '/' then some b
  else if b = Syntax.ascii 'b' then some 8
  else if b = Syntax.ascii 'f' then some 12
  else if b = Syntax.ascii 'n' then some 10
  else if b = Syntax.ascii 'r' then some 13
  else if b = Syntax.ascii 't' then some 9
  else none

/-- The bytes that the body of a string stands for. A high surrogate must be followed at once by an
escaped low one, and a low one must follow a high one. -/
def unescape? : Bytes → Option Bytes
  | [] => some []
  | b :: r =>
    if b = Syntax.ascii '\\' then
      match r with
      | [] => none
      | e :: r =>
        if e = Syntax.ascii 'u' then
          match r with
          | h₁ :: h₂ :: h₃ :: h₄ :: r =>
            match hex4? h₁ h₂ h₃ h₄ with
            | none => none
            | some n =>
              if n < 0xD800 ∨ 0xDFFF < n then
                (unescape? r).map (Utf8.encodeChar (Char.ofNat n) ++ ·)
              else if 0xDC00 ≤ n then none
              else
                match r with
                | s :: u :: l₁ :: l₂ :: l₃ :: l₄ :: r =>
                  if s = Syntax.ascii '\\' ∧ u = Syntax.ascii 'u' then
                    match hex4? l₁ l₂ l₃ l₄ with
                    | none => none
                    | some m =>
                      if 0xDC00 ≤ m ∧ m ≤ 0xDFFF then
                        let c := Char.ofNat (0x10000 + (n - 0xD800) * 1024 + (m - 0xDC00))
                        (unescape? r).map (Utf8.encodeChar c ++ ·)
                      else none
                  else none
                | _ => none
          | _ => none
        else
          match escaped? e with
          | none => none
          | some c => (unescape? r).map (c :: ·)
    else (unescape? r).map (b :: ·)

/-- The text that the body of a string stands for. -/
def text? (body : Bytes) : Option String := do
  Utf8.text? (← unescape? body)

/-! ## Numbers -/

/-- The value of a number. One written without point and exponent is an integer if it fits in 64
bits, except that minus zero is a float. Floats have the quick value of their numeral. -/
def number? (x : Decimal) : Option Number :=
  let n := Decimal.valueOf x.whole
  if x.isWhole ∧ !x.negative ∧ n < 2 ^ (64 : Nat) then some (.natural (UInt64.ofNat n))
  else if x.isWhole ∧ x.negative ∧ 0 < n ∧ n ≤ 2 ^ (63 : Nat) then some (.negative (-n))
  else x.quick?.map .float

/-! ## Values -/

mutual

/-- The meaning of a value that may hold `depth` levels of arrays and objects. -/
def ofSyntax? : Nat → Syntax → Option Json
  | _, .null => some .null
  | _, .bool b => some (.bool b)
  | _, .number x => (number? x).map .number
  | _, .string s => (text? s).map .string
  | 0, .array _ => none
  | depth + 1, .array xs => (ofItems? depth xs).map .array
  | 0, .object _ => none
  | depth + 1, .object ms => (ofMembers? depth ms).map .object

def ofItems? : Nat → List Syntax → Option (List Json)
  | _, [] => some []
  | depth, x :: xs => do
    let y ← ofSyntax? depth x
    let ys ← ofItems? depth xs
    return y :: ys

def ofMembers? : Nat → List (Bytes × Syntax) → Option (List (String × Json))
  | _, [] => some []
  | depth, (k, x) :: ms => do
    let name ← text? k
    let y ← ofSyntax? depth x
    let ys ← ofMembers? depth ms
    return (name, y) :: ys

end

/-- The value that a whole text writes. -/
def parse? (bs : Bytes) : Option Json := do
  ofSyntax? maxDepth (← Syntax.parse? bs)

/-- The value is an object. -/
def isObject : Json → Bool
  | object _ => true
  | _ => false

/-! ## Objects as maps -/

/-- The value of a member; the last of a name wins. -/
def member? (name : String) : Json → Option Json
  | object ms => Dictionary.lastValue? name ms
  | _ => none

mutual

/-- The value with each name once in every object: the last of a name wins. -/
def collapse : Json → Json
  | array xs => .array (collapseItems xs)
  | object ms => .object (Dictionary.lastOfEach (collapseMembers ms))
  | j => j

def collapseItems : List Json → List Json
  | [] => []
  | x :: xs => collapse x :: collapseItems xs

def collapseMembers : List (String × Json) → List (String × Json)
  | [] => []
  | (k, x) :: ms => (k, collapse x) :: collapseMembers ms

end

end Json

end RpcGuard
