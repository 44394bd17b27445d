import RpcGuard.Text.Digits
import RpcGuard.Text.Utf8
import RpcGuard.Yaml.Cursor

/-!
# Anchors, tags and directives

The marks in front of a node, and the lines in front of a document. A tag is a handle, which stands
for the start of a name, and a suffix; names are byte strings, since a suffix may spell any bytes
with escapes.
-/

namespace RpcGuard.Yaml

/-- The name of an anchor, from after its mark. -/
def anchorName? (c : Cursor) : Option (String × Cursor) :=
  let name := c.rest.takeWhile isNameCharacter
  let rest := c.rest.drop name.length
  let closed := endsWord rest || rest.head?.any "?:,]\x7d%@\x60".toList.contains
  if name.isEmpty || !closed then none else some (String.ofList name, c.moveTo rest)

namespace Tag

/-! ## Names -/

/-- Characters of a tag name, other than those of names and `%`. In the verbatim form some marks of
flow collections are allowed too. -/
def isUriMark (verbatim : Bool) (c : Char) : Bool :=
  ";/?:@&=+$.!~*'()".toList.contains c || (verbatim && (c == ',' || c == '[' || c == ']'))

/-- The number of bytes of a character that begins with a byte. -/
def width? (b : Nat) : Option Nat :=
  if b < 0x80 then some 1
  else if b < 0xC0 then none
  else if b < 0xE0 then some 2
  else if b < 0xF0 then some 3
  else if b < 0xF8 then some 4
  else none

/-- One escaped byte. -/
def escapedByte? : List Char → Option (Nat × List Char)
  | '%' :: a :: b :: r => do return ((← Digits.value? a.toNat) * 16 + (← Digits.value? b.toNat), r)
  | _ => none

/-- The escaped bytes that continue a character. -/
def escapedTail? : Nat → List Char → Option (Bytes × List Char)
  | 0, cs => some ([], cs)
  | n + 1, cs => do
    let (b, r) ← escapedByte? cs
    if b / 64 = 2 then
      let (bs, r) ← escapedTail? n r
      return (UInt8.ofNat b :: bs, r)
    else none

/-- An escaped character. -/
def escapedCharacter? (cs : List Char) : Option (Bytes × List Char) := do
  let (b, r) ← escapedByte? cs
  let n ← width? b
  let (bs, r) ← escapedTail? (n - 1) r
  return (UInt8.ofNat b :: bs, r)

/-- The bytes of a tag name, and what follows it. -/
def uri? (verbatim : Bool) : Nat → List Char → Option (Bytes × List Char)
  | 0, _ => none
  | fuel + 1, cs =>
    match cs with
    | [] => some ([], [])
    | x :: r =>
      if x == '%' then do
        let (b, r) ← escapedCharacter? cs
        let (bs, r) ← uri? verbatim fuel r
        return (b ++ bs, r)
      else if isNameCharacter x || isUriMark verbatim x then do
        let (bs, r) ← uri? verbatim fuel r
        return (Utf8.encodeChar x ++ bs, r)
      else some ([], cs)

/-- A tag name of one byte at least. -/
def uri1? (verbatim : Bool) (cs : List Char) : Option (Bytes × List Char) :=
  (uri? verbatim (cs.length + 1) cs).filter fun r => !r.1.isEmpty

/-! ## Tags -/

/-- A tag as it is written. -/
structure Written where
  handle : Bytes
  suffix : Bytes
  deriving DecidableEq, Repr

/-- A handle at the head of a text: `!`, perhaps a name, perhaps another `!`. -/
def handle? : List Char → Option (List Char × List Char)
  | '!' :: r =>
    let name := r.takeWhile isNameCharacter
    match r.drop name.length with
    | '!' :: r => some ('!' :: name ++ ['!'], r)
    | r => some ('!' :: name, r)
  | _ => none

/-- The handle is one that a directive can define. -/
def isFull (handle : List Char) : Bool := 1 < handle.length && handle.getLast? == some '!'

/-- Reads a tag from its mark on. In a flow collection a comma may follow it. -/
def read? (flow : Bool) (c : Cursor) : Option (Written × Cursor) := do
  let (tag, rest) ← match c.rest with
    | '!' :: '<' :: r => do
      let (suffix, r) ← uri1? true r
      match r with
      | '>' :: r => some ((⟨[], suffix⟩ : Written), r)
      | _ => none
    | cs => do
      let (handle, r) ← handle? cs
      if isFull handle then do
        let (suffix, r) ← uri1? false r
        some (⟨Utf8.encode handle, suffix⟩, r)
      else do
        let (more, r) ← uri? false (r.length + 1) r
        let suffix := Utf8.encode (handle.drop 1) ++ more
        let bang := Utf8.encode ['!']
        some (if suffix.isEmpty then ⟨[], bang⟩ else ⟨bang, suffix⟩, r)
  if endsWord rest ∨ (flow ∧ rest.head? = some ',') then some (tag, c.moveTo rest) else none

end Tag

/-! ## Directives -/

/-- A line in front of a document. -/
inductive Directive where
  | version (major minor : Nat)
  /-- A handle and the start of names that it stands for. -/
  | tag (handle start : Bytes)
  deriving DecidableEq, Repr

namespace Directive

/-- A number of up to nine digits. -/
def number? (cs : List Char) : Option (Nat × List Char) :=
  let digits := cs.takeWhile Char.isDigit
  if digits.isEmpty ∨ 9 < digits.length then none
  else some (digits.foldl (fun n d => n * 10 + (d.toNat - 0x30)) 0, cs.drop digits.length)

/-- The two numbers of a version. -/
def version? (cs : List Char) : Option (Directive × List Char) := do
  let (major, r) ← number? (cs.dropWhile isGap)
  match r with
  | '.' :: r => do
    let (minor, r) ← number? r
    some (.version major minor, r)
  | _ => none

/-- A handle and the start of names. -/
def tag? (cs : List Char) : Option (Directive × List Char) := do
  let (handle, r) ← Tag.handle? (cs.dropWhile isGap)
  if (Tag.isFull handle ∨ handle = ['!']) ∧ r.head?.any isGap then
    let (start, r) ← Tag.uri1? true (r.dropWhile isGap)
    if endsWord r then some (.tag (Utf8.encode handle) start, r) else none
  else none

/-- Reads a directive from its mark on, with the rest of its line. -/
def read? (c : Cursor) : Option (Directive × Cursor) := do
  let cs := c.rest.drop 1
  let name := cs.takeWhile isNameCharacter
  let r := cs.drop name.length
  if !endsWord r then none
  else
    let (d, r) ← if name = "YAML".toList then version? r
      else if name = "TAG".toList then tag? r
      else none
    let c := ((c.moveTo r).skipGaps).skipComment
    if endsLine c.rest then some (d, c.skipBreak) else none

end Directive

end RpcGuard.Yaml
