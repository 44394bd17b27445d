/-!
# Reading YAML texts

Classes of characters and a cursor. A line ends at a carriage return, a line feed, the two together,
or one of three Unicode separators; a line end is read as a line feed, except that the line and
paragraph separators stay as they are.
-/

namespace RpcGuard.Yaml

/-! ## Characters -/

/-- A character that a text may contain. -/
def isReadable (c : Char) : Bool :=
  let n := c.toNat
  n == 9 || n == 10 || n == 13 || (0x20 ≤ n && n ≤ 0x7E) || n == 0x85 ||
    (0xA0 ≤ n && n ≤ 0xD7FF) || (0xE000 ≤ n && n ≤ 0xFFFD) || 0x10000 ≤ n

/-- A character that ends a line. -/
def isBreak (c : Char) : Bool :=
  let n := c.toNat
  n == 10 || n == 13 || n == 0x85 || n == 0x2028 || n == 0x2029

/-- A space or a tab. -/
def isGap (c : Char) : Bool := c == ' ' || c == '\t'

/-- A character of names: of anchors, tag handles and directives. -/
def isNameCharacter (c : Char) : Bool := c.isAlphanum || c == '_' || c == '-'

/-- The text is at an end, at the end of a line, or at a space or tab. -/
def endsWord : List Char → Bool
  | [] => true
  | c :: _ => isGap c || isBreak c

/-- The text is at an end or at the end of a line. -/
def endsLine : List Char → Bool
  | [] => true
  | c :: _ => isBreak c

/-! ## The cursor -/

/-- The number of bytes that characters are written in. -/
def byteCount (cs : List Char) : Nat := cs.foldl (fun n c => n + c.utf8Size) 0

/-- A place in a text: the text from there on, the number of bytes before it, and the line and
column. -/
structure Cursor where
  rest : List Char
  index : Nat := 0
  line : Nat := 0
  column : Nat := 0
  deriving Repr

namespace Cursor

/-- The cursor `n` characters further, none of which ends a line. -/
def advance (c : Cursor) (n : Nat) : Cursor :=
  { rest := c.rest.drop n
    index := c.index + byteCount (c.rest.take n)
    line := c.line
    column := c.column + n }

/-- The cursor at `rest`, an end of its text that lies on the same line. -/
def moveTo (c : Cursor) (rest : List Char) : Cursor := c.advance (c.rest.length - rest.length)

/-- The cursor after a line end, and how the line end is read. -/
def takeBreak (c : Cursor) : Option (Char × Cursor) :=
  let next (n : Nat) (rest : List Char) : Cursor := ⟨rest, c.index + n, c.line + 1, 0⟩
  match c.rest with
  | '\r' :: '\n' :: rest => some ('\n', next 2 rest)
  | x :: rest =>
    if !isBreak x then none
    else if x.toNat = 0x2028 ∨ x.toNat = 0x2029 then some (x, next x.utf8Size rest)
    else some ('\n', next x.utf8Size rest)
  | [] => none

/-- The cursor after a line end, if it is at one. -/
def skipBreak (c : Cursor) : Cursor :=
  match c.takeBreak with
  | some (_, c) => c
  | none => c

/-- The cursor after a byte order mark, if it is at one at the start of a line. -/
def skipByteOrderMark (c : Cursor) : Cursor :=
  match c.rest with
  | x :: _ => if c.column == 0 && x.toNat == 0xFEFF then c.advance 1 else c
  | [] => c

/-- The cursor after all spaces and tabs. -/
def skipGaps (c : Cursor) : Cursor := c.moveTo (c.rest.dropWhile isGap)

/-- The cursor at the end of the line. -/
def skipLine (c : Cursor) : Cursor := c.moveTo (c.rest.dropWhile fun x => !isBreak x)

/-- The cursor at the end of the line if it is at a comment. -/
def skipComment (c : Cursor) : Cursor :=
  match c.rest with
  | '#' :: _ => c.skipLine
  | _ => c

/-- The cursor is at the start of a line that separates documents. -/
def atDocumentMark (c : Cursor) : Bool :=
  c.column == 0 &&
    match c.rest with
    | '-' :: '-' :: '-' :: r => endsWord r
    | '.' :: '.' :: '.' :: r => endsWord r
    | _ => false

/-- Fuel for loops that move the cursor. -/
def fuel (c : Cursor) : Nat := c.rest.length + 1

end Cursor

end RpcGuard.Yaml
