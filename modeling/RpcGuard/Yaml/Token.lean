import RpcGuard.Yaml.Scalar
import RpcGuard.Yaml.Tag

/-!
# Tokens

The tokens of a text. Indentation opens and closes block collections, and a colon makes a key of
what stands before it on the line: where a key may begin, the place is remembered, and the marks of
the key are put there when the colon is found.
-/

namespace RpcGuard.Yaml

/-- A token. -/
inductive Token where
  | ended
  | directive (d : Directive)
  | documentStart
  | documentEnd
  | blockSequence
  | blockMapping
  | blockEnd
  | flowSequence
  | flowSequenceEnd
  | flowMapping
  | flowMappingEnd
  | blockEntry
  | flowEntry
  | key
  | value
  | alias (name : String)
  | anchor (name : String)
  | tag (t : Tag.Written)
  | scalar (style : Style) (text : String)
  deriving DecidableEq, Repr

/-- A place where a key may begin. -/
structure KeyPlace where
  /-- The place is where the mapping around it needs a key. -/
  required : Bool
  /-- The number of tokens before it. -/
  number : Nat
  index : Nat
  line : Nat
  column : Nat
  deriving Repr

/-- What is known between two tokens. -/
structure Scanner where
  cursor : Cursor
  /-- The tokens so far, the latest first. -/
  tokens : List Token := []
  count : Nat := 0
  indent : Int := -1
  /-- The indentations around the current one, the innermost first. -/
  indents : List Int := []
  keyAllowed : Bool := true
  /-- The place of a key outside flow collections. -/
  blockKey : Option KeyPlace := none
  /-- The places of keys in the flow collections around, the innermost first. -/
  flowKeys : List (Option KeyPlace) := []
  deriving Repr

namespace Scanner

/-- The scanner is in a flow collection. -/
def inFlow (s : Scanner) : Bool := !s.flowKeys.isEmpty

/-- Adds a token. -/
def push (s : Scanner) (t : Token) : Scanner :=
  { s with tokens := t :: s.tokens, count := s.count + 1 }

/-- Puts a token behind the first `n`. -/
def insert (s : Scanner) (n : Nat) (t : Token) : Scanner :=
  let later := s.count - n
  { s with tokens := s.tokens.take later ++ t :: s.tokens.drop later, count := s.count + 1 }

/-! ## Keys -/

/-- The place of a key in the innermost collection. -/
def key? (s : Scanner) : Option KeyPlace :=
  match s.flowKeys with
  | k :: _ => k
  | [] => s.blockKey

/-- Sets the place of a key in the innermost collection. -/
def setKey (s : Scanner) (k : Option KeyPlace) : Scanner :=
  match s.flowKeys with
  | _ :: ks => { s with flowKeys := k :: ks }
  | [] => { s with blockKey := k }

/-- A key must end on its line, and within 1024 bytes. -/
def isStale (c : Cursor) (k : KeyPlace) : Bool := k.line < c.line || k.index + 1024 < c.index

/-- Forgets a place that no key can begin at any more; an error if one had to. -/
def dropStale? (c : Cursor) : Option KeyPlace → Option (Option KeyPlace)
  | none => some none
  | some k => if isStale c k then (if k.required then none else some none) else some (some k)

/-- Forgets all such places. -/
def dropStaleKeys? (s : Scanner) : Option Scanner := do
  let blockKey ← dropStale? s.cursor s.blockKey
  let flowKeys ← s.flowKeys.mapM (dropStale? s.cursor)
  return { s with blockKey, flowKeys }

/-- Forgets the place of a key in the innermost collection; an error if one had to begin there. -/
def dropKey? (s : Scanner) : Option Scanner :=
  if s.key?.any (·.required) then none else some (s.setKey none)

/-- Remembers that a key may begin here. -/
def saveKey? (s : Scanner) : Option Scanner :=
  if s.keyAllowed then do
    let c := s.cursor
    let required := !s.inFlow && s.indent == c.column
    let s ← s.dropKey?
    return s.setKey (some ⟨required, s.count, c.index, c.line, c.column⟩)
  else some s

/-! ## Indentation -/

/-- Opens a block collection at a column that lies deeper than the current indentation. -/
def openBlock (s : Scanner) (column number : Nat) (t : Token) : Scanner :=
  if s.inFlow ∨ (column : Int) ≤ s.indent then s
  else { s.insert number t with indents := s.indent :: s.indents, indent := column }

/-- Closes the block collections that lie deeper than a column. -/
def closeBlocks (s : Scanner) (column : Int) : Scanner :=
  if s.inFlow then s
  else
    let rec go (s : Scanner) : List Int → Scanner
      | [] => if column < s.indent then { s.push .blockEnd with indent := -1 } else s
      | i :: is =>
        if column < s.indent then go { s.push .blockEnd with indent := i, indents := is } is
        else s
    go s s.indents

/-! ## Tokens -/

/-- The cursor after spaces and a comment. A tab counts as a space where no key may begin. -/
def skipInLine (s : Scanner) : Cursor :=
  let c := s.cursor.skipByteOrderMark
  let tabs := s.inFlow || !s.keyAllowed
  (c.moveTo (c.rest.dropWhile fun x => x == ' ' || (tabs && x == '\t'))).skipComment

/-- Skips spaces, comments and empty lines. -/
def skipToToken : Nat → Scanner → Scanner
  | 0, s => s
  | fuel + 1, s =>
    let c := s.skipInLine
    match c.takeBreak with
    | some (_, c) =>
      skipToToken fuel { s with cursor := c, keyAllowed := s.keyAllowed || !s.inFlow }
    | none => { s with cursor := c }

/-- Adds a token of `n` characters. -/
def take (s : Scanner) (n : Nat) (t : Token) : Scanner :=
  { s with cursor := s.cursor.advance n }.push t

/-- Ends all block collections before a line that belongs to no document. -/
def leaveDocument? (s : Scanner) : Option Scanner := do
  let s ← (s.closeBlocks (-1)).dropKey?
  return { s with keyAllowed := false }

/-- The mark of an entry of a block sequence. -/
def blockEntry? (s : Scanner) : Option Scanner := do
  if !s.inFlow ∧ !s.keyAllowed then none
  else
    let s ← (s.openBlock s.cursor.column s.count .blockSequence).dropKey?
    return { s with keyAllowed := true }.take 1 .blockEntry

/-- The mark of a key. -/
def keyMark? (s : Scanner) : Option Scanner := do
  if !s.inFlow ∧ !s.keyAllowed then none
  else
    let s ← (s.openBlock s.cursor.column s.count .blockMapping).dropKey?
    return { s with keyAllowed := !s.inFlow }.take 1 .key

/-- The mark of a value. What stands before it becomes a key if one may begin there. -/
def valueMark? (s : Scanner) : Option Scanner :=
  match s.key? with
  | some k =>
    let s := (s.insert k.number .key).openBlock k.column k.number .blockMapping
    some ({ s.setKey none with keyAllowed := false }.take 1 .value)
  | none =>
    if s.inFlow then some ({ s with keyAllowed := false }.take 1 .value)
    else if !s.keyAllowed then none
    else
      some ({ s.openBlock s.cursor.column s.count .blockMapping with keyAllowed := true }.take 1
        .value)

/-- The start of a flow collection. -/
def openFlow? (s : Scanner) (t : Token) : Option Scanner := do
  let s ← s.saveKey?
  return { s with flowKeys := none :: s.flowKeys, keyAllowed := true }.take 1 t

/-- The end of a flow collection. -/
def closeFlow? (s : Scanner) (t : Token) : Option Scanner := do
  let s ← s.dropKey?
  return { s with flowKeys := s.flowKeys.drop 1, keyAllowed := false }.take 1 t

/-- A token in front of a node, or a node, where a key may begin. -/
def node? (s : Scanner) (read : Cursor → Option (Token × Cursor)) : Option Scanner := do
  let s ← s.saveKey?
  let (t, c) ← read s.cursor
  return { s with cursor := c, keyAllowed := false }.push t

/-- A block scalar. -/
def blockScalar? (s : Scanner) (literal : Bool) : Option Scanner := do
  let s ← s.dropKey?
  let (text, c) ← Scalar.block? literal s.indent s.cursor
  let style : Style := if literal then .literal else .quoted
  return { s with cursor := c, keyAllowed := true }.push (.scalar style (String.ofList text))

/-- A quoted scalar. -/
def quotedScalar? (s : Scanner) (quote : Char) : Option Scanner :=
  s.node? fun c => do
    let c := c.advance 1
    let (text, c) ← Scalar.quoted? quote c.fuel c
    return (.scalar .quoted (String.ofList text), c)

/-- A plain scalar. If a line ended behind it, a key may begin. -/
def plainScalar? (s : Scanner) : Option Scanner := do
  let s ← s.saveKey?
  let (text, c, broken) ← Scalar.plain? s.inFlow (s.indent + 1).toNat s.cursor.fuel {} s.cursor
  return { s with cursor := c, keyAllowed := broken }.push (.scalar .plain (String.ofList text))

/-- Characters that no plain scalar begins with. -/
def isMark (c : Char) : Bool := "-?:,[]\x7b\x7d#&*!|>'\"%@\x60".toList.contains c

/-- Reads the next token from its first character on. -/
def token? (s : Scanner) : Option Scanner :=
  let c := s.cursor
  match c.rest with
  | [] => none
  | x :: r =>
    let startsWord := !endsWord r
    if c.column = 0 ∧ x = '%' then do
      let s ← s.leaveDocument?
      let (d, c) ← Directive.read? c
      return { s with cursor := c }.push (.directive d)
    else if c.atDocumentMark then do
      let s ← s.leaveDocument?
      return s.take 3 (if x = '-' then .documentStart else .documentEnd)
    else if x = '[' then s.openFlow? .flowSequence
    else if x = '{' then s.openFlow? .flowMapping
    else if x = ']' then s.closeFlow? .flowSequenceEnd
    else if x = '}' then s.closeFlow? .flowMappingEnd
    else if x = ',' then do return { ← s.dropKey? with keyAllowed := true }.take 1 .flowEntry
    else if x = '-' ∧ !startsWord then s.blockEntry?
    else if x = '?' ∧ (s.inFlow ∨ !startsWord) then s.keyMark?
    else if x = ':' ∧ (s.inFlow ∨ !startsWord) then s.valueMark?
    else if x = '*' then s.node? fun c => do
      let (name, c) ← anchorName? (c.advance 1)
      return (.alias name, c)
    else if x = '&' then s.node? fun c => do
      let (name, c) ← anchorName? (c.advance 1)
      return (.anchor name, c)
    else if x = '!' then s.node? fun c => do
      let (t, c) ← Tag.read? s.inFlow c
      return (.tag t, c)
    else if x = '|' ∧ !s.inFlow then s.blockScalar? true
    else if x = '>' ∧ !s.inFlow then s.blockScalar? false
    else if x = '\'' ∨ x = '"' then s.quotedScalar? x
    else if !(isGap x || isBreak x || isMark x) ∨ (x = '-' ∧ startsWord) ∨
        (!s.inFlow ∧ (x = '?' ∨ x = ':') ∧ startsWord) then s.plainScalar?
    else none

/-- Ends the text: all block collections end, and no key may be missing. -/
def finish? (s : Scanner) : Option Scanner := do
  let s ← (s.closeBlocks (-1)).dropKey?
  return s.push .ended

/-- Reads tokens up to the end of the text. -/
def run? : Nat → Scanner → Option Scanner
  | 0, _ => none
  | fuel + 1, s => do
    let s ← (skipToToken s.cursor.fuel s).dropStaleKeys?
    let s := s.closeBlocks s.cursor.column
    if s.cursor.rest.isEmpty then s.finish? else run? fuel (← s.token?)

end Scanner

/-- The tokens of a text. -/
def Token.ofText? (cs : List Char) : Option (List Token) :=
  if cs.all isReadable then
    let c : Cursor := { rest := cs }
    (Scanner.run? (c.fuel + 1) { cursor := c }).map fun s => s.tokens.reverse
  else none

end RpcGuard.Yaml
