import RpcGuard.Text.Digits
import RpcGuard.Yaml.Cursor

/-!
# Scalars

The three ways to write a scalar: plain, between quotes, and as an indented block. Within plain and
quoted scalars a line end counts as a space, and further line ends count as themselves.
-/

namespace RpcGuard.Yaml

/-- How a scalar is written, as far as its meaning depends on it. -/
inductive Style where
  | plain
  /-- Between quotes of either kind, or as a folded block. -/
  | quoted
  /-- As a block whose line ends are kept. -/
  | literal
  deriving DecidableEq, Repr

namespace Scalar

/-! ## Gaps between words -/

/-- What stands between two words: spaces and tabs up to the first line end, or line ends. -/
structure Gap where
  blanks : List Char := []
  breaks : List Char := []
  deriving Repr

/-- The text that a gap stands for. -/
def Gap.text (g : Gap) : List Char :=
  match g.breaks with
  | [] => g.blanks
  | ['\n'] => [' ']
  | '\n' :: more => more
  | breaks => breaks

/-- Reads a gap. After a line end, a tab before column `limit` is an error. -/
def gap? (limit : Nat) : Nat → Bool → Cursor → Option (Gap × Cursor)
  | 0, _, c => some ({}, c)
  | fuel + 1, broken, c =>
    match c.rest with
    | [] => some ({}, c)
    | x :: _ =>
      if isGap x then
        if broken ∧ x = '\t' ∧ c.column < limit then none
        else do
          let (g, c) ← gap? limit fuel broken (c.advance 1)
          return (if broken ∨ !g.breaks.isEmpty then { g with blanks := [] }
            else { g with blanks := x :: g.blanks }, c)
      else
        match c.takeBreak with
        | none => some ({}, c)
        | some (b, c) => do
          let (g, c) ← gap? limit fuel true c
          return (⟨[], b :: g.breaks⟩, c)

/-! ## Plain scalars -/

/-- Characters that end a plain scalar in a flow collection. -/
def isFlowMark (c : Char) : Bool := c == ',' || c == '[' || c == ']' || c == '{' || c == '}'

/-- A word of a plain scalar, and what follows. In a flow collection, a colon before a mark of the
collection is an error. -/
def plainWord? (flow : Bool) : List Char → Option (List Char × List Char)
  | [] => some ([], [])
  | x :: r =>
    if isGap x || isBreak x then some ([], x :: r)
    else
      let next := r.head?
      if flow && x == ':' && next.any (fun y => isFlowMark y || y == '?') then none
      else if (x == ':' && endsWord r) || (flow && isFlowMark x) then some ([], x :: r)
      else (plainWord? flow r).map fun (w, r) => (x :: w, r)

/-- Reads words and gaps from the first word on: the text, the cursor, and whether a line ended
after the last word. Lines before column `indent` end the scalar, except in a flow collection. -/
def plain? (flow : Bool) (indent : Nat) : Nat → Gap → Cursor → Option (List Char × Cursor × Bool)
  | 0, _, _ => none
  | fuel + 1, before, c =>
    let ended : Option (List Char × Cursor × Bool) := some ([], c, !before.breaks.isEmpty)
    if c.atDocumentMark || c.rest.head? == some '#' then ended
    else do
      let (word, rest) ← plainWord? flow c.rest
      if word.isEmpty then ended
      else
        let c := c.moveTo rest
        match rest with
        | [] => return (before.text ++ word, c, false)
        | x :: _ =>
          if !(isGap x || isBreak x) then return (before.text ++ word, c, false)
          else
            let (g, c) ← gap? indent c.fuel false c
            if !flow ∧ c.column < indent then return (before.text ++ word, c, !g.breaks.isEmpty)
            else
              let (text, c, broken) ← plain? flow indent fuel g c
              return (before.text ++ word ++ text, c, broken)

/-! ## Quoted scalars -/

/-- The character of an escape with a letter. -/
def escape? (c : Char) : Option Char :=
  match c with
  | '0' => some (Char.ofNat 0)
  | 'a' => some (Char.ofNat 7)
  | 'b' => some (Char.ofNat 8)
  | 't' | '\t' => some '\t'
  | 'n' => some '\n'
  | 'v' => some (Char.ofNat 11)
  | 'f' => some (Char.ofNat 12)
  | 'r' => some '\r'
  | 'e' => some (Char.ofNat 27)
  | ' ' | '"' | '/' | '\\' => some c
  | 'N' => some (Char.ofNat 0x85)
  | '_' => some (Char.ofNat 0xA0)
  | 'L' => some (Char.ofNat 0x2028)
  | 'P' => some (Char.ofNat 0x2029)
  | _ => none

/-- The number of digits of a numeric escape. -/
def escapeLength? (c : Char) : Option Nat :=
  match c with
  | 'x' => some 2
  | 'u' => some 4
  | 'U' => some 8
  | _ => none

/-- The character that hexadecimal digits name. -/
def charOfHex? (digits : List Char) : Option Char := do
  let n ← Digits.number? 16 digits
  if (0xD800 ≤ n ∧ n ≤ 0xDFFF) ∨ 0x10FFFF < n then none else some (Char.ofNat n)

/-- A word of a single-quoted scalar: up to a gap, a closing quote or the end. -/
def singleWord : List Char → List Char × List Char
  | '\'' :: '\'' :: r => let (w, r) := singleWord r; ('\'' :: w, r)
  | x :: r =>
    if x == '\'' || isGap x || isBreak x then ([], x :: r)
    else let (w, r) := singleWord r; (x :: w, r)
  | [] => ([], [])

/-- A word of a double-quoted scalar: up to a gap, a closing quote, an escaped line end or the
end. -/
def doubleWord? : Nat → List Char → Option (List Char × List Char)
  | 0, _ => none
  | _, [] => some ([], [])
  | fuel + 1, x :: r =>
    if x == '"' || isGap x || isBreak x then some ([], x :: r)
    else if x == '\\' then
      match r with
      | [] => none
      | y :: s =>
        if isBreak y then some ([], x :: r)
        else
          match escapeLength? y with
          | some n => do
            if s.length < n then none
            else
              let z ← charOfHex? (s.take n)
              let (w, t) ← doubleWord? fuel (s.drop n)
              return (z :: w, t)
          | none => do
            let z ← escape? y
            let (w, t) ← doubleWord? fuel s
            return (z :: w, t)
    else (doubleWord? fuel r).map fun (w, t) => (x :: w, t)

/-- Reads a quoted scalar from after its opening quote. An escaped line end stands for nothing, and
further line ends after it for themselves. -/
def quoted? (quote : Char) : Nat → Cursor → Option (List Char × Cursor)
  | 0, _ => none
  | fuel + 1, c =>
    if c.atDocumentMark ∨ c.rest.isEmpty then none
    else do
      let (word, rest) ← if quote = '\'' then some (singleWord c.rest)
        else doubleWord? c.fuel c.rest
      let c := c.moveTo rest
      if rest.head? = some quote then return (word, c.advance 1)
      else
        let (gap, c) ← match rest with
          | '\\' :: _ => do
            let (g, c) ← gap? 0 c.fuel true (c.advance 1).skipBreak
            pure (g.breaks, c)
          | _ => do
            let (g, c) ← gap? 0 c.fuel false c
            pure (g.text, c)
        let (text, c) ← quoted? quote fuel c
        return (word ++ gap ++ text, c)

/-! ## Block scalars -/

/-- What becomes of the line ends behind a block. -/
inductive Chomping where
  /-- All are dropped. -/
  | strip
  /-- One is kept. -/
  | clip
  /-- All are kept. -/
  | keep
  deriving DecidableEq, Repr

/-- Skips empty lines and indentation: the line ends, the largest column seen, and the cursor. While
the indentation is not known, all spaces count as indentation. -/
def emptyLines? (indent : Nat) : Nat → Nat → Cursor → Option (List Char × Nat × Cursor)
  | 0, _, _ => none
  | fuel + 1, widest, c =>
    let spaces := (c.rest.takeWhile (· == ' ')).length
    let c := c.advance (if indent = 0 then spaces else min spaces (indent - c.column))
    let widest := max widest c.column
    if (indent = 0 ∨ c.column < indent) ∧ c.rest.head? = some '\t' then none
    else
      match c.takeBreak with
      | none => some ([], widest, c)
      | some (b, c) => do
        let (breaks, widest, c) ← emptyLines? indent fuel widest c
        return (b :: breaks, widest, c)

/-- The lines of a block from the first on: the text up to the last line end, that line end, and
the line ends behind it. `leading` is the line end before the line, `breaks` the empty lines before
it, and `blank` says whether the line before begins with a space or tab. -/
def blockLines? (literal : Bool) (indent : Nat) :
    Nat → (leading breaks : List Char) → Bool → Cursor →
      Option (List Char × List Char × List Char × Cursor)
  | 0, _, _, _, _ => none
  | fuel + 1, leading, breaks, blank, c =>
    if c.column ≠ indent ∨ c.rest.isEmpty then some ([], leading, breaks, c)
    else do
      let startsBlank := c.rest.head?.any isGap
      let joint :=
        if !literal && leading == ['\n'] && !blank && !startsBlank then
          if breaks.isEmpty then [' '] else breaks
        else leading ++ breaks
      let line := c.rest.takeWhile fun x => !isBreak x
      let c := c.advance line.length
      let (next, c) := match c.takeBreak with
        | some (b, c) => ([b], c)
        | none => ([], c)
      let (breaks, _, c) ← emptyLines? indent c.fuel 0 c
      let (text, last, behind, c) ← blockLines? literal indent fuel next breaks startsBlank c
      return (joint ++ line ++ text, last, behind, c)

/-- The chomping and the indentation that stand behind the mark of a block, in either order. -/
def blockHeader? (cs : List Char) : Option (Chomping × Nat × List Char) :=
  let chomping (cs : List Char) : Option (Chomping × List Char) :=
    match cs with
    | '+' :: r => some (.keep, r)
    | '-' :: r => some (.strip, r)
    | _ => none
  let increment? (cs : List Char) : Option (Nat × List Char) :=
    match cs with
    | d :: r =>
      if d.isDigit then (if d = '0' then none else some (d.toNat - 0x30, r)) else some (0, cs)
    | [] => some (0, cs)
  match chomping cs with
  | some (chomp, r) => do
    let (n, r) ← increment? r
    return (chomp, n, r)
  | none => do
    let (n, r) ← increment? cs
    match chomping r with
    | some (chomp, r) => return (chomp, n, r)
    | none => return (.clip, n, r)

/-- Reads a block scalar from its mark on. `parent` is the indentation around it. -/
def block? (literal : Bool) (parent : Int) (c : Cursor) : Option (List Char × Cursor) := do
  let c := c.advance 1
  let (chomp, increment, rest) ← blockHeader? c.rest
  let c := ((c.moveTo rest).skipGaps).skipComment
  if !endsLine c.rest then none
  else
    let c := c.skipBreak
    let given : Nat := if increment = 0 then 0 else (max parent 0).toNat + increment
    let (breaks, widest, c) ← emptyLines? given c.fuel 0 c
    let indent := if given = 0 then max (max widest (parent + 1).toNat) 1 else given
    let (text, last, behind, c) ← blockLines? literal indent c.fuel [] breaks false c
    let tail := match chomp with
      | .strip => []
      | .clip => last
      | .keep => last ++ behind
    return (text ++ tail, c)

end Scalar

end RpcGuard.Yaml
