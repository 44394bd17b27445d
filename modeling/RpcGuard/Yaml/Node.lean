import RpcGuard.Yaml.Token

/-!
# Nodes

The tree that a text writes: scalars as text, collections with their tags, and aliases as the
numbers of what they stand for. A text holds one document.

An anchor is numbered when its node begins, by the number of different names so far. A name that is
given again gets a new number, which the next new name will then share; a number stands for the
last node that was given it.
-/

namespace RpcGuard.Yaml

/-- A node. -/
inductive Node where
  | scalar (tag : Option Bytes) (style : Style) (text : String)
  | sequence (tag : Option Bytes) (items : List Node)
  | mapping (tag : Option Bytes) (entries : List (Node × Node))
  | alias (target : Nat)
  deriving Repr

/-- A node with an anchor: the number of the anchor, and the number of events before the node. -/
structure Anchored where
  number : Nat
  start : Nat
  node : Node
  deriving Repr

/-- A document. Without a root the text is empty. -/
structure Document where
  root : Option Node
  anchored : List Anchored
  /-- The number of scalars and aliases and of the starts and ends of collections. -/
  events : Nat
  deriving Repr

namespace Node

/-- What is known between two nodes. -/
structure Draft where
  tokens : List Token
  /-- What the handles of tags stand for. -/
  handles : List (Bytes × Bytes)
  events : Nat := 0
  /-- The numbers of the anchors' names. -/
  names : List (String × Nat) := []
  anchored : List Anchored := []

/-- A step of reading. -/
abbrev Step := StateT Draft Option

/-- The next token. -/
def peek : Step Token := do
  match (← get).tokens with
  | t :: _ => return t
  | [] => failure

/-- Passes over a token. -/
def skip : Step Unit := modify fun d => { d with tokens := d.tokens.drop 1 }

/-- Counts an event. -/
def event : Step Unit := modify fun d => { d with events := d.events + 1 }

/-- The node where none is written. -/
def absent : Step Node := do
  event
  return .scalar none .plain ""

/-- Anchor and tag in front of a node, in either order. -/
def properties : Step (Option String × Option Tag.Written) := do
  match ← peek with
  | .anchor name =>
    skip
    match ← peek with
    | .tag t => skip; return (some name, some t)
    | _ => return (some name, none)
  | .tag t =>
    skip
    match ← peek with
    | .anchor name => skip; return (some name, some t)
    | _ => return (none, some t)
  | _ => return (none, none)

/-- The full name of a tag. -/
def tagName (t : Tag.Written) : Step Bytes := do
  if t.handle.isEmpty then return t.suffix
  else
    match (← get).handles.lookup t.handle with
    | some start => return start ++ t.suffix
    | none => failure

/-- Numbers an anchor. -/
def number (name : String) : Step Nat := do
  let d ← get
  let n := d.names.length
  let rest := d.names.filter fun p => p.1 ≠ name
  set { d with names := (name, n) :: rest }
  return n

/-- Tokens that end an entry of a block collection, besides `blockEnd`. -/
def endsEntry : Token → Bool
  | .key | .value | .blockEnd => true
  | _ => false

mutual

/-- Reads a node. Block collections are allowed if `block`, and the entries of a sequence that is
not indented if `indentless`. -/
def read : Nat → (block indentless : Bool) → Step Node
  | 0, _, _ => failure
  | fuel + 1, block, indentless => do
    match ← peek with
    | .alias name =>
      match (← get).names.lookup name with
      | some n => skip; event; return .alias n
      | none => failure
    | _ =>
      let (anchor, written) ← properties
      let tag ← written.mapM tagName
      let start := (← get).events
      let n ← anchor.mapM number
      let node ← content fuel block indentless tag (anchor.isSome || written.isSome)
      match n with
      | some n => modify fun d => { d with anchored := ⟨n, start, node⟩ :: d.anchored }
      | none => pure ()
      return node

/-- Reads a node after its properties; if it has any, nothing more need be written. -/
def content : Nat → (block indentless : Bool) → Option Bytes → Bool → Step Node
  | 0, _, _, _, _ => failure
  | fuel + 1, block, indentless, tag, marked => do
    let sequence (items : Step (List Node)) : Step Node := do
      event
      let xs ← items
      event
      return .sequence tag xs
    let mapping (entries : Step (List (Node × Node))) : Step Node := do
      event
      let es ← entries
      event
      return .mapping tag es
    match ← peek, block, indentless with
    | .blockEntry, _, true => sequence (indentlessItems fuel)
    | .scalar style text, _, _ =>
      skip
      event
      return .scalar tag style text
    | .flowSequence, _, _ => skip; sequence (flowItems fuel true)
    | .flowMapping, _, _ => skip; mapping (flowEntries fuel true)
    | .blockSequence, true, _ => skip; sequence (blockItems fuel)
    | .blockMapping, true, _ => skip; mapping (blockEntries fuel)
    | _, _, _ =>
      if marked then
        event
        return .scalar tag .plain ""
      else failure

/-- Reads the items of a block sequence, up to its end. -/
def blockItems : Nat → Step (List Node)
  | 0 => failure
  | fuel + 1 => do
    match ← peek with
    | .blockEntry =>
      skip
      let x ← match ← peek with
        | .blockEntry | .blockEnd => absent
        | _ => read fuel true false
      return x :: (← blockItems fuel)
    | .blockEnd => skip; return []
    | _ => failure

/-- Reads the items of a sequence that is not indented. -/
def indentlessItems : Nat → Step (List Node)
  | 0 => failure
  | fuel + 1 => do
    match ← peek with
    | .blockEntry =>
      skip
      let next ← peek
      let x ← if next = .blockEntry ∨ endsEntry next then absent else read fuel true false
      return x :: (← indentlessItems fuel)
    | _ => return []

/-- Reads the entries of a block mapping, up to its end. -/
def blockEntries : Nat → Step (List (Node × Node))
  | 0 => failure
  | fuel + 1 => do
    match ← peek with
    | .key =>
      skip
      let k ← if endsEntry (← peek) then absent else read fuel true true
      let v ← match ← peek with
        | .value => skip; if endsEntry (← peek) then absent else read fuel true true
        | _ => absent
      return (k, v) :: (← blockEntries fuel)
    | .blockEnd => skip; return []
    | _ => failure

/-- Reads the items of a flow sequence, up to its end. An item may be a single pair, which is a
mapping. If the key of a pair is missing, the token in its place is passed over. -/
def flowItems : Nat → Bool → Step (List Node)
  | 0, _ => failure
  | fuel + 1, first => do
    if (← peek) = .flowSequenceEnd then skip; return []
    else
      unless first do
        if (← peek) = .flowEntry then skip else failure
      match ← peek with
      | .flowSequenceEnd => skip; return []
      | .key =>
        skip
        event
        let k ← match ← peek with
          | .value | .flowEntry | .flowSequenceEnd => skip; absent
          | _ => read fuel false false
        let v ← match ← peek with
          | .value =>
            skip
            match ← peek with
            | .flowEntry | .flowSequenceEnd => absent
            | _ => read fuel false false
          | _ => absent
        event
        return .mapping none [(k, v)] :: (← flowItems fuel false)
      | _ =>
        let x ← read fuel false false
        return x :: (← flowItems fuel false)

/-- Reads the entries of a flow mapping, up to its end. -/
def flowEntries : Nat → Bool → Step (List (Node × Node))
  | 0, _ => failure
  | fuel + 1, first => do
    if (← peek) = .flowMappingEnd then skip; return []
    else
      unless first do
        if (← peek) = .flowEntry then skip else failure
      match ← peek with
      | .flowMappingEnd => skip; return []
      | .key =>
        skip
        let k ← match ← peek with
          | .value | .flowEntry | .flowMappingEnd => absent
          | _ => read fuel false false
        let v ← match ← peek with
          | .value =>
            skip
            match ← peek with
            | .flowEntry | .flowMappingEnd => absent
            | _ => read fuel false false
          | _ => absent
        return (k, v) :: (← flowEntries fuel false)
      | _ =>
        let k ← read fuel false false
        let v ← absent
        return (k, v) :: (← flowEntries fuel false)

end

end Node

namespace Document

/-- The handles that stand for something without a directive. -/
def defaultHandles : List (Bytes × Bytes) :=
  [(Utf8.encode ['!'], Utf8.encode ['!']),
    (Utf8.encode ['!', '!'], Utf8.encode "tag:yaml.org,2002:".toList)]

/-- The directives at the head of the tokens, and what follows them. -/
def directives : List Token → List Directive × List Token
  | .directive d :: ts => let (ds, r) := directives ts; (d :: ds, r)
  | ts => ([], ts)

/-- The handles that directives define. There may be one version, 1.1 or 1.2, and one definition of
each handle. -/
def handles? : Bool → List Directive → Option (List (Bytes × Bytes))
  | _, [] => some []
  | versioned, .version major minor :: ds =>
    if versioned ∨ major ≠ 1 ∨ (minor ≠ 1 ∧ minor ≠ 2) then none else handles? true ds
  | versioned, .tag handle start :: ds => do
    let more ← handles? versioned ds
    if (more.lookup handle).isSome then none else some ((handle, start) :: more)

/-- Nothing is written in a document that begins with this token. -/
def isEmptyBefore : Token → Bool
  | .directive _ | .documentStart | .documentEnd | .ended => true
  | _ => false

/-- Only marks of a document's end follow. -/
def isOver (ts : List Token) : Bool :=
  match ts.dropWhile (· == .documentEnd) with
  | [.ended] => true
  | _ => false

/-- The document that tokens write. -/
def ofTokens? (ts : List Token) : Option Document :=
  match ts with
  | [.ended] => some ⟨none, [], 1⟩
  | _ => do
    let (ds, rest) := directives ts
    let (body, explicit) ← match rest with
      | .documentStart :: r => some (r, true)
      | r => if ds.isEmpty then some (r, false) else none
    let draft : Node.Draft := { tokens := body, handles := (← handles? false ds) ++ defaultHandles }
    let step : Node.Step Node := do
      if explicit && isEmptyBefore (← Node.peek) then Node.absent
      else Node.read (4 * ts.length + 4) true false
    let (root, draft) ← step.run draft
    if isOver draft.tokens then some ⟨some root, draft.anchored, draft.events⟩ else none

/-- The document that a text writes. -/
def ofText? (s : String) : Option Document := do ofTokens? (← Token.ofText? s.toList)

/-- The node that an anchor's number stands for: of those with the number, the one that begins
last. -/
def target? (d : Document) (n : Nat) : Option Node :=
  let last (best : Option Anchored) (a : Anchored) : Option Anchored :=
    if a.number = n ∧ best.all (·.start < a.start) then some a else best
  (d.anchored.foldl last none).map (·.node)

end Document

end RpcGuard.Yaml
