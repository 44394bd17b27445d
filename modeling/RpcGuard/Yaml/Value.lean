import RpcGuard.Yaml.Node
import RpcGuard.Yaml.Number

/-!
# YAML values

What a document means. Plain scalars are null, booleans, numbers or else strings; other scalars are
strings. Local tags are kept, and the tags of the core types are checked on scalars. Aliases stand
for the nodes of their anchors, within limits on depth and number.
-/

namespace RpcGuard.Yaml

/-- A value. -/
inductive Value where
  | null
  | bool (b : Bool)
  | number (n : Number)
  | string (s : String)
  | sequence (items : List Value)
  | mapping (entries : List (Value × Value))
  /-- A value with a local tag. -/
  | tagged (tag : String) (value : Value)
  deriving Repr

namespace Value

/-! ## Equality -/

mutual

/-- Equality, for which the order of entries does not matter. -/
def same : Value → Value → Bool
  | null, null => true
  | bool a, bool b => a == b
  | number a, number b => a.same b
  | string a, string b => a == b
  | sequence as, sequence bs => sameItems as bs
  | mapping as, mapping bs => as.length == bs.length && sameEntries as bs
  | tagged s a, tagged t b => s == t && same a b
  | _, _ => false

def sameItems : List Value → List Value → Bool
  | [], [] => true
  | a :: as, b :: bs => same a b && sameItems as bs
  | _, _ => false

/-- Every entry has an equal one in the other list. -/
def sameEntries : List (Value × Value) → List (Value × Value) → Bool
  | [], _ => true
  | (k, v) :: es, bs => bs.any (fun (k', v') => same k k' && same v v') && sameEntries es bs

end

/-- The mapping has the key. -/
def hasKey (k : Value) (entries : List (Value × Value)) : Bool := entries.any fun e => k.same e.1

/-! ## Scalars -/

/-- The words for null. -/
def isNullWord (s : String) : Bool := s ∈ ["null", "Null", "NULL", "~"]

/-- The words for truth values. -/
def boolOf? (s : String) : Option Bool :=
  if s ∈ ["true", "True", "TRUE"] then some true
  else if s ∈ ["false", "False", "FALSE"] then some false
  else none

/-- The integer that a text spells; one of more than 64 bits is an error. -/
def ofInteger? : Integer → Option Value
  | .number n => some (.number n)
  | .large => none

/-- The meaning of a plain scalar. -/
def ofPlain? (s : String) : Option Value :=
  let cs := s.toList
  if s.isEmpty || isNullWord s then some null
  else
    match boolOf? s, integer? cs with
    | some b, _ => some (bool b)
    | none, some i => ofInteger? i
    | none, none =>
      if hasLeadingZero cs then some (string s)
      else some (((float? cs).map fun x => number (.float x)).getD (string s))

/-- The full name of a core type's tag. -/
def coreTag (name : String) : Bytes := Utf8.bytes ("tag:yaml.org,2002:" ++ name)

/-- The name of a local tag, after its mark. The mark alone is its own name. -/
def localName? : Option Bytes → Option String
  | some (b :: rest) =>
    if b = 0x21 then if rest.isEmpty then some "!" else Utf8.text? rest else none
  | _ => none

/-- The meaning of a scalar that has no local tag, or whose local tag was taken off. -/
def ofScalar? (tag : Option Bytes) (style : Style) (s : String) : Option Value :=
  let untagged := if style = .plain then ofPlain? s else some (string s)
  match tag with
  | none => untagged
  | some t =>
    if t.head? = some 0x21 then untagged
    else if t = coreTag "bool" then (boolOf? s).map bool
    else if t = coreTag "int" then (integer? s.toList).bind ofInteger?
    else if t = coreTag "float" then (float? s.toList).map fun x => number (.float x)
    else if t = coreTag "null" then if isNullWord s then some null else none
    else some (string s)

/-- The value with a local tag; a tag needs a name. One more mark in front of the name does not
count. -/
def withTag? (name : String) (v : Value) : Option Value :=
  match name.toList with
  | [] => none
  | '!' :: c :: cs => some (tagged (String.ofList (c :: cs)) v)
  | _ => some (tagged name v)

/-! ## Nodes -/

/-- Collections may lie this deep inside one another. -/
def maxDepth : Nat := 128

/-- Reads with a count of aliases followed so far. -/
abbrev Reader := StateT Nat Option

/-- The node itself, or for an alias the node that it stands for. A document may follow a hundred
aliases for each of its events. -/
def follow (d : Document) : Node → Reader Node
  | .alias n => do
    modify (· + 1)
    if d.events * 100 < (← get) then failure else d.target? n
  | node => pure node

/-- Puts a local tag back on. -/
def tagging (tag : Option Bytes) (r : Reader Value) : Reader Value := do
  let v ← r
  match localName? tag with
  | none => return v
  | some name => withTag? name v

/-- Reads the items of a list in order. -/
def readItems (read : Node → Reader Value) : List Node → Reader (List Value)
  | [] => return []
  | x :: xs => do
    let v ← read x
    return v :: (← readItems read xs)

/-- Reads the entries of a mapping in order, behind those already read. No key may come twice. -/
def readEntries (read : Node → Reader Value) :
    List (Value × Value) → List (Node × Node) → Reader (List (Value × Value))
  | done, [] => return done
  | done, (k, x) :: es => do
    let key ← read k
    if hasKey key done then failure
    else
      let v ← read x
      readEntries read (done ++ [(key, v)]) es

/-- The value of a node in which collections may lie `depth` deep. -/
def ofNode (d : Document) : Nat → Node → Reader Value
  | depth, node => do
    match ← follow d node with
    | .scalar tag style s => tagging tag (ofScalar? tag style s)
    | .sequence tag items =>
      match depth with
      | 0 => failure
      | depth + 1 => tagging tag do return sequence (← readItems (ofNode d depth) items)
    | .mapping tag entries =>
      match depth with
      | 0 => failure
      | depth + 1 => tagging tag do return mapping (← readEntries (ofNode d depth) [] entries)
    | .alias _ => failure

/-- The value of a document; an empty one is null. -/
def ofDocument? (d : Document) : Option Value :=
  match d.root with
  | none => some null
  | some root => ((ofNode d maxDepth root).run 0).map Prod.fst

/-- The value that a text writes. -/
def ofText? (s : String) : Option Value := do ofDocument? (← Document.ofText? s)

/-- The value without its tags. -/
def untagged : Value → Value
  | tagged _ v => untagged v
  | v => v

end Value

end RpcGuard.Yaml
