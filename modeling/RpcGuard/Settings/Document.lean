import RpcGuard.Dictionary
import RpcGuard.Settings.Keys
import RpcGuard.Yaml.Value

/-!
# Settings from a document

Settings read from a document as it is written. A text setting takes any scalar by its letters, so
that `5` is a text here; a plain scalar that is empty or a word for null leaves it out.
-/

namespace RpcGuard.Settings

open Yaml

-- Powers of naturals are those of the core library, whatever else is imported.
attribute [local instance (high)] instPowNat

namespace Written

variable (d : Document)

/-- The node that a node stands for. -/
def follow? : Node → Option Node
  | .alias n => d.target? n
  | node => some node

/-- The letters of a scalar. -/
def letters? (node : Node) : Option String := do
  match ← follow? d node with
  | .scalar _ _ s => some s
  | _ => none

/-- A text setting. -/
def text? (node : Node) : Option (Option String) := do
  match ← follow? d node with
  | .scalar tag .plain s =>
    match tag with
    | some t =>
      if t = Value.coreTag "null" then if Value.isNullWord s then some none else none
      else some (some s)
    | none => if s.isEmpty || Value.isNullWord s then some none else some (some s)
  | .scalar _ _ s => some (some s)
  | _ => none

/-- A number setting. A block scalar counts if it is tagged as an integer. -/
def number? (node : Node) : Option UInt64 := do
  let number (s : String) : Option UInt64 := (natural? (2 ^ (64 : Nat)) s.toList).map UInt64.ofNat
  match ← follow? d node with
  | .scalar _ .plain s => number s
  | .scalar (some t) .literal s => if t = Value.coreTag "int" then number s else none
  | _ => none

/-- A list of texts; nothing written is an empty list. -/
def list? (node : Node) : Option (List String) := do
  match ← follow? d node with
  | .sequence _ items => items.mapM (letters? d)
  | .scalar _ .plain s => if s.isEmpty then some [] else none
  | _ => none

/-- The entries of a mapping with texts for keys; nothing written is an empty mapping. -/
def entries? (node : Node) : Option (List (String × Node)) := do
  match ← follow? d node with
  | .mapping _ es => es.mapM fun (k, x) => do return (← letters? d k, x)
  | .scalar _ .plain s => if s.isEmpty then some [] else none
  | _ => none

/-- A mapping of texts to texts. The last value of a key counts. -/
def names? (node : Node) : Option (List (String × String)) := do
  let es ← entries? d node
  return Dictionary.lastOfEach (← es.mapM fun (k, x) => do return (k, ← letters? d x))

/-- A choice, written as a scalar, or as the tag of nothing. -/
def scheme? (node : Node) : Option UnknownScheme := do
  match ← follow? d node with
  | .scalar tag style s =>
    match Value.localName? tag with
    | some name =>
      if style = .plain ∧ (s.isEmpty ∨ Value.isNullWord s) then UnknownScheme.ofName? name else none
    | none => UnknownScheme.ofName? s
  | _ => none

end Written

/-- How a document writes the values of settings. -/
def written (d : Document) : Reading Node where
  text? := Written.text? d
  number? := Written.number? d
  names? := Written.names? d
  list? := Written.list? d
  scheme? := Written.scheme? d

/-- The settings of a document; an empty one leaves all out. -/
def ofDocument? (d : Document) : Option Settings :=
  match d.root with
  | none => some {}
  | some root => do (written d).entries? {} [] (← Written.entries? d root)

/-- The settings that a text writes. -/
def ofText? (s : String) : Option Settings := do ofDocument? (← Document.ofText? s)

end RpcGuard.Settings
