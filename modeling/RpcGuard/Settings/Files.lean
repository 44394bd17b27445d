import RpcGuard.Dictionary
import RpcGuard.Settings.Keys
import RpcGuard.Yaml.Merge

/-!
# Settings from files

Settings read from a base file and perhaps an overlay. The files are merged as values, and the
settings are read from the result; there a text setting must be a string.
-/

namespace RpcGuard.Settings

open Yaml

namespace Merged

/-- A text. -/
def string? (v : Value) : Option String :=
  match v.untagged with
  | .string s => some s
  | _ => none

/-- A text setting. -/
def text? : Value → Option (Option String)
  | .null => some none
  | v => (string? v).map some

/-- A number setting. -/
def number? (v : Value) : Option UInt64 :=
  match v.untagged with
  | .number (.natural n) => some n
  | _ => none

/-- A list of texts; null is an empty list. -/
def list? (v : Value) : Option (List String) :=
  match v.untagged with
  | .sequence items => items.mapM string?
  | .null => some []
  | _ => none

/-- The entries of a mapping with texts for keys; null is an empty mapping. -/
def entries? (v : Value) : Option (List (String × Value)) :=
  match v.untagged with
  | .mapping es => es.mapM fun (k, x) => do return (← string? k, x)
  | .null => some []
  | _ => none

/-- A mapping of texts to texts. The last value of a key counts. -/
def names? (v : Value) : Option (List (String × String)) := do
  return Dictionary.lastOfEach (← (← entries? v).mapM fun (k, x) => do return (k, ← string? x))

/-- A choice, written as a string, or as the tag of null. -/
def scheme? : Value → Option UnknownScheme
  | .string s => UnknownScheme.ofName? s
  | .tagged name v =>
    match v.untagged with
    | .null => UnknownScheme.ofName? name
    | _ => none
  | _ => none

end Merged

/-- How a value writes settings. -/
def merged : Reading Value where
  text? := Merged.text?
  number? := Merged.number?
  names? := Merged.names?
  list? := Merged.list?
  scheme? := Merged.scheme?

/-- The settings of a value; null leaves all out. -/
def ofValue? (v : Value) : Option Settings := do merged.entries? {} [] (← Merged.entries? v)

/-- A reason why there are no settings. -/
inductive FileFault where
  /-- A file does not exist, or is no text. -/
  | unreadable
  /-- A text is no document, or its document does not write settings. -/
  | yaml
  deriving DecidableEq, Repr

/-- The fault in words. -/
def FileFault.message : FileFault → String
  | unreadable => "failed to read file"
  | yaml => "failed to parse YAML"

/-- The value that a file writes, if the file exists. -/
def fileValue (contents : Option Bytes) : Except FileFault Value :=
  match contents.bind Utf8.text? with
  | none => .error .unreadable
  | some text =>
    match Value.ofText? text with
    | some v => .ok v
    | none => .error .yaml

/-- The settings of a base file with an overlay file, if there is to be one. Each file is `none`
if it does not exist. -/
def load (base : Option Bytes) (overlay : Option (Option Bytes)) : Except FileFault Settings := do
  let v ← fileValue base
  let v ← match overlay with
    | none => pure v
    | some file => pure (Value.merge (← fileValue file) v)
  match ofValue? v with
  | some s => return s
  | none => throw .yaml

end RpcGuard.Settings
