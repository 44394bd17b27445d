import RpcGuard.Jwt.Algorithm
import RpcGuard.Jwt.EmbeddedKey

/-!
# Token headers

The header of a token, read from its JSON text: an object, or an array of all ten fields in their
order. Members of other names are passed over with no more than a check of their grammar; a known
name may not be repeated.
-/

namespace RpcGuard.Jwt

/-- The header of a token. -/
structure Header where
  typ : Option String
  algorithm : Algorithm
  cty : Option String
  jku : Option String
  jwk : Option EmbeddedKey
  kid : Option String
  x5u : Option String
  x5c : Option (List String)
  x5t : Option String
  x5tS256 : Option String
  deriving DecidableEq, Repr

namespace Header

/-- The names of the fields, in the order of the array form. -/
def fieldNames : List String :=
  ["typ", "alg", "cty", "jku", "jwk", "kid", "x5u", "x5c", "x5t", "x5t#S256"]

/-- An optional field: absent or null, or a value that `read` accepts. -/
def optional? {α : Type} (read : Json.Syntax → Option α) : Option Json.Syntax → Option (Option α)
  | none | some .null => some none
  | some value => (read value).map some

def text? : Json.Syntax → Option String
  | .string body => Json.text? body
  | _ => none

def texts? : Json.Syntax → Option (List String)
  | .array items => items.mapM text?
  | _ => none

/-- The name of an algorithm: a string, or an object with the name for its one member and null for
the value. -/
def algorithm? : Json.Syntax → Option Algorithm
  | .string body => (Json.text? body).bind Algorithm.ofName?
  | .object [(name, .null)] => (Json.text? name).bind Algorithm.ofName?
  | _ => none

/-- A key. The header around it is one level of nesting. -/
def key? (value : Json.Syntax) : Option EmbeddedKey := do
  EmbeddedKey.ofJson? (← Json.ofSyntax? (Json.maxDepth - 1) value)

/-- The header with the given values of its fields. -/
def ofFields? (field : String → Option Json.Syntax) : Option Header := do
  return {
    typ := ← optional? text? (field "typ")
    algorithm := ← algorithm? (← field "alg")
    cty := ← optional? text? (field "cty")
    jku := ← optional? text? (field "jku")
    jwk := ← optional? key? (field "jwk")
    kid := ← optional? text? (field "kid")
    x5u := ← optional? text? (field "x5u")
    x5c := ← optional? texts? (field "x5c")
    x5t := ← optional? text? (field "x5t")
    x5tS256 := ← optional? text? (field "x5t#S256") }

/-- The members with their names; a name must be well-formed text. -/
def named? (ms : List (Bytes × Json.Syntax)) : Option (List (String × Json.Syntax)) :=
  ms.mapM fun (name, value) => do return (← Json.text? name, value)

/-- The header that a value writes. -/
def ofSyntax? : Json.Syntax → Option Header
  | .object ms => do
    let known := (← named? ms).filter fun m => m.1 ∈ fieldNames
    if (known.map Prod.fst).Nodup then ofFields? (fun name => known.lookup name) else none
  | .array values =>
    if values.length = fieldNames.length then
      ofFields? fun name => (fieldNames.zip values).lookup name
    else none
  | _ => none

/-- The header that a text writes. -/
def read? (text : Bytes) : Option Header := do ofSyntax? (← Json.Syntax.parse? text)

/-- The fields that are present, as they are written. -/
def toMembers (h : Header) : List (String × Json) :=
  let text (name : String) (s : Option String) := (s.map fun s => (name, Json.string s)).toList
  text "typ" h.typ ++ [("alg", .string h.algorithm.name)] ++ text "cty" h.cty ++
    text "jku" h.jku ++ (h.jwk.map fun k => ("jwk", Json.object k.toMembers)).toList ++
    text "kid" h.kid ++ text "x5u" h.x5u ++
    (h.x5c.map fun ss => ("x5c", Json.array (ss.map .string))).toList ++ text "x5t" h.x5t ++
    text "x5t#S256" h.x5tS256

end Header

end RpcGuard.Jwt
