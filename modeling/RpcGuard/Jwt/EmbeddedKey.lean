import RpcGuard.Json.Value

/-!
# Keys inside token headers

A token header may carry a key in its member `jwk`. The guard never trusts such a key, but a header
with an ill-formed one is refused, and an accepted one is shown with the header.
-/

namespace RpcGuard.Jwt

/-- The parameters of a key, by its type. -/
inductive KeyParameters where
  | ellipticCurve (curve x y : String)
  | rsa (n e : String)
  | octets (k : String)
  | octetPair (curve x : String)
  deriving DecidableEq, Repr

/-- A key in a token header. -/
structure EmbeddedKey where
  use : Option String
  operations : Option (List String)
  algorithm : Option String
  kid : Option String
  x5u : Option String
  x5c : Option (List String)
  x5t : Option String
  x5tS256 : Option String
  parameters : KeyParameters
  deriving DecidableEq, Repr

namespace EmbeddedKey

/-- The members of an object. -/
abbrev Members := List (String × Json)

/-- The only value of a name: `some none` if the name does not occur, `none` if it is repeated. -/
def only? (name : String) (ms : Members) : Option (Option Json) :=
  match ms.filter fun m => m.1 = name with
  | [] => some none
  | [(_, value)] => some (some value)
  | _ => none

def string? : Json → Option String
  | .string s => some s
  | _ => none

def strings? : Json → Option (List String)
  | .array items => items.mapM string?
  | _ => none

/-- An optional member: absent or null, or a value that `read` accepts. -/
def optional? {α : Type} (read : Json → Option α) (name : String) (ms : Members) :
    Option (Option α) := do
  match ← only? name ms with
  | none | some .null => return none
  | some value => return some (← read value)

/-- A member that must be there. -/
def required? {α : Type} (read : Json → Option α) (name : String) (ms : Members) : Option α := do
  match ← only? name ms with
  | none => none
  | some value => read value

/-- A word of a fixed vocabulary: a string, or an object with the word for its one name and null
for its value. -/
def word? : Json → Option String
  | .string s => some s
  | .object [(name, .null)] => some name
  | _ => none

/-- A word out of `words`. -/
def wordOf? (words : List String) (value : Json) : Option String :=
  (word? value).filter (· ∈ words)

/-- The names of key algorithms. -/
def algorithms : List String :=
  ["HS256", "HS384", "HS512", "ES256", "ES384", "RS256", "RS384", "RS512", "PS256", "PS384",
    "PS512", "EdDSA", "RSA1_5", "RSA-OAEP", "RSA-OAEP-256"]

/-- The name of an algorithm. As an object with the name, its value may be empty too. -/
def algorithm? (value : Json) : Option String :=
  match value with
  | .object [(name, .object [])] => if name ∈ algorithms then some name else none
  | _ => wordOf? algorithms value

/-- The names of the members that every key may have. -/
def commonNames : List String :=
  ["use", "key_ops", "alg", "kid", "x5u", "x5c", "x5t", "x5t#S256"]

/-- The curves of elliptic-curve keys and of octet key pairs. -/
def curves : List String := ["P-256", "P-384", "P-521", "Ed25519"]

/-- The parameters: the first key type, in a fixed order, whose members are all there. -/
def parameters? (ms : Members) : Option KeyParameters :=
  let ec : Option KeyParameters := do
    let _ ← required? (wordOf? ["EC"]) "kty" ms
    return .ellipticCurve (← required? (wordOf? curves) "crv" ms) (← required? string? "x" ms)
      (← required? string? "y" ms)
  let rsa : Option KeyParameters := do
    let _ ← required? (wordOf? ["RSA"]) "kty" ms
    return .rsa (← required? string? "n" ms) (← required? string? "e" ms)
  let octets : Option KeyParameters := do
    let _ ← required? (wordOf? ["oct"]) "kty" ms
    return .octets (← required? string? "k" ms)
  let pair : Option KeyParameters := do
    let _ ← required? (wordOf? ["OKP"]) "kty" ms
    return .octetPair (← required? (wordOf? curves) "crv" ms) (← required? string? "x" ms)
  ec <|> rsa <|> octets <|> pair

/-- Reads a key. -/
def ofJson? : Json → Option EmbeddedKey
  | .object ms => do
    return {
      use := ← optional? string? "use" ms
      operations := ← optional? strings? "key_ops" ms
      algorithm := ← optional? algorithm? "alg" ms
      kid := ← optional? string? "kid" ms
      x5u := ← optional? string? "x5u" ms
      x5c := ← optional? strings? "x5c" ms
      x5t := ← optional? string? "x5t" ms
      x5tS256 := ← optional? string? "x5t#S256" ms
      parameters := ← parameters? (ms.filter fun m => m.1 ∉ commonNames) }
  | _ => none

/-- The members that are present, as they are written. -/
def toMembers (k : EmbeddedKey) : Members :=
  let text (name : String) (s : Option String) : Members :=
    (s.map fun s => (name, Json.string s)).toList
  let texts (name : String) (ss : Option (List String)) : Members :=
    (ss.map fun ss => (name, Json.array (ss.map .string))).toList
  text "use" k.use ++ texts "key_ops" k.operations ++ text "alg" k.algorithm ++ text "kid" k.kid ++
    text "x5u" k.x5u ++ texts "x5c" k.x5c ++ text "x5t" k.x5t ++ text "x5t#S256" k.x5tS256 ++
    match k.parameters with
    | .ellipticCurve crv x y =>
      [("kty", .string "EC"), ("crv", .string crv), ("x", .string x), ("y", .string y)]
    | .rsa n e => [("kty", .string "RSA"), ("n", .string n), ("e", .string e)]
    | .octets k => [("kty", .string "oct"), ("k", .string k)]
    | .octetPair crv x => [("kty", .string "OKP"), ("crv", .string crv), ("x", .string x)]

end EmbeddedKey

end RpcGuard.Jwt
