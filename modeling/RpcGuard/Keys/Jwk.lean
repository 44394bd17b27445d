import RpcGuard.Base64
import RpcGuard.Json.Value

/-!
# Key documents

The JSON documents that publish keys: a set of keys in the member `keys` of an object, or a single
key. A key is an object, or an array of its five fields in order. Members of other names are
passed over.
-/

namespace RpcGuard

/-- A published key. Only the fields that an RSA key needs are read. -/
structure Jwk where
  kid : Option String
  kty : String
  alg : Option String
  n : Option String
  e : Option String
  deriving DecidableEq, Repr

namespace Jwk

/-- The names of the fields, in the order of the array form. -/
def fieldNames : List String := ["kid", "kty", "alg", "n", "e"]

/-- An optional text: absent, null or a string. -/
def optional? : Option Json → Option (Option String)
  | none | some .null => some none
  | some (.string s) => some (some s)
  | _ => none

/-- The key with the given values of its fields. -/
def ofFields? (field : String → Option Json) : Option Jwk := do
  let kty ← match field "kty" with
    | some (.string s) => some s
    | _ => none
  return {
    kid := ← optional? (field "kid")
    kty := kty
    alg := ← optional? (field "alg")
    n := ← optional? (field "n")
    e := ← optional? (field "e") }

/-- The key that a value describes. No field may be repeated; in the array form the last ones may
be missing. -/
def ofJson? : Json → Option Jwk
  | .object ms =>
    let known := ms.filter fun m => m.1 ∈ fieldNames
    if (known.map Prod.fst).Nodup then ofFields? (fun name => known.lookup name) else none
  | .array values =>
    if values.length ≤ fieldNames.length then
      ofFields? fun name => (fieldNames.zip values).lookup name
    else none
  | _ => none

/-- The set of keys that a value describes: an object with one member `keys`, an array of keys. -/
def setOfJson? : Json → Option (List Jwk)
  | .object ms =>
    match ms.filter fun m => m.1 = "keys" with
    | [(_, .array items)] => items.mapM ofJson?
    | _ => none
  | _ => none

/-- The keys of a document: those of a set, or else a single one. -/
def documentOfJson? (j : Json) : Option (List Jwk) :=
  setOfJson? j <|> (ofJson? j).map fun k => [k]

/-- The keys of a document. -/
def readDocument? (text : Bytes) : Option (List Jwk) := do documentOfJson? (← Json.parse? text)

/-- What is reported of a text that is no key document. -/
def documentFault : String := "failed to parse JWK/JWKS payload"

end Jwk

end RpcGuard
