/-!
# Signature algorithms

The algorithms that a token header may name. The guard accepts signatures of only one of them,
`rs256`.
-/

namespace RpcGuard.Jwt

/-- A signature algorithm of JSON web tokens. -/
inductive Algorithm where
  | hs256 | hs384 | hs512
  | es256 | es384
  | rs256 | rs384 | rs512
  | ps256 | ps384 | ps512
  | edDsa
  deriving DecidableEq, Repr

namespace Algorithm

/-- All algorithms. -/
def all : List Algorithm :=
  [hs256, hs384, hs512, es256, es384, rs256, rs384, rs512, ps256, ps384, ps512, edDsa]

/-- The registered name. -/
def name : Algorithm → String
  | hs256 => "HS256"
  | hs384 => "HS384"
  | hs512 => "HS512"
  | es256 => "ES256"
  | es384 => "ES384"
  | rs256 => "RS256"
  | rs384 => "RS384"
  | rs512 => "RS512"
  | ps256 => "PS256"
  | ps384 => "PS384"
  | ps512 => "PS512"
  | edDsa => "EdDSA"

/-- The algorithm with a given name. -/
def ofName? (s : String) : Option Algorithm := all.find? fun a => a.name == s

theorem mem_all (a : Algorithm) : a ∈ all := by cases a <;> decide

@[simp] theorem ofName?_name (a : Algorithm) : ofName? a.name = some a := by cases a <;> decide

end Algorithm

end RpcGuard.Jwt
