import RpcGuard.Json.Value

/-!
# Claims

The claims that a token makes about its bearer. Seven names have a type of their own; all other
claims are kept as they are. Roles are read leniently: whatever is not a role counts as no role,
and never as an error.
-/

namespace RpcGuard

/-- The claims of a token. Dates are in seconds of Unix time. -/
structure Claims where
  issuer : Option String := none
  subject : Option String := none
  expiry : Option UInt64 := none
  notBefore : Option UInt64 := none
  issuedAt : Option UInt64 := none
  /-- Roles by resource, each resource once. -/
  resourceAccess : Option (List (String × List String)) := none
  /-- Roles that belong to no resource. -/
  roles : Option (List String) := none
  /-- All other claims, each name once. -/
  extra : List (String × Json) := []
  deriving Repr

namespace Claims

-- Powers of naturals are those of the core library, whatever else is imported.
attribute [local instance (high)] instPowNat

/-- A reason to refuse a payload. -/
inductive Fault where
  /-- A date is not a number. -/
  | dateNotNumber
  /-- A date is no natural number below `2^64`, even when rounded. -/
  | dateOutOfRange
  /-- The payload is no JSON object, names a typed claim twice, or gives it a value of another
  type. -/
  | malformed
  deriving DecidableEq, Repr

/-- The fault in words. -/
def Fault.message : Fault → String
  | dateNotNumber => "invalid claims: NumericDate must be a number"
  | dateOutOfRange => "invalid claims: NumericDate must be representable as a u64"
  | malformed => "invalid claims"

/-! ## Values -/

/-- The roles that a value lists: a string is one role, and of an array the strings are. -/
def rolesOf : Json → List String
  | .string role => [role]
  | .array items => items.filterMap fun
    | .string role => some role
    | _ => none
  | _ => []

/-- The roles of an entry of `resource_access`: an object gives those of its member `roles`, an
array with one item those of the item. -/
def entryRoles : Json → List String
  | .object members => ((Dictionary.lastValue? "roles" members).map rolesOf).getD []
  | .array [item] => rolesOf item
  | _ => []

/-- The entries of `resource_access`; only an object has any. -/
def accessOf : Json → Option (List (String × List String))
  | .object members =>
    some ((Dictionary.lastOfEach members).map fun (resource, entry) => (resource, entryRoles entry))
  | _ => none

/-- The claim `roles`; only null counts as absent. -/
def flatRolesOf : Json → Option (List String)
  | .null => none
  | value => some (rolesOf value)

/-- A date. A fraction of a second is rounded, a half going up. -/
def dateOf : Json → Except Fault (Option UInt64)
  | .null => .ok none
  | .number (.natural n) => .ok (some n)
  | .number (.negative _) => .error .dateOutOfRange
  | .number (.float x) =>
    match x.toNatBelow? (2 ^ (64 : Nat)) with
    | some n => .ok (some (UInt64.ofNat n))
    | none => .error .dateOutOfRange
  | _ => .error .dateNotNumber

/-- A text or nothing. -/
def textOf : Json → Except Fault (Option String)
  | .null => .ok none
  | .string s => .ok (some s)
  | _ => .error .malformed

/-! ## Payloads -/

/-- The names of the typed claims. -/
inductive Name where
  | issuer | subject | expiry | notBefore | issuedAt | resourceAccess | roles
  deriving DecidableEq, Repr

/-- The typed claim with a given name. -/
def Name.ofString? (s : String) : Option Name :=
  if s = "iss" then some issuer
  else if s = "sub" then some subject
  else if s = "exp" then some expiry
  else if s = "nbf" then some notBefore
  else if s = "iat" then some issuedAt
  else if s = "resource_access" then some resourceAccess
  else if s = "roles" then some roles
  else none

/-- Sets a typed claim. -/
def set (c : Claims) (name : Name) (value : Json) : Except Fault Claims :=
  match name with
  | .issuer => do return { c with issuer := ← textOf value }
  | .subject => do return { c with subject := ← textOf value }
  | .expiry => do return { c with expiry := ← dateOf value }
  | .notBefore => do return { c with notBefore := ← dateOf value }
  | .issuedAt => do return { c with issuedAt := ← dateOf value }
  | .resourceAccess => .ok { c with resourceAccess := accessOf value }
  | .roles => .ok { c with roles := flatRolesOf value }

/-- A payload read up to some member: the claims so far, and the typed ones among them. -/
structure Draft where
  claims : Claims := {}
  seen : List Name := []

/-- The levels of arrays and objects left inside a payload, which is itself an object. -/
def valueDepth : Nat := Json.maxDepth - 1

/-- Takes in the next member. -/
def Draft.add (d : Draft) (key : Bytes) (value : Json.Syntax) : Except Fault Draft :=
  match Json.text? key, Json.ofSyntax? valueDepth value with
  | some key, some value =>
    match Name.ofString? key with
    | some name =>
      if name ∈ d.seen then .error .malformed
      else do return ⟨← d.claims.set name value, name :: d.seen⟩
    | none =>
      .ok { d with claims.extra := d.claims.extra ++ [(key, value.collapse)] }
  | _, _ => .error .malformed

/-- Takes in the members in order, up to the first fault. -/
def Draft.addAll (d : Draft) : List (Bytes × Json.Syntax) → Except Fault Draft
  | [] => .ok d
  | (key, value) :: ms => do (← d.add key value).addAll ms

/-- The claims of a payload. The first fault in the order of the text is reported. -/
def read (payload : Bytes) : Except Fault Claims := do
  let opening := Json.Opening.read payload
  let draft ← Draft.addAll {} opening.members
  if opening.complete then
    return { draft.claims with extra := Dictionary.lastOfEach draft.claims.extra }
  else throw .malformed

/-! ## Access -/

/-- The roles for a resource, if the claims speak of it. -/
def resourceRoles (c : Claims) (resource : String) : Option (List String) :=
  match c.resourceAccess with
  | some entries => entries.lookup resource
  | none => none

/-- An untyped claim. -/
def get? (c : Claims) (name : String) : Option Json := c.extra.lookup name

end Claims

end RpcGuard
