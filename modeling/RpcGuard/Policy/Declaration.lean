import RpcGuard.Policy.Roles
import RpcGuard.Text.Lowercase

/-!
# Service declarations

What a service says about itself at startup: its name on the wire, the methods of its protocol, and
the methods of its implementation with the access policy of each. The two lists of methods are
matched by `methodKey`, which ignores case and underscores.
-/

namespace RpcGuard

/-- Who may call a method. -/
inductive AccessPolicy where
  /-- Nobody. -/
  | deny
  /-- Everyone with a valid token. -/
  | permitAll
  /-- Callers that have one of the roles, a set in the sense of `RoleSet`. -/
  | rolesAllowed (roles : List String)
  deriving DecidableEq, Repr

/-- The policy that admits the listed roles. -/
def AccessPolicy.ofRoles (roles : List String) : AccessPolicy :=
  .rolesAllowed (RoleSet.ofList roles)

/-- A method of an implementation; without a policy it is not annotated. -/
structure MethodDeclaration where
  name : String
  policy : Option AccessPolicy
  deriving DecidableEq, Repr

/-- A service as it is declared at startup. -/
structure ServiceDeclaration where
  name : String
  secured : Bool
  rpcMethods : List String
  implementation : List MethodDeclaration
  deriving DecidableEq, Repr

/-- The name of a method without underscores and in lower case. -/
def methodKey (name : String) : List Char :=
  (name.toList.filter (· ≠ '_')).flatMap Text.lowercase

end RpcGuard
