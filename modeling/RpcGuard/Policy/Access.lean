import RpcGuard.Claims
import RpcGuard.Policy.Table

/-!
# Access

Which roles of a caller count for a service, and whether they are enough for a method.
-/

namespace RpcGuard

/-- The resources whose roles count. -/
structure ResourceNames where
  /-- For services without a resource of their own. -/
  default : Option String
  /-- By service, each service once; an empty name counts as none. -/
  perService : List (String × String)
  deriving DecidableEq, Repr

namespace ResourceNames

/-- The resource whose roles count for a service. -/
def resourceFor (r : ResourceNames) (service : String) : Option String :=
  ((r.perService.lookup service).filter fun name => !name.isEmpty) <|> r.default

/-- The roles of a caller that count for a service: those for its resource if the claims speak of
it, and otherwise those that belong to no resource. -/
def callerRoles (r : ResourceNames) (service : String) (c : Claims) : List String :=
  (((r.resourceFor service).bind c.resourceRoles) <|> c.roles).getD []

/-- A caller with these claims may call the method. A method of a secured service needs a policy,
and the method of any other service needs none. -/
def permits (r : ResourceNames) (t : PolicyTable) (service method : String) (c : Claims) : Bool :=
  match t.get? service method with
  | none => !t.isSecured service
  | some .permitAll => true
  | some .deny => false
  | some (.rolesAllowed allowed) => (r.callerRoles service c).any (· ∈ allowed)

end ResourceNames

end RpcGuard
