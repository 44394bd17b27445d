import RpcGuard.Dictionary
import RpcGuard.Policy.Declaration

/-!
# The policy table

The policies of all secured services, compiled once at startup. Compilation refuses declarations
that leave a method without a policy or a policy without a method, so that no call of a declared
method goes unchecked.
-/

namespace RpcGuard

/-- A reason to refuse the declarations. -/
inductive PolicyFault where
  /-- The implementation of a secured method is not annotated. -/
  | unannotated (service method : String)
  /-- No method of the implementation matches a method of the protocol. -/
  | unmatchedMethod (service method : String)
  /-- Several methods of the implementation match a method of the protocol. -/
  | ambiguousMethod (service method : String)
  /-- An annotated method matches no method of the protocol. -/
  | orphan (service method : String)
  /-- Two declarations have one name. -/
  | duplicateService (service : String)
  deriving DecidableEq, Repr

/-- The fault in words. -/
def PolicyFault.message : PolicyFault → String
  | unannotated s m =>
    "no security annotation (DenyAll, PermitAll, RolesAllowed) on secured method: service=" ++ s ++
      ", method=" ++ m
  | unmatchedMethod s m =>
    "no implementation method matches rpc method: service=" ++ s ++ ", method=" ++ m
  | ambiguousMethod s m =>
    "multiple implementation methods match rpc method: service=" ++ s ++ ", method=" ++ m
  | orphan s m =>
    "annotated implementation method matches no rpc method: service=" ++ s ++ ", method=" ++ m
  | duplicateService s => "service declared more than once: " ++ s

namespace ServiceDeclaration

/-- The methods of the implementation that match a method of the protocol. -/
def candidates (d : ServiceDeclaration) (rpc : String) : List MethodDeclaration :=
  d.implementation.filter fun m => methodKey m.name = methodKey rpc

/-- The policy of a method of the protocol. -/
def policyOf (d : ServiceDeclaration) (rpc : String) : Except PolicyFault AccessPolicy :=
  match d.candidates rpc with
  | [] => .error (.unmatchedMethod d.name rpc)
  | [m] =>
    match m.policy with
    | some p => .ok p
    | none => .error (.unannotated d.name m.name)
  | _ => .error (.ambiguousMethod d.name rpc)

/-- The first annotated method that matches no method of the protocol. -/
def orphan? (d : ServiceDeclaration) : Option MethodDeclaration :=
  d.implementation.find? fun m =>
    m.policy.isSome && !d.rpcMethods.any fun rpc => methodKey rpc = methodKey m.name

/-- The methods of the protocol, each with its policy. -/
def policies (d : ServiceDeclaration) : Except PolicyFault (List (String × AccessPolicy)) := do
  let methods ← d.rpcMethods.mapM fun rpc => do return (rpc, ← d.policyOf rpc)
  match d.orphan? with
  | some m => throw (.orphan d.name m.name)
  | none => return Dictionary.lastOfEach methods

end ServiceDeclaration

/-- The policies of the secured services. Every secured service has an entry, even one without
methods; no other service has. -/
structure PolicyTable where
  services : List (String × List (String × AccessPolicy))
  deriving DecidableEq, Repr

namespace PolicyTable

/-- The policy of a method of a service. -/
def get? (t : PolicyTable) (service method : String) : Option AccessPolicy :=
  match t.services.lookup service with
  | some methods => methods.lookup method
  | none => none

/-- The service is secured: even a method without an entry is then refused. -/
def isSecured (t : PolicyTable) (service : String) : Bool := (t.services.lookup service).isSome

/-- The number of policies. -/
def size (t : PolicyTable) : Nat := (t.services.flatMap Prod.snd).length

/-- The table of declarations that follow services with the names `seen`. -/
def compileAfter (seen : List String) : List ServiceDeclaration → Except PolicyFault PolicyTable
  | [] => .ok ⟨[]⟩
  | d :: ds =>
    if d.name ∈ seen then .error (.duplicateService d.name)
    else if d.secured then do
      let methods ← d.policies
      let rest ← compileAfter (d.name :: seen) ds
      return ⟨(d.name, methods) :: rest.services⟩
    else compileAfter (d.name :: seen) ds

/-- The table of all declarations, or the first fault in their order. -/
def compile (ds : List ServiceDeclaration) : Except PolicyFault PolicyTable := compileAfter [] ds

end PolicyTable

end RpcGuard
