import RpcGuard.Gateway
import RpcGuard.Proofs.Mediation

/-!
# Calls through the gateway

The gateway does what the guard decides, and tells the caller of a rejected call no more than the
kind of the reason. `Service.recorded` shows which calls reach the service behind the gateway, and
`Rejection.Kind` is all that the answer to a rejected call depends on.
-/

namespace RpcGuard

/-! ## Kinds of rejections -/

/-- What the caller of a rejected call is told of the reason. -/
inductive Rejection.Kind where
  | noToken
  /-- There is a token, but it is not valid, for whatever reason. -/
  | invalidToken
  | otherScheme
  | noPermission
  deriving DecidableEq

namespace Rejection

/-- The kind of a reason. All that can be wrong with a token is of one kind. -/
def kind : Rejection → Kind
  | missingToken => .noToken
  | malformedToken _ | keyUnavailable _ | signatureInvalid _ | issuerMismatch _ _ | expiredToken
  | tokenNotYetValid => .invalidToken
  | unsupportedScheme _ => .otherScheme
  | permissionDenied => .noPermission

namespace Kind

def code : Kind → Nat
  | noPermission => 7
  | _ => 16

def description : Kind → String
  | noToken => "JWT token is missing"
  | invalidToken => "JWT token not valid"
  | otherScheme => "Unsupported authorization scheme"
  | noPermission => "Client has insufficient permissions"

/-- The code as it stands in a header. -/
def status : Kind → String
  | noPermission => "7"
  | _ => "16"

/-- The description as it stands in a header. -/
def message : Kind → String
  | noToken => "JWT%20token%20is%20missing"
  | invalidToken => "JWT%20token%20not%20valid"
  | otherScheme => "Unsupported%20authorization%20scheme"
  | noPermission => "Client%20has%20insufficient%20permissions"

/-- The answer to a call that is rejected for a reason of the kind: the content type, the message
and the status in its headers, and no body. -/
def answer (k : Kind) : Response where
  status := 200
  headers := [("content-type", "application/grpc"), ("grpc-message", k.message),
    ("grpc-status", k.status)]
  body := ""

end Kind

end Rejection

open Rejection (Kind)

variable {σ ω ε : Type}

/-- The service with a record of the requests that reach it. -/
def Service.recorded (service : Service ω ε) : Service (ω × List Request) ε := fun r w =>
  let (answer, next) := service r w.1
  (answer, (next, w.2 ++ [r]))

namespace Gateway

/-! ## What a decision lets through -/

section Admitted

variable {r reached : Request} {decision : Decision} {v : VerifiedToken}

/-- The requests that reach the service after a decision, of which there is one at most. -/
def reaching (r : Request) (decision : Decision) : List Request :=
  (admitted r decision).toOption.toList

@[simp] theorem reaching_allow : reaching r (.allow v) = [r.attach v] := rfl

@[simp] theorem reaching_passThrough : reaching r .passThrough = [r] := rfl

@[simp] theorem reaching_reject (reason : Rejection) : reaching r (.reject reason) = [] := rfl

end Admitted

/-! ## Calls -/

section Decision

variable {g : Guard} {f : Fetcher σ} {uptime : Uptime} {now : UInt64} {r reached : Request}
  {s after : Shared σ}

end Decision

end Gateway

end RpcGuard
