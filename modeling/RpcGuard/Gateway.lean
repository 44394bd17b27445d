import RpcGuard.Guard
import RpcGuard.Text.Percent

/-!
# The gateway

The guard in front of a service. A call that is not rejected reaches the service as it came; if it
was let in with a verified token, this token is attached to it. A rejected call is answered at once,
with an empty body and a status that tells no more than the kind of rejection.
-/

namespace RpcGuard

/-- A request: the path of the call and its headers, and what a layer in front has attached. -/
structure Request where
  path : String
  headers : Headers
  /-- The token that is attached to the request. -/
  token : Option VerifiedToken := none
  deriving Repr

/-- The request with a token attached to it, in place of an earlier one. -/
def Request.attach (r : Request) (token : VerifiedToken) : Request := { r with token := some token }

/-- A response. -/
structure Response where
  status : Nat
  headers : List (String × String)
  body : String
  deriving DecidableEq, Repr

/-- A service answers requests. It has a state of its own, and may also fail to answer. -/
abbrev Service (ω ε : Type) := Request → ω → Except ε Response × ω

/-- The path of a call's address, up to a query or fragment. An address without a scheme is a path,
or a host, which has none. -/
def Request.pathOf (address : String) : String :=
  let rec afterScheme : List Char → Option (List Char)
    | ':' :: '/' :: '/' :: rest => some rest
    | _ :: rest => afterScheme rest
    | [] => none
  let (whole, _) := address.toList.span fun c => !(c == '?' || c == '#')
  if whole.head? = some '/' ∨ whole = ['*'] then String.ofList whole
  else
    match afterScheme whole with
    | none => ""
    | some rest =>
      match rest.dropWhile (· != '/') with
      | [] => "/"
      | path => String.ofList path

namespace Gateway

/-- Characters that a status message escapes, besides controls and those outside ASCII. -/
def messageEscapes : List Char := " \"#%<>\x60?\x7b\x7d".toList

/-- The answer to a rejected call: a success of the transport whose headers carry the failure of
the call. -/
def rejected (reason : Rejection) : Response where
  status := 200
  headers := [
    ("content-type", "application/grpc"),
    ("grpc-message",
      String.ofList (Percent.encode messageEscapes reason.description.toList)),
    ("grpc-status", reason.code.repr)]
  body := ""

/-- What becomes of a request: the request that reaches the service, or a rejection. A request that
passes through is handed on as it came, with whatever is attached to it. -/
def admitted (r : Request) : Decision → Except Rejection Request
  | .allow token => .ok (r.attach token)
  | .passThrough => .ok r
  | .reject reason => .error reason

/-- Answers a request with a service, which is asked after the guard has decided, and not about a
call that is rejected. -/
def call {σ ω ε : Type} (g : Guard) (f : Fetcher σ) (uptime : Uptime) (now : UInt64)
    (service : Service ω ε) (r : Request) (s : Shared σ) (w : ω) :
    Except ε Response × Shared σ × ω :=
  let (decision, s) := g.authorize f uptime now r.path r.headers s
  match admitted r decision with
  | .ok r =>
    let (answer, w) := service r w
    (answer, s, w)
  | .error reason => (.ok (rejected reason), s, w)

end Gateway

end RpcGuard
