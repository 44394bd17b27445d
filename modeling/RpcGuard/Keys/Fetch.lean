import RpcGuard.Keys.Jwk
import RpcGuard.Rejection

/-!
# Fetching keys

A fetcher asks an address for a key document. What it answers may depend on a state of its own, of
any type, so that all behaviours of the other side are covered, and it may fail for any reason that
a call can be refused for. `Fetch.ofResponse` is what an HTTP response means.
-/

namespace RpcGuard

/-- A fetcher with states of type `σ`: from an address and a state to an answer and the next
state. -/
abbrev Fetcher (σ : Type) := String → σ → Except Rejection (List Jwk) × σ

namespace Fetch

/-- The keys that an HTTP response brings. A response with status 204 has no body. -/
def ofResponse (status : Nat) (body : Bytes) : Except Rejection (List Jwk) :=
  if status < 200 ∨ 300 ≤ status then .error (.keyUnavailable (.fetch (.status status)))
  else
    match Jwk.readDocument? (if status = 204 then [] else body) with
    | some keys => .ok keys
    | none => .error (.keyUnavailable (.fetch .body))

/-- A fetcher that nobody answers. -/
def unreachable {σ : Type} : Fetcher σ := fun _ s =>
  (.error (.keyUnavailable (.fetch .unreachable)), s)

end Fetch

end RpcGuard
