import RpcGuard.Base64
import RpcGuard.Jwt.Header
import RpcGuard.Rejection

/-!
# Tokens

A token is three segments of base64 between dots: header, payload and signature. `Token.read` takes
it apart without trusting any of it.
-/

namespace RpcGuard.Jwt

/-- A token taken apart. -/
structure Token where
  header : Header
  claims : Claims
  payload : Bytes
  /-- The bytes that are signed: the first two segments with their dot. -/
  signedPart : Bytes
  /-- The third segment. -/
  signature : List Char
  deriving Repr

namespace Token

/-- The segments of a token. -/
def segments (token : String) : List (List Char) := token.toList.splitOn '.'

/-- Takes a token apart. The signature segment is left as it is. -/
def read (token : String) : Except TokenFault Token :=
  match segments token with
  | [first, second, third] =>
    match Base64.decode? .urlSafe first with
    | none => .error .base64
    | some headerText =>
      match Header.read? headerText with
      | none => .error .json
      | some header =>
        match Base64.decode? .urlSafe second with
        | none => .error .payloadEncoding
        | some payload =>
          match Claims.read payload with
          | .error fault => .error (.claims fault)
          | .ok claims =>
            .ok {
              header, claims, payload
              signedPart := Utf8.encode (first ++ '.' :: second)
              signature := third }
  | _ => .error .notThreeSegments

/-- The payload names its audience twice. -/
def repeatsAudience (t : Token) : Bool :=
  let isAudience (m : Bytes × Json.Syntax) : Bool := Json.text? m.1 == some "aud"
  1 < ((Json.Opening.read t.payload).members.filter isAudience).length

end Token

end RpcGuard.Jwt
