import RpcGuard.Url.Host

/-!
# URLs

A URL in its parts, and its text. Every part is kept in the escaped form in which it is written.
-/

namespace RpcGuard

/-- The path of a URL. -/
inductive Url.Path where
  /-- A text without a hierarchy. -/
  | plain (s : String)
  /-- Segments, each behind a slash. -/
  | segments (parts : List String)
  deriving DecidableEq, Repr

/-- A URL. An empty password is the same as none. -/
structure Url where
  scheme : String
  user : String := ""
  password : String := ""
  host : Option Host := none
  port : Option Nat := none
  path : Url.Path
  query : Option String := none
  fragment : Option String := none
  deriving DecidableEq, Repr

namespace Url

/-- The schemes with a hierarchy of their own rules, and their ports. -/
def defaultPort? (scheme : String) : Option Nat :=
  if scheme = "ftp" then some 21
  else if scheme = "http" ∨ scheme = "ws" then some 80
  else if scheme = "https" ∨ scheme = "wss" then some 443
  else none

/-- The scheme is registered as special. -/
def isSpecial (scheme : String) : Bool := (defaultPort? scheme).isSome || scheme == "file"

/-- User name and password, with the sign that ends them. -/
def userInfo (u : Url) : String :=
  if u.user.isEmpty ∧ u.password.isEmpty then ""
  else u.user ++ (if u.password.isEmpty then "" else ":" ++ u.password) ++ "@"

/-- Everything between scheme and path. -/
def authority (u : Url) : String :=
  match u.host with
  | none => ""
  | some h =>
    "//" ++ u.userInfo ++ h.toString ++ ((u.port.map fun p => ":" ++ p.repr).getD "")

/-- The path. Without a host, a path that begins with two slashes needs a mark in front. -/
def pathText (u : Url) : String :=
  match u.path with
  | .plain s => s
  | .segments parts =>
    let text := String.join (parts.map ("/" ++ ·))
    match u.host, parts with
    | none, "" :: _ :: _ => "/." ++ text
    | _, _ => text

/-- The text of a URL. -/
def toString (u : Url) : String :=
  u.scheme ++ ":" ++ u.authority ++ u.pathText ++ ((u.query.map ("?" ++ ·)).getD "") ++
    ((u.fragment.map ("#" ++ ·)).getD "")

end Url

end RpcGuard
