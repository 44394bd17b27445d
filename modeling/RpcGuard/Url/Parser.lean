import RpcGuard.Url.Basic

/-!
# Reading URLs

`Url.parse` reads an absolute URL, and `Url.join` resolves an absolute path against one. Tabs and
line ends do not count, nor do controls and spaces around the text. For special schemes, any number
of slashes of either kind may stand before the host.
-/

namespace RpcGuard.Url

/-! ## Characters -/

/-- The text as it is read. -/
def cleaned (cs : List Char) : List Char :=
  let isEdge (c : Char) : Bool := c.toNat ≤ 0x20
  let cs := ((cs.dropWhile isEdge).reverse.dropWhile isEdge).reverse
  cs.filter fun c => !(c == '\t' || c == '\n' || c == '\r')

/-- Escaped in fragments. -/
def fragmentEscapes : List Char := " \"<>\x60".toList

/-- Escaped in paths. -/
def pathEscapes : List Char := fragmentEscapes ++ "#?\x7b\x7d".toList

/-- Escaped in user names and passwords. -/
def userEscapes : List Char := pathEscapes ++ "/:;=@[\\]^|".toList

/-- Escaped in queries. -/
def queryEscapes (special : Bool) : List Char :=
  " \"#<>".toList ++ if special then ['\''] else []

/-! ## Paths -/

/-- A slash, or for special schemes a backslash. -/
def isSlash (special : Bool) (c : Char) : Bool := c == '/' || (special && c == '\\')

/-- The pieces between slashes. There is always one. -/
def pieces (special : Bool) : List Char → List (List Char)
  | [] => [[]]
  | c :: cs =>
    if isSlash special c then [] :: pieces special cs
    else
      match pieces special cs with
      | p :: ps => (c :: p) :: ps
      | [] => [[c]]

/-- A segment that stands for the directory itself. -/
def isSingleDot (s : String) : Bool := s.toLower ∈ [".", "%2e"]

/-- A segment that stands for the directory above. -/
def isDoubleDot (s : String) : Bool := s.toLower ∈ ["..", ".%2e", "%2e.", "%2e%2e"]

/-- A letter and a colon or a bar. -/
def isDrive (s : String) : Bool :=
  match s.toList with
  | [c, d] => c.isAlpha && (d == ':' || d == '|')
  | _ => false

/-- A letter and a colon. -/
def isNormalDrive (s : String) : Bool := isDrive s && s.toList.getLast? == some ':'

/-- The path without its last segment; a drive stays. -/
def shortened (path : List String) : List String :=
  if path.getLast?.any isDrive then path else path.dropLast

/-- The path with one more segment behind it; `final` if no slash follows. -/
def extended (file : Bool) (path : List String) (segment : String) (final : Bool) : List String :=
  if isDoubleDot segment then
    let path := shortened path
    if final then path ++ [""] else path
  else if isSingleDot segment then if final then path ++ [""] else path
  else if file ∧ path.isEmpty ∧ isDrive segment then
    [String.ofList (segment.toList.take 1 ++ [':'])]
  else path ++ [segment]

/-- The path with all pieces of a text behind it. -/
def extendedAll (file : Bool) (path : List String) : List (List Char) → List String
  | [] => path
  | p :: ps =>
    let segment := String.ofList (Percent.encode pathEscapes p)
    extendedAll file (extended file path segment ps.isEmpty) ps

/-- The path that a text after the authority spells: a slash at its head opens the first segment. -/
def pathOf (scheme : String) (cs : List Char) : List String :=
  let special := isSpecial scheme
  let body := match cs with
    | c :: r => if isSlash special c then r else cs
    | [] => []
  if cs.isEmpty ∧ !special then [] else extendedAll (scheme == "file") [] (pieces special body)

/-! ## Query and fragment -/

/-- A text up to the first `?` or `#`, and from there on. -/
def untilQuery (cs : List Char) : List Char × List Char :=
  cs.span fun c => !(c == '?' || c == '#')

/-- The URL with the query and fragment that a text spells. -/
def withSuffix (u : Url) (cs : List Char) : Url :=
  let fragment (cs : List Char) : Option String :=
    match cs with
    | '#' :: r => some (String.ofList (Percent.encode fragmentEscapes r))
    | _ => none
  match cs with
  | '?' :: r =>
    let (query, r) := r.span (· != '#')
    { u with
      query := some (String.ofList (Percent.encode (queryEscapes (isSpecial u.scheme)) query))
      fragment := fragment r }
  | _ => { u with fragment := fragment cs }

/-! ## Authorities -/

/-- A character that ends an authority. -/
def endsAuthority (special : Bool) (c : Char) : Bool :=
  c == '/' || c == '?' || c == '#' || (special && c == '\\')

/-- The text before the last `@`, if there is one, and after it. -/
def splitUser (cs : List Char) : Option (List Char) × List Char :=
  match cs.reverse.span (· != '@') with
  | (host, _ :: user) => (some user.reverse, host.reverse)
  | (host, []) => (none, host.reverse)

/-- The host at the head of a text, up to a colon outside brackets. -/
def spanHost : Bool → List Char → List Char × List Char
  | _, [] => ([], [])
  | inside, c :: cs =>
    if c == ':' && !inside then ([], c :: cs)
    else
      let inside := if c == '[' then true else if c == ']' then false else inside
      let (h, r) := spanHost inside cs
      (c :: h, r)

/-- A port, and what follows it. The standard port of the scheme is left out. -/
def portOf (scheme : String) (cs : List Char) : Except Fault (Option Nat × List Char) :=
  let (digits, rest) := cs.span Char.isDigit
  let n := digits.foldl (fun n c => n * 10 + (c.toNat - 0x30)) 0
  if 65535 < n then .error .port
  else
    match rest with
    | c :: _ =>
      if endsAuthority true c then
        .ok (if digits.isEmpty ∨ defaultPort? scheme = some n then none else some n, rest)
      else .error .port
    | [] => .ok (if digits.isEmpty ∨ defaultPort? scheme = some n then none else some n, rest)

/-- Reads what follows the two slashes behind a scheme other than `file`. -/
def afterSlashes (scheme : String) (cs : List Char) : Except Fault Url := do
  let special := isSpecial scheme
  let (authority, rest) := cs.span fun c => !endsAuthority special c
  let (info, hostPort) := splitUser authority
  if info = some [] ∧ hostPort.isEmpty ∧ !rest.isEmpty then throw .emptyHost
  let info := info.getD []
  let (user, password) := info.span (· != ':')
  let password := password.drop 1
  let (hostText, after) := spanHost false hostPort
  if special ∧ hostText.isEmpty then throw .emptyHost
  let host ← if special then Host.ofDomain hostText else Host.ofOpaque hostText
  if hostText.isEmpty ∧ !after.isEmpty then throw .emptyHost
  let (port, rest) ← match after with
    | [] => pure (none, rest)
    | _ :: digits => portOf scheme (digits ++ rest)
  if hostText.isEmpty ∧ !(user.isEmpty ∧ password.isEmpty) then throw .emptyHost
  let (path, suffix) := untilQuery rest
  let encoded (cs : List Char) : String := String.ofList (Percent.encode userEscapes cs)
  return withSuffix {
    scheme
    user := encoded user
    password := encoded password
    host := some host
    port
    path := .segments (pathOf scheme path) } suffix

/-! ## Files -/

/-- Without the empty segments in front, of which the last of all stays. -/
def dropEmpty : List String → List String
  | "" :: s :: ss => dropEmpty (s :: ss)
  | ss => ss

/-- A file with the path and the suffix that a text spells. The host of a path that begins with a
drive is dropped, before the empty segments in front are. Where no host was given, the slash at the
head of the text ends an empty segment. -/
def fileOf (host : Host) (cs : List Char) : Url :=
  let (text, suffix) := untilQuery cs
  let path :=
    if host = .name "" then extendedAll true [] (pieces true text) else pathOf "file" text
  let host := if path.head?.any isNormalDrive then .name "" else host
  withSuffix { scheme := "file", host := some host, path := .segments (dropEmpty path) } suffix

/-- Reads what follows the scheme `file`. -/
def ofFile (cs : List Char) : Except Fault Url := do
  let slash := isSlash true
  match cs with
  | a :: rest =>
    if slash a then
      match rest with
      | b :: rest' =>
        if slash b then
          let (hostText, after) := rest'.span fun c => !endsAuthority true c
          if hostText.isEmpty ∨ isDrive (String.ofList hostText) then return fileOf (.name "") rest'
          let host ← Host.ofDomain hostText
          return fileOf (if host = .name "localhost" then .name "" else host) after
        else return fileOf (.name "") rest
      | [] => return fileOf (.name "") rest
    else return fileOf (.name "") cs
  | [] => return fileOf (.name "") cs

/-! ## URLs -/

/-- The scheme in lower case, and what follows its colon. -/
def scheme? (cs : List Char) : Option (String × List Char) :=
  let isSchemeCharacter (c : Char) : Bool := c.isAlphanum || c == '+' || c == '-' || c == '.'
  match cs with
  | c :: _ =>
    if c.isAlpha then
      match cs.span isSchemeCharacter with
      | (s, ':' :: rest) => some (String.ofList (s.map Char.toLower), rest)
      | _ => none
    else none
  | [] => none

/-- Reads what follows a scheme that is not special. -/
def ofOther (scheme : String) (cs : List Char) : Except Fault Url :=
  match cs with
  | '/' :: '/' :: rest => afterSlashes scheme rest
  | '/' :: _ =>
    let (path, suffix) := untilQuery cs
    .ok (withSuffix { scheme, path := .segments (pathOf scheme path) } suffix)
  | _ =>
    let (path, suffix) := untilQuery cs
    .ok (withSuffix { scheme, path := .plain (String.ofList (Percent.encode [] path)) } suffix)

/-- Reads an absolute URL. -/
def parse (s : String) : Except Fault Url :=
  match scheme? (cleaned s.toList) with
  | none => .error .relative
  | some (scheme, rest) =>
    if scheme = "file" then ofFile rest
    else if isSpecial scheme then afterSlashes scheme (rest.dropWhile (isSlash true))
    else ofOther scheme rest

/-! ## References -/

/-- A reference that is an absolute path, perhaps with a query and a fragment: as it is read, its
text begins with a slash, and not with two. -/
structure AbsolutePath where
  text : String
  rooted : (cleaned text.toList).head? = some '/'
  unhosted : ((cleaned text.toList).drop 1).head?.any (isSlash true) = false
  deriving DecidableEq

/-- The URL that a reference means if it stands in the document of another one. The drive of a file
stays, unless the reference has one itself. -/
def join (u : Url) (reference : AbsolutePath) : Except Fault Url :=
  match u.path with
  | .plain _ => .error .noHierarchy
  | .segments parts =>
    let (text, suffix) := untilQuery ((cleaned reference.text.toList).drop 1)
    let file := u.scheme == "file"
    let given := pieces (isSpecial u.scheme) text
    let keepsDrive := file && !given.head?.any fun p => isDrive (String.ofList p)
    let drive := (parts.take 1).filter fun s => keepsDrive && isNormalDrive s
    let path := extendedAll file drive given
    let path := if file then dropEmpty path else path
    .ok (withSuffix { u with path := .segments path, query := none, fragment := none } suffix)

end RpcGuard.Url
