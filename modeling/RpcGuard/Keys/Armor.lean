import RpcGuard.Keys.Pem
import RpcGuard.Text.Utf8

/-!
# Armoring

A public key may be given as the bare base64 body of its PEM text. `Pem.armored` puts the lines of
a block around such a body.
-/

namespace RpcGuard.Pem

/-- The text holds another. -/
def contains (part : List Char) : List Char → Bool
  | [] => part.isEmpty
  | c :: cs => part.isPrefixOf (c :: cs) || contains part cs

/-- The bytes in runs of `n`, of which the last may be shorter. -/
def runs (n : Nat) : Nat → Bytes → List Bytes
  | _, [] => []
  | 0, _ => []
  | fuel + 1, bs => bs.take n :: runs n fuel (bs.drop n)

/-- A body in lines of 64 bytes, without its white space, as a block of a public key. A line that
ends inside a character shows that character as malformed. -/
def armoredBody (text : List Char) : List Char :=
  let body := Utf8.encode (text.filter fun c => !Text.isBlank c)
  let lines := (runs 64 body.length body).map fun line => Utf8.decodeLossy line ++ ['\n']
  "-----BEGIN PUBLIC KEY-----\n".toList ++ lines.flatten ++ "-----END PUBLIC KEY-----\n".toList

/-- The text with a block: as it is if it holds the start of one. -/
def armored (text : List Char) : List Char :=
  if contains armorStart.toList text then text else armoredBody text

end RpcGuard.Pem
