import RpcGuard.Text.Composed
import RpcGuard.Url.Domain.Direction
import RpcGuard.Url.Domain.Joining
import RpcGuard.Url.Punycode

/-!
# Domain names

The ASCII form of a domain name (UTS 46). The name is folded and composed and split at its stops. Each
label must be fit for a name, and all of them together must read in one way only. A label with
characters outside ASCII is then written in Punycode after `xn--`; a label that is written so already
must stand for one that needs it.
-/

namespace RpcGuard.Domain

/-- Characters that a domain name may not contain once it is folded. -/
def isForbidden (c : Char) : Bool :=
  c.toNat ≤ 0x20 || c.toNat == 0x7F || "#/:<>?@[\\]^|%".toList.contains c

/-- The character is in ASCII. -/
def isAscii (c : Char) : Bool := c.toNat < 0x80

/-- What a label in ASCII form begins with. -/
def asciiMark : List Char := "xn--".toList

/-- The most characters of a label outside ASCII. -/
def maxLabel : Nat := 1000

/-- The most characters of a label's ASCII form, after its mark. -/
def maxAsciiLabel : Nat := 2000

/-- The text is composed, and its characters stand for themselves and may stand in a name. -/
def isSettled (cs : List Char) : Bool :=
  (cs.all fun c => folded c == [c] && (isAscii c || isValid c)) && Text.composed cs == cs

/-- The label that a label in ASCII form stands for: not all in ASCII, and settled. -/
def opened? (cs : List Char) : Option (List Char) :=
  if !cs.all isAscii || maxAsciiLabel < cs.length then none
  else
    (Punycode.decode? cs).filter fun wide =>
      wide.any (!isAscii ·) && isSettled wide && Punycode.encode wide == cs

/-- The label does not begin with a mark, is not too long, and its joiners are in place. -/
def isFit (cs : List Char) : Bool :=
  (cs.all isAscii || cs.length ≤ maxLabel) && joinersFit [] cs &&
    !(match cs with
      | [] => false
      | c :: _ => Text.isMark c)

/-- The label with its characters outside ASCII shown. -/
def wide? (cs : List Char) : Option (List Char) :=
  (if asciiMark.isPrefixOf cs then opened? (cs.drop asciiMark.length) else some cs).filter isFit

/-- The label in ASCII. -/
def narrow (cs : List Char) : List Char :=
  if cs.all isAscii then cs else asciiMark ++ Punycode.encode cs

/-- The labels of a domain name, folded and composed. -/
def labels (cs : List Char) : List (List Char) := (Text.composed (cs.flatMap folded)).splitOn '.'

/-- The ASCII form of a domain name. -/
def ascii? (cs : List Char) : Option (List Char) := do
  let parts := labels cs
  if parts.any fun cs => cs.any fun c => isForbidden c || !(isAscii c || isValid c) then none
  else
    let wide ← parts.mapM wide?
    if directionsAgree wide then return ['.'].intercalate (wide.map narrow) else none

end RpcGuard.Domain
