import RpcGuard.Base64
import RpcGuard.Text.Blank

/-!
# PEM texts

The first armored block of a text: a label, optional headers up to a blank line, and a base64 body
in which white space does not count. The lines around the block carry the same label.
-/

namespace RpcGuard.Pem

/-- An armored block. -/
structure Block where
  label : String
  contents : Bytes
  deriving DecidableEq, Repr

/-- Looks for the rest `m` of a marker, some of which may have been matched. A character that does
not match sets the search back to the whole marker, and is not looked at again. -/
def find? (marker : List Char) : (m seen text : List Char) → Option (List Char × List Char)
  | m :: ms, seen, c :: cs =>
    if c = m then
      if ms.isEmpty then some ((seen.drop (marker.length - 1)).reverse, cs)
      else find? marker ms (c :: seen) cs
    else find? marker marker (c :: seen) cs
  | _, _, _ => none

/-- What stands before a marker, and what after it. -/
def splitAt? (marker : String) (text : List Char) : Option (List Char × List Char) :=
  find? marker.toList marker.toList [] text

/-- White space that may follow the line of the label. -/
def isGap (c : Char) : Bool := c == ' ' || c == '\t' || c == '\r' || c == '\n'

/-- The lines of a text. A line feed, perhaps behind a carriage return, ends a line; the last line
need not be ended. -/
def lines (text : List Char) : List (List Char) :=
  let pieces := text.splitOn '\n'
  let ended := pieces.dropLast.map fun l => if l.getLast? = some '\r' then l.dropLast else l
  ended ++ (pieces.getLast?.filter fun l => !l.isEmpty).toList

/-- The headers and the body; without a blank line there are no headers. -/
def splitHeaders (text : List Char) : List Char × List Char :=
  (splitAt? "\n\n" text <|> splitAt? "\r\n\r\n" text).getD ([], text)

/-- The first block of a text. -/
def read? (text : List Char) : Option Block := do
  let (_, rest) ← splitAt? "-----BEGIN " text
  let (label, rest) ← splitAt? "-----" rest
  let (body, rest) ← splitAt? "-----END " (rest.dropWhile isGap)
  let (closing, _) ← splitAt? "-----" rest
  let (headers, data) := splitHeaders body
  if label ≠ [] ∧ label = closing ∧ (lines headers).all (·.contains ':') then
    let contents ← Base64.decode? .standard (data.filter fun c => !Text.isBlank c)
    return ⟨String.ofList label, contents⟩
  else none

/-- The start of an armored block. -/
def armorStart : String := "-----BEGIN"

end RpcGuard.Pem
