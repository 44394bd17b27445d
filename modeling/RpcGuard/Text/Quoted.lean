import RpcGuard.Text.Hidden

/-!
# Quoted texts

A text between double quotes, in which quotes, backslashes, line ends, tabs, NUL and hidden
characters are written as escapes. An optional text is quoted inside `Some(…)`, an absent one is
`None`.
-/

namespace RpcGuard.Text

/-- The hexadecimal digits of a number, in lower case. -/
def hexDigits (n : Nat) : List Char := Nat.toDigits 16 n

/-- One character as it stands between quotes. -/
def quotedChar (c : Char) : List Char :=
  if c = '"' then ['\\', '"']
  else if c = '\\' then ['\\', '\\']
  else if c = '\n' then ['\\', 'n']
  else if c = '\r' then ['\\', 'r']
  else if c = '\t' then ['\\', 't']
  else if c = Char.ofNat 0 then ['\\', '0']
  else if isHidden c then ['\\', 'u', '\x7b'] ++ hexDigits c.toNat ++ ['\x7d']
  else [c]

/-- The text between quotes. -/
def quoted (s : String) : String :=
  String.ofList ('"' :: s.toList.flatMap quotedChar ++ ['"'])

/-- An optional value: `None`, or the shown value inside `Some(…)`. -/
def optional {α : Type} (render : α → String) : Option α → String
  | none => "None"
  | some a => "Some(" ++ render a ++ ")"

/-- An optional text between quotes. -/
def quoted? (s : Option String) : String := optional quoted s

end RpcGuard.Text
