import MessageRelay.Text.Printable

/-!
Quoted text, as it stands in error messages: double quotes around it, a backslash before quotes and
backslashes, short escapes for the common controls, and the code point in braces for every other
character that would not be seen.
-/
namespace MessageRelay.Text

def hex (n : Nat) : List Char := Nat.toDigits 16 n

def escape (c : Char) : List Char :=
  if c = '\x00' then ['\\', '0']
  else if c = '\t' then ['\\', 't']
  else if c = '\r' then ['\\', 'r']
  else if c = '\n' then ['\\', 'n']
  else if c = '\\' then ['\\', '\\']
  else if c = '"' then ['\\', '"']
  else if isPrintable c then [c]
  else ['\\', 'u', '{'] ++ hex c.toNat ++ ['}']

def quoted (s : String) : String :=
  String.ofList ('"' :: s.toList.flatMap escape ++ ['"'])

end MessageRelay.Text
