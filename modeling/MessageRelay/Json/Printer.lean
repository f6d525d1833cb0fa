import MessageRelay.Json.Value
import MessageRelay.Number.Shortest

/-!
The written form of a JSON value: no blanks, members in the order of their keys, numbers with the
fewest digits that read back. A double always shows a point or an exponent, so that it is never
taken for an integer.
-/
namespace MessageRelay

namespace Shortest

/-- Text of a double in a document: positional from `10^-5` up to `10^16`, else with an exponent. -/
def literal (x : Float) : List Char :=
  match parts? x with
  | none => "null".toList
  | some p =>
    let sign := if p.negative then ['-'] else []
    if p.mantissa = 0 then sign ++ ['0', '.', '0'] else
    let d := ofParts p
    let ds := Nat.toDigits 10 d.digits
    let point := (ds.length : Int) + d.exponent
    sign ++
      if 0 ≤ d.exponent && point ≤ 16 then positional d ++ ['.', '0']
      else if -5 < point && point ≤ 16 then positional d
      else ds.take 1 ++ (if ds.length = 1 then [] else '.' :: ds.drop 1) ++
        'e' :: (toString (point - 1)).toList

end Shortest

def Number.toChars : Number → List Char
  | .int n => (toString n).toList
  | .double x => Shortest.literal x

namespace Json

def hexDigits (n : Nat) : List Char :=
  let ds := Nat.toDigits 16 n
  List.replicate (4 - ds.length) '0' ++ ds

def escape (c : Char) : List Char :=
  if c = '"' then ['\\', '"']
  else if c = '\\' then ['\\', '\\']
  else if c = '\n' then ['\\', 'n']
  else if c = '\t' then ['\\', 't']
  else if c = '\r' then ['\\', 'r']
  else if c = '\x08' then ['\\', 'b']
  else if c = '\x0c' then ['\\', 'f']
  else if c.toNat < 0x20 then '\\' :: 'u' :: hexDigits c.toNat
  else [c]

def textChars (s : String) : List Char := '"' :: s.toList.flatMap escape ++ ['"']

mutual

def toChars : Json → List Char
  | .null => ['n', 'u', 'l', 'l']
  | .bool true => ['t', 'r', 'u', 'e']
  | .bool false => ['f', 'a', 'l', 's', 'e']
  | .num n => n.toChars
  | .str s => textChars s
  | .arr items => '[' :: itemChars items ++ [']']
  | .obj members => '{' :: memberChars members ++ ['}']

def itemChars : List Json → List Char
  | [] => []
  | [v] => toChars v
  | v :: w :: rest => toChars v ++ ',' :: itemChars (w :: rest)

def memberChars : List (String × Json) → List Char
  | [] => []
  | [(k, v)] => textChars k ++ ':' :: toChars v
  | (k, v) :: m :: rest => textChars k ++ ':' :: toChars v ++ ',' :: memberChars (m :: rest)

end

def render (v : Json) : String := String.ofList v.toChars

end Json

end MessageRelay
