/-!
Blank characters and trimming. A character is blank when it has the White_Space property.
-/
namespace MessageRelay.Text

def isBlank (c : Char) : Bool :=
  let n := c.toNat
  (9 ≤ n && n ≤ 13) || n = 0x20 || n = 0x85 || n = 0xA0 || n = 0x1680 ||
    (0x2000 ≤ n && n ≤ 0x200A) || n = 0x2028 || n = 0x2029 || n = 0x202F || n = 0x205F || n = 0x3000

def trim (s : String) : String :=
  String.ofList ((s.toList.dropWhile isBlank).reverse.dropWhile isBlank).reverse

example : trim " a\u00a0b\u2003\n" = "a\u00a0b" := by decide +kernel

end MessageRelay.Text
