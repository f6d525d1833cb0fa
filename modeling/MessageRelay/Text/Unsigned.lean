/-!
Natural numbers as they stand in settings: decimal digits, with an optional plus sign.
-/
namespace MessageRelay.Text

/-- The number below `2^bits` that the text is, if it is one. -/
def unsigned? (bits : Nat) (s : String) : Option Nat :=
  let ds := match s.toList with
    | '+' :: ds => ds
    | ds => ds
  let n := ds.foldl (fun n c => n * 10 + (c.toNat - '0'.toNat)) 0
  if ds.isEmpty || !ds.all Char.isDigit || Nat.pow 2 bits ≤ n then none else some n

end MessageRelay.Text
