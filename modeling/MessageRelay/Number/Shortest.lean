/-!
The shortest decimal of a double: the fewest digits that read back as the same double, and of those
the decimal nearest to it. A finite double is `m * 2^q`; every comparison below is one of natural
numbers, so no step rounds.
-/
namespace MessageRelay.Shortest

structure Decimal where
  digits : Nat
  exponent : Int
  deriving DecidableEq, Repr

/-- A finite double, taken apart. The value is `mantissa * 2^exponent`, with the sign beside it. -/
structure Parts where
  negative : Bool
  mantissa : Nat
  exponent : Int
  narrow : Bool
  deriving DecidableEq, Repr

def hiddenBit : Nat := Nat.pow 2 52

def parts? (x : Float) : Option Parts :=
  let bits := x.toBits.toNat
  let negative := decide (UInt64.size / 2 ≤ bits)
  let biased : Nat := bits / hiddenBit % 2048
  let fraction : Nat := bits % hiddenBit
  if biased = 2047 then none
  else if biased = 0 then some ⟨negative, fraction, -1074, false⟩
  else some ⟨negative, hiddenBit + fraction, (biased : Int) - 1075, fraction == 0 && decide (1 < biased)⟩

/-- Numerator and denominator of `2^binary / 10^decimal`. -/
def ratio (binary decimal : Int) : Nat × Nat :=
  (Nat.pow 2 binary.toNat * Nat.pow 10 (-decimal).toNat,
    Nat.pow 2 (-binary).toNat * Nat.pow 10 decimal.toNat)

def scaleUp (a b : Nat) : (fuel start : Nat) → Nat
  | 0, start => start
  | fuel + 1, start => if b ≤ a then start else scaleUp (a * 10) b fuel (start + 1)

/-- The `k` with `10^(k-1) ≤ a / b < 10^k`, for a positive quotient. -/
def magnitude (a b : Nat) : Int :=
  if b ≤ a then (Nat.toDigits 10 (a / b)).length else 1 - (scaleUp a b 400 0 : Int)

/-- The decimal with `count` digits that reads back as the value with these parts, if there is one:
the nearer of the two neighbours on that grid, where both do, and the even one at a tie. -/
def onGrid? (p : Parts) (top : Int) (count : Nat) : Option Decimal :=
  let exponent := top - count
  let (unit, den) := ratio (p.exponent - 2) exponent
  let value := 4 * p.mantissa * unit
  let low := (4 * p.mantissa - (if p.narrow then 1 else 2)) * unit
  let high := (4 * p.mantissa + 2) * unit
  let closed := p.mantissa % 2 = 0
  let below := value / den
  let belowFits := if closed then decide (low ≤ below * den) else decide (low < below * den)
  let aboveFits :=
    if closed then decide ((below + 1) * den ≤ high) else decide ((below + 1) * den < high)
  let fromBelow := value % den
  let fromAbove := den - fromBelow
  if belowFits && aboveFits then
    let up := decide (fromAbove < fromBelow) || (decide (fromAbove = fromBelow) && below % 2 = 1)
    some ⟨if up then below + 1 else below, exponent⟩
  else if belowFits then some ⟨below, exponent⟩
  else if aboveFits then some ⟨below + 1, exponent⟩
  else none

/-- Tries grids of growing digit count. Seventeen digits always suffice. -/
def search (p : Parts) (top : Int) : (fuel count : Nat) → Decimal
  | 0, _ => ⟨0, 0⟩
  | fuel + 1, count => (onGrid? p top count).getD (search p top fuel (count + 1))

def stripZeros : (fuel : Nat) → Decimal → Decimal
  | 0, d => d
  | fuel + 1, d =>
    if d.digits % 10 = 0 then stripZeros fuel ⟨d.digits / 10, d.exponent + 1⟩ else d

/-- The shortest decimal of the positive value with these parts. A value just below a power of ten
may be found as ten units of its grid, so zeros at the end are taken away. -/
def ofParts (p : Parts) : Decimal :=
  let (unit, den) := ratio p.exponent 0
  stripZeros 17 (search p (magnitude (p.mantissa * unit) den) 17 1)

def zeros (n : Nat) : List Char := List.replicate n '0'

def positional (d : Decimal) : List Char :=
  let ds := Nat.toDigits 10 d.digits
  let point := (ds.length : Int) + d.exponent
  if point ≤ 0 then '0' :: '.' :: zeros (-point).toNat ++ ds
  else if ds.length ≤ point.toNat then ds ++ zeros (point.toNat - ds.length)
  else ds.take point.toNat ++ '.' :: ds.drop point.toNat

def plain (x : Float) : String :=
  match parts? x with
  | none => if x.isNaN then "NaN" else if x < 0 then "-Inf" else "+Inf"
  | some p =>
    let sign := if p.negative then ['-'] else []
    String.ofList (sign ++ (if p.mantissa = 0 then ['0'] else positional (ofParts p)))

end MessageRelay.Shortest
