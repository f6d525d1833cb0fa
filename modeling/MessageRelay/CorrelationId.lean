/-!
Correlation ids: what links a request to its reply. An id is a 128-bit word, written as 32
hexadecimal digits in five groups. Reading also takes the digits without hyphens, capital digits,
and the grouped form in braces or after `urn:uuid:`.
-/
namespace MessageRelay

structure CorrelationId where
  high : UInt64
  low : UInt64
  deriving DecidableEq, Hashable

namespace CorrelationId

instance : Inhabited CorrelationId := ⟨⟨0, 0⟩⟩

def toNat (id : CorrelationId) : Nat := id.high.toNat * UInt64.size + id.low.toNat

def ofNat (n : Nat) : CorrelationId := ⟨.ofNat (n / UInt64.size), .ofNat n⟩

instance : LT CorrelationId := ⟨fun a b => a.toNat < b.toNat⟩

instance : LE CorrelationId := ⟨fun a b => a.toNat ≤ b.toNat⟩

instance (a b : CorrelationId) : Decidable (a < b) := inferInstanceAs (Decidable (a.toNat < b.toNat))

instance (a b : CorrelationId) : Decidable (a ≤ b) := inferInstanceAs (Decidable (a.toNat ≤ b.toNat))

def version (id : CorrelationId) : Nat := id.high.toNat / 4096 % 16

/-- The id that a generator gives out after `n` others. All of them share the time; the low 62 bits
count, so they are different and increase as long as `n` stays below `2^62`. -/
def fresh (n : Nat) : CorrelationId := ⟨0x01A2B3C4D5E67000, .ofNat (UInt64.size / 2 + n)⟩

def groupLengths : List Nat := [8, 4, 4, 4, 12]

def digits : (count : Nat) → Nat → List Char
  | 0, _ => []
  | count + 1, n => digits count (n / 16) ++ [Nat.digitChar (n % 16)]

def grouped : List Nat → List Char → List Char
  | [], _ => []
  | [_], ds => ds
  | n :: m :: rest, ds => ds.take n ++ '-' :: grouped (m :: rest) (ds.drop n)

def toChars (id : CorrelationId) : List Char := grouped groupLengths (digits 32 id.toNat)

def toText (id : CorrelationId) : String := String.ofList id.toChars

inductive ParseError where
  | character (c : Char) (index : Nat)
  | length (found : Nat)
  | groupCount (found : Nat)
  | groupLength (group expected found : Nat)
  deriving DecidableEq, Repr

def ParseError.message : ParseError → String
  | .character c index => "invalid character: found `" ++ c.toString ++ s!"` at {index}"
  | .length found => s!"invalid length: found {found}"
  | .groupCount found => s!"invalid group count: expected 5, found {found}"
  | .groupLength group expected found =>
    s!"invalid group length in group {group}: expected {expected}, found {found}"

def urn : List Char := "urn:uuid:".toList

inductive Wrapping where
  | none | braces | urn
  deriving DecidableEq, Repr

def Wrapping.offset : Wrapping → Nat
  | .none => 0
  | .braces => 1
  | .urn => 9

def unwrap (s : List Char) : Wrapping × List Char :=
  if 2 ≤ s.length && s.head? = some '{' && s.getLast? = some '}' then
    (.braces, s.tail.dropLast)
  else if (s.take 9).map Char.toLower = urn then (.urn, s.drop 9)
  else (.none, s)

def hexValue? (c : Char) : Option Nat :=
  if '0' ≤ c && c ≤ '9' then some (c.toNat - '0'.toNat)
  else if 'a' ≤ c && c ≤ 'f' then some (c.toNat - 'a'.toNat + 10)
  else if 'A' ≤ c && c ≤ 'F' then some (c.toNat - 'A'.toNat + 10)
  else none

def stray? : List Char → (index : Nat) → Option (Char × Nat)
  | [], _ => none
  | c :: rest, index =>
    if c = '-' || (hexValue? c).isSome then stray? rest (index + c.utf8Size) else some (c, index)

def groups : List Char → List (List Char)
  | [] => [[]]
  | c :: rest =>
    match groups rest with
    | [] => [[c]]
    | g :: gs => if c = '-' then [] :: g :: gs else (c :: g) :: gs

def wrongGroup? : List Nat → (index : Nat) → List (List Char) → Option (Nat × Nat × Nat)
  | n :: ns, index, g :: gs =>
    if g.length = n then wrongGroup? ns (index + 1) gs else some (index, n, g.length)
  | _, _, _ => none

def valueOf (ds : List Char) : CorrelationId :=
  ofNat (ds.foldl (fun n c => n * 16 + (hexValue? c).getD 0) 0)

def bytes (s : List Char) : Nat := s.foldl (fun n c => n + c.utf8Size) 0

/-- The length told of a wrong last group is that of all the text but four full groups. -/
def parseChars (s : List Char) : Except ParseError CorrelationId :=
  let (wrapping, body) := unwrap s
  match stray? body wrapping.offset with
  | some (c, index) => .error (.character c index)
  | none =>
    let gs := groups body
    if gs.length = 1 && wrapping = .none then
      if body.length = 32 then .ok (valueOf body) else .error (.length (bytes s))
    else if gs.length ≠ 5 then .error (.groupCount gs.length)
    else
      match wrongGroup? groupLengths 0 gs with
      | none => .ok (valueOf gs.flatten)
      | some (group, expected, found) =>
        .error (.groupLength group expected (if group = 4 then bytes s - 24 else found))

def parse (s : String) : Except ParseError CorrelationId := parseChars s.toList

end CorrelationId

end MessageRelay
