import MessageRelay.Json.Problem
import MessageRelay.Number.Scaled

/-!
Reading JSON text. A reader takes what it needs from the front of the text and keeps count of lines
and bytes. Each complaint points either at the last byte read or at the byte ahead of it.
Lists and objects may be nested in each other, up to `room` of them.
-/
namespace MessageRelay.Json

/-- What of the text is still to be read, and where that stands. -/
structure Cursor where
  rest : List Char
  position : Position

abbrev Reader := StateT Cursor (Except DecodeError)

namespace Position

def past (p : Position) (c : Char) : Position :=
  if c = '\n' then ⟨p.line + 1, 0⟩ else ⟨p.line, p.column + c.utf8Size⟩

def pastBytes (p : Position) : List Char → (count : Nat) → Position
  | [], _ => p
  | c :: rest, count =>
    if count = 0 then p
    else if c = '\n' then pastBytes ⟨p.line + 1, 0⟩ rest (count - 1)
    else if c.utf8Size ≤ count then pastBytes (p.past c) rest (count - c.utf8Size)
    else ⟨p.line, p.column + count⟩

end Position

def Cursor.ofText (text : String) : Cursor := ⟨text.toList, 1, 0⟩

def Cursor.atEnd (c : Cursor) : Cursor := ⟨[], c.rest.foldl Position.past c.position⟩

namespace Reader

def failHere {α : Type} (problem : Problem) : Reader α :=
  fun c => .error ⟨problem, some c.position⟩

def failAhead {α : Type} (problem : Problem) : Reader α :=
  fun c => .error ⟨problem, some (c.position.pastBytes c.rest 1)⟩

def peek? : Reader (Option Char) := fun c => .ok (c.rest.head?, c)

def skip : Reader Unit := fun c =>
  match c.rest with
  | [] => .ok ((), c)
  | ch :: rest => .ok ((), ⟨rest, c.position.past ch⟩)

def isBlank (c : Char) : Bool := c = ' ' || c = '\n' || c = '\t' || c = '\r'

def takeWhile (test : Char → Bool) : Reader (List Char) := fun c =>
  let taken := c.rest.takeWhile test
  .ok (taken, ⟨c.rest.dropWhile test, taken.foldl Position.past c.position⟩)

def ahead? : Reader (Option Char) := do
  let _ ← takeWhile isBlank
  peek?

def word : List Char → Reader Unit
  | [] => pure ()
  | expected :: rest => do
    match ← peek? with
    | none => failHere .endOfValue
    | some c => if c = expected then skip; word rest else failAhead .expectedWord

def digitValue (c : Char) : Nat := c.toNat - '0'.toNat

def append? (significand : Nat) (digit : Char) : Option Nat :=
  let n := significand * 10 + digitValue digit
  if n < UInt64.size then some n else none

def appendWhole (significand : Nat) : List Char → Nat × Nat
  | [] => (significand, 0)
  | d :: ds =>
    match append? significand d with
    | some n => appendWhole n ds
    | none => (significand, ds.length + 1)

def appendFraction (significand : Nat) : List Char → Nat × Nat
  | [] => (significand, 0)
  | d :: ds =>
    match append? significand d with
    | some n => let (m, count) := appendFraction n ds; (m, count + 1)
    | none => (significand, 0)

def signed (negative : Bool) (x : Float) : Float := if negative then -x else x

def scaled (negative : Bool) (significand : Nat) (exponent : Int) : Reader Number :=
  match Scaled.toDouble? significand.toUInt64 exponent with
  | some x => pure (.double (signed negative x))
  | none => failHere .outOfRange

/-- Digits of an exponent, up to the first that takes it past the signed 32-bit range; the flag
tells whether there is one. -/
def exponentDigits : (fuel : Nat) → (exponent : Nat) → Reader (Nat × Bool)
  | 0, exponent => pure (exponent, false)
  | fuel + 1, exponent => do
    match ← peek? with
    | some c =>
      if c.isDigit then do
        skip
        let n := exponent * 10 + digitValue c
        if n < UInt32.size / 2 then exponentDigits fuel n else pure (exponent, true)
      else pure (exponent, false)
    | none => pure (exponent, false)

def remaining : Reader Nat := fun c => .ok (c.rest.length, c)

def exponentSign : Reader Bool := do
  match ← peek? with
  | some '+' => skip; pure true
  | some '-' => skip; pure false
  | _ => pure true

def exponentPart (negative : Bool) (significand : Nat) (exponent : Int) : Reader Number := do
  skip
  let positive ← exponentSign
  match ← peek? with
  | none => failHere .endOfValue
  | some c =>
    if !c.isDigit then failAhead .invalidNumber else
    let (n, excess) ← exponentDigits (← remaining) 0
    if excess then
      if significand ≠ 0 && positive then failHere .outOfRange
      else
        let _ ← takeWhile Char.isDigit
        pure (.double (signed negative 0.0))
    else scaled negative significand (if positive then exponent + n else exponent - n)

def isExponentMark (c : Option Char) : Bool := c = some 'e' || c = some 'E'

def fractionPart (negative : Bool) (significand : Nat) (exponent : Int) : Reader Number := do
  skip
  let ds ← takeWhile Char.isDigit
  let next ← peek?
  if ds.isEmpty then
    if next.isNone then failAhead .endOfValue else failAhead .invalidNumber
  else
    let (n, count) := appendFraction significand ds
    if isExponentMark next then exponentPart negative n (exponent - count)
    else scaled negative n (exponent - count)

/-- A number without point and exponent. A negative zero, and a negative number below the signed
range, are doubles. -/
def whole (negative : Bool) (n : Nat) : Number :=
  if !negative then .int n
  else if 1 ≤ n && n ≤ UInt64.size / 2 then .int (-n)
  else .double (-n.toUInt64.toFloat)

def magnitude (negative : Bool) : Reader Number := do
  match ← peek? with
  | none => failHere .endOfValue
  | some c =>
    if !c.isDigit then failAhead .invalidNumber else
    skip
    if c = '0' && (← peek?).any Char.isDigit then failAhead .invalidNumber else
    let ds ← if c = '0' then pure [] else takeWhile Char.isDigit
    let (n, excess) := appendWhole (digitValue c) ds
    let next ← peek?
    if next = some '.' then fractionPart negative n excess
    else if isExponentMark next then exponentPart negative n excess
    else if excess = 0 then pure (whole negative n)
    else scaled negative n excess

def number : Reader Number := do
  if (← peek?) = some '-' then skip; magnitude true else magnitude false

def hexValue? (c : Char) : Option Nat :=
  if c.isDigit then some (digitValue c)
  else if 'a' ≤ c && c ≤ 'f' then some (c.toNat - 'a'.toNat + 10)
  else if 'A' ≤ c && c ≤ 'F' then some (c.toNat - 'A'.toNat + 10)
  else none

def hexWord? : List Char → Option Nat
  | [a, b, c, d] => do
    return ((((← hexValue? a) * 16 + (← hexValue? b)) * 16) + (← hexValue? c)) * 16 + (← hexValue? d)
  | _ => none

/-- Four hexadecimal digits. Where the four bytes ahead are none the complaint stands after them. -/
def hexWord : Reader Nat := fun c =>
  if c.rest.foldl (fun n d => n + d.utf8Size) 0 < 4 then .error ⟨.endOfText, some c.atEnd.position⟩
  else
    match hexWord? (c.rest.take 4) with
    | some n => .ok (n, ⟨c.rest.drop 4, (c.rest.take 4).foldl Position.past c.position⟩)
    | none => .error ⟨.invalidEscape, some (c.position.pastBytes c.rest 4)⟩

def surrogateMark (mark : Char) : Reader Unit := do
  match ← peek? with
  | none => failHere .endOfText
  | some c => if c = mark then skip else failAhead .unfinishedEscape

/-- The character of a hexadecimal escape; one outside the basic plane takes two of them. -/
def hexEscape : Reader Char := do
  let first ← hexWord
  if 0xDC00 ≤ first && first ≤ 0xDFFF then failHere .loneSurrogate
  else if first < 0xD800 || 0xDBFF < first then pure (Char.ofNat first)
  else
    surrogateMark '\\'
    surrogateMark 'u'
    let second ← hexWord
    if 0xDC00 ≤ second && second ≤ 0xDFFF then
      pure (Char.ofNat (0x10000 + (first - 0xD800) * 0x400 + (second - 0xDC00)))
    else failHere .loneSurrogate

def shortEscape? (c : Char) : Option Char :=
  if c = '"' || c = '\\' || c = '/' then some c
  else if c = 'b' then some '\x08'
  else if c = 'f' then some '\x0c'
  else if c = 'n' then some '\n'
  else if c = 'r' then some '\r'
  else if c = 't' then some '\t'
  else none

def escaped : Reader Char := do
  match ← peek? with
  | none => failHere .endOfText
  | some c =>
    if c = 'u' then skip; hexEscape
    else match shortEscape? c with
      | some e => skip; pure e
      | none => failAhead .invalidEscape

def textFrom : (fuel : Nat) → Reader (List Char)
  | 0 => failHere .endOfText
  | fuel + 1 => do
    match ← peek? with
    | none => failHere .endOfText
    | some c =>
      if c = '"' then skip; pure []
      else if c = '\\' then
        skip
        let e ← escaped
        return e :: (← textFrom fuel)
      else if c.toNat < 0x20 then failAhead .controlCharacter
      else
        skip
        return c :: (← textFrom fuel)

def text : Reader String := do
  skip
  return String.ofList (← textFrom ((← remaining) + 1))

def hasItem (first : Bool) : Reader Bool := do
  match ← ahead? with
  | none => failAhead .endOfList
  | some c =>
    if c = ']' then pure false
    else if first then pure true
    else if c = ',' then
      skip
      match ← ahead? with
      | none => failAhead .endOfValue
      | some d => if d = ']' then failAhead .trailingComma else pure true
    else failAhead .expectedItemEnd

def hasMember (first : Bool) : Reader Bool := do
  match ← ahead? with
  | none => failAhead .endOfObject
  | some c =>
    if c = '}' then pure false
    else if first then if c = '"' then pure true else failAhead .expectedKey
    else if c = ',' then
      skip
      match ← ahead? with
      | none => failAhead .endOfValue
      | some d =>
        if d = '"' then pure true
        else if d = '}' then failAhead .trailingComma
        else failAhead .expectedKey
    else failAhead .expectedMemberEnd

def colon : Reader Unit := do
  match ← ahead? with
  | none => failAhead .endOfObject
  | some c => if c = ':' then skip else failAhead .expectedColon

def closeList : Reader Unit := do
  match ← ahead? with
  | none => failAhead .endOfList
  | some c =>
    if c = ']' then skip
    else if c = ',' then
      skip
      if (← ahead?) = some ']' then failAhead .trailingComma else failAhead .trailingCharacters
    else failAhead .trailingCharacters

def closeObject : Reader Unit := do
  match ← ahead? with
  | none => failAhead .endOfObject
  | some c =>
    if c = '}' then skip
    else if c = ',' then failAhead .trailingComma
    else failAhead .trailingCharacters

def items {α : Type} (item : Reader α) : (fuel : Nat) → (first : Bool) → Reader (List α)
  | 0, _ => pure []
  | fuel + 1, first => do
    if ← hasItem first then
      let a ← item
      return a :: (← items item fuel false)
    else pure []

def members {α : Type} (value : Reader α) : (fuel : Nat) → (first : Bool) →
    Reader (List (String × α))
  | 0, _ => pure []
  | fuel + 1, first => do
    if ← hasMember first then
      let key ← text
      colon
      let a ← value
      return (key, a) :: (← members value fuel false)
    else pure []

def value (room : Nat) : Reader Json := do
  match ← ahead? with
  | none => failAhead .endOfValue
  | some c =>
    if c = 'n' then word ['n', 'u', 'l', 'l']; pure .null
    else if c = 't' then word ['t', 'r', 'u', 'e']; pure (.bool true)
    else if c = 'f' then word ['f', 'a', 'l', 's', 'e']; pure (.bool false)
    else if c = '-' || c.isDigit then return .num (← number)
    else if c = '"' then return .str (← text)
    else if c = '[' then
      match room with
      | 0 => failAhead .tooDeep
      | room + 1 =>
        skip
        let xs ← items (value room) ((← remaining) + 1) true
        closeList
        pure (.arr xs)
    else if c = '{' then
      match room with
      | 0 => failAhead .tooDeep
      | room + 1 =>
        skip
        let ms ← members (value room) ((← remaining) + 1) true
        closeObject
        pure (ofMembers ms)
    else failAhead .expectedValue

def ignoreHexWord : Reader Unit := do
  let _ ← hexWord

def ignoreTextFrom : (fuel : Nat) → Reader Unit
  | 0 => failHere .endOfText
  | fuel + 1 => do
    match ← peek? with
    | none => failHere .endOfText
    | some c =>
      if c = '"' then skip
      else if c = '\\' then
        skip
        match ← peek? with
        | none => failHere .endOfText
        | some e =>
          if e = 'u' then skip; ignoreHexWord
          else if (shortEscape? e).isSome then skip
          else failAhead .invalidEscape
        ignoreTextFrom fuel
      else if c.toNat < 0x20 then failHere .controlCharacter
      else
        skip
        ignoreTextFrom fuel

def ignoreText : Reader Unit := do
  skip
  ignoreTextFrom ((← remaining) + 1)

def ignoreExponent : Reader Unit := do
  skip
  let _ ← exponentSign
  if (← peek?).any Char.isDigit then
    let _ ← takeWhile Char.isDigit
  else failAhead .invalidNumber

def ignoreNumber : Reader Unit := do
  if (← peek?) = some '-' then skip
  match ← peek? with
  | none => failHere .invalidNumber
  | some c =>
    if !c.isDigit then failAhead .invalidNumber
    skip
    if c = '0' then
      if (← peek?).any Char.isDigit then failAhead .invalidNumber
    else
      let _ ← takeWhile Char.isDigit
    if (← peek?) = some '.' then
      skip
      let ds ← takeWhile Char.isDigit
      if ds.isEmpty then failAhead .invalidNumber
    if isExponentMark (← peek?) then ignoreExponent

def ignoreItems (item : Reader Unit) : (fuel : Nat) → Reader Unit
  | 0 => failAhead .endOfList
  | fuel + 1 => do
    item
    match ← ahead? with
    | none => failAhead .endOfList
    | some c =>
      if c = ',' then skip; ignoreItems item fuel
      else if c = ']' then skip
      else failAhead .expectedItemEnd

def ignoreMembers (item : Reader Unit) : (fuel : Nat) → Reader Unit
  | 0 => failAhead .endOfObject
  | fuel + 1 => do
    match ← ahead? with
    | none => failAhead .endOfObject
    | some c => if c = '"' then ignoreText else failAhead .expectedKey
    colon
    item
    match ← ahead? with
    | none => failAhead .endOfObject
    | some c =>
      if c = ',' then skip; ignoreMembers item fuel
      else if c = '}' then skip
      else failAhead .expectedMemberEnd

/-- Passes over a value; `fuel` bounds its depth. -/
def ignoreValue : (fuel : Nat) → Reader Unit
  | 0 => failAhead .endOfValue
  | fuel + 1 => do
    match ← ahead? with
    | none => failAhead .endOfValue
    | some c =>
      if c = 'n' then word ['n', 'u', 'l', 'l']
      else if c = 't' then word ['t', 'r', 'u', 'e']
      else if c = 'f' then word ['f', 'a', 'l', 's', 'e']
      else if c = '-' || c.isDigit then ignoreNumber
      else if c = '"' then ignoreText
      else if c = '[' then
        skip
        match ← ahead? with
        | none => failAhead .endOfList
        | some d =>
          if d = ']' then skip else ignoreItems (ignoreValue fuel) ((← remaining) + 1)
      else if c = '{' then
        skip
        match ← ahead? with
        | none => failAhead .endOfObject
        | some d =>
          if d = '}' then skip else ignoreMembers (ignoreValue fuel) ((← remaining) + 1)
      else failAhead .expectedValue

def ignore : Reader Unit := do
  ignoreValue ((← remaining) + 1)

def finish : Reader Unit := do
  if (← ahead?).isSome then failAhead .trailingCharacters

def whole? {α : Type} (reader : Reader α) (text : String) : Except DecodeError α :=
  (StateT.run (reader <* finish) (Cursor.ofText text)).map (·.1)

end Reader

/-- How many lists and objects a document may have nested in each other. -/
def depthLimit : Nat := 127

def ofText (text : String) : Except DecodeError Json := (Reader.value depthLimit).whole? text

end MessageRelay.Json
