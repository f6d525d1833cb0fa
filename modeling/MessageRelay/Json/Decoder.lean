import MessageRelay.Json.Reader

/-!
Decoders: how a JSON value becomes a value of another type. One decoder serves two ways in, straight
from text, where complaints carry a place, and from a value that was read before.
A record is written as an object, whose unknown members are passed over, or as a list of its fields
in order.
-/
namespace MessageRelay.Json

/-- A value is read where `room` more lists and objects may be nested. -/
structure Decoder (α : Type) where
  read : (room : Nat) → Reader α
  ofJson : Json → Except Problem α

namespace Reader

def found : Reader Found := do
  match ← peek? with
  | none => failAhead .expectedValue
  | some c =>
    if c = 'n' then word ['n', 'u', 'l', 'l']; pure .null
    else if c = 't' then word ['t', 'r', 'u', 'e']; pure (.bool true)
    else if c = 'f' then word ['f', 'a', 'l', 's', 'e']; pure (.bool false)
    else if c = '-' || c.isDigit then return .num (← number)
    else if c = '"' then return .text (← text)
    else if c = '[' then pure .list
    else if c = '{' then pure .object
    else failAhead .expectedValue

def mismatch {α : Type} (expected : String) : Reader α := do
  failHere (.wrongType (← found) expected)

def checked {α : Type} : Except Problem α → Reader α
  | .ok a => pure a
  | .error p => failHere p

/-- Reads the closing bracket. A complaint from inside comes first; it stands where the bracket was
looked for. -/
def settle {α : Type} (close : Reader Unit) (result : Except Problem α) : Reader α := fun c =>
  match result, close c with
  | .ok a, .ok (_, c) => .ok (a, c)
  | .ok _, .error e => .error e
  | .error p, .ok (_, c) => .error ⟨p, some c.position⟩
  | .error p, .error _ =>
    .error ⟨p, some ((c.rest.takeWhile isBlank).foldl Position.past c.position)⟩

def enter {α : Type} (room : Nat) (inside : Nat → Reader α) : Reader α :=
  match room with
  | 0 => failAhead .tooDeep
  | room + 1 => do skip; inside room

end Reader

namespace Decoder

open Reader

def map {α β : Type} (f : α → β) (d : Decoder α) : Decoder β where
  read room := do return f (← d.read room)
  ofJson v := (d.ofJson v).map f

def json : Decoder Json where
  read := Reader.value
  ofJson := .ok

def parsed {α : Type} (expected : String) (parse : String → Except Problem α) : Decoder α where
  read _ := do
    match ← ahead? with
    | none => failAhead .endOfValue
    | some c => if c = '"' then checked (parse (← text)) else mismatch expected
  ofJson
    | .str s => parse s
    | v => .error (.wrongType (Json.found v) expected)

def text : Decoder String := parsed "a string" .ok

def boolean : Decoder Bool where
  read _ := do
    match ← ahead? with
    | none => failAhead .endOfValue
    | some c =>
      if c = 't' then word ['t', 'r', 'u', 'e']; pure true
      else if c = 'f' then word ['f', 'a', 'l', 's', 'e']; pure false
      else mismatch "a boolean"
  ofJson
    | .bool b => .ok b
    | v => .error (.wrongType (Json.found v) "a boolean")

def inRange (low high : Int) (name : String) : Number → Except Problem Int
  | .int n =>
    if low ≤ n ∧ n ≤ high then .ok n else .error (.wrongValue (.num (.int n)) name)
  | .double x => .error (.wrongType (.num (.double x)) name)

def integer (low high : Int) (name : String) : Decoder Int where
  read _ := do
    match ← ahead? with
    | none => failAhead .endOfValue
    | some c =>
      if c = '-' || c.isDigit then checked (inRange low high name (← number)) else mismatch name
  ofJson
    | .num n => inRange low high name n
    | v => .error (.wrongType (Json.found v) name)

def natural (bits : Nat) (name : String) : Decoder Nat :=
  (integer 0 (Int.pow 2 bits - 1) name).map Int.toNat

def optional {α : Type} (d : Decoder α) : Decoder (Option α) where
  read room := do
    if (← ahead?) = some 'n' then word ['n', 'u', 'l', 'l']; pure none
    else return some (← d.read room)
  ofJson
    | .null => .ok none
    | v => (d.ofJson v).map some

def list {α : Type} (d : Decoder α) : Decoder (List α) where
  read room := do
    match ← ahead? with
    | none => failAhead .endOfValue
    | some c =>
      if c = '[' then
        enter room fun room => do
          let xs ← items (d.read room) ((← remaining) + 1) true
          closeList
          pure xs
      else mismatch "a sequence"
  ofJson
    | .arr xs => xs.mapM d.ofJson
    | v => .error (.wrongType (Json.found v) "a sequence")

def pick {α : Type} (variants : List (String × α)) (name : String) : Except Problem α :=
  match variants.find? (·.1 = name) with
  | some (_, a) => .ok a
  | none => .error (.unknownVariant name (variants.map (·.1)))

def unit : Decoder Unit where
  read _ := do
    match ← ahead? with
    | none => failAhead .endOfValue
    | some c => if c = 'n' then word ['n', 'u', 'l', 'l'] else mismatch "unit"
  ofJson
    | .null => .ok ()
    | v => .error (.wrongType (Json.found v) "unit")

def tagged {α : Type} (variants : List (String × α)) : Reader α := do
  let a ← (parsed "variant identifier" (pick variants)).read 0
  colon
  unit.read 0
  match ← ahead? with
  | none => failHere .endOfObject
  | some c => if c = '}' then skip else failHere .expectedValue
  pure a

def choice {α : Type} (variants : List (String × α)) : Decoder α where
  read room := do
    match ← ahead? with
    | none => failAhead .endOfValue
    | some c =>
      if c = '{' then enter room fun _ => tagged variants
      else if c = '"' then checked (pick variants (← Reader.text))
      else failAhead .expectedValue
  ofJson
    | .str s => pick variants s
    | .obj [(name, v)] => do
      let a ← pick variants name
      unit.ofJson v
      pure a
    | .obj _ => .error (.wrongValue .object "map with a single key")
    | v => .error (.wrongType (Json.found v) "string or map")

structure Field (ρ : Type) where
  name : String
  optional : Bool
  seen : ρ → Bool
  decoder : Decoder (ρ → ρ)

def field {ρ β : Type} (name : String) (optional : Bool) (get : ρ → Option β)
    (set : β → ρ → ρ) (d : Decoder β) : Field ρ :=
  ⟨name, optional, fun r => (get r).isSome, d.map set⟩

def required {β : Type} (name : String) : Option β → Except Problem β
  | some b => .ok b
  | none => .error (.missingField name)

def elements (name : String) (count : Nat) : String :=
  s!"struct {name} with {count} element" ++ if count = 1 then "" else "s"

/-- A list that ends before this field: the index of the first field that has to be there. -/
def firstRequired {ρ : Type} : List (Field ρ) → (index : Nat) → Option Nat
  | [], _ => none
  | f :: fs, index => if f.optional then firstRequired fs (index + 1) else some index

def readItems {ρ : Type} (name : String) (count room : Nat) :
    List (Field ρ) → (index : Nat) → ρ → Reader (Except Problem ρ)
  | [], _, r => pure (.ok r)
  | f :: fs, index, r => do
    if ← hasItem (index = 0) then
      let update ← f.decoder.read room
      readItems name count room fs (index + 1) (update r)
    else
      match firstRequired (f :: fs) index with
      | none => pure (.ok r)
      | some i => pure (.error (.wrongLength i (elements name count)))

def readMembers {ρ : Type} (fields : List (Field ρ)) (room : Nat) :
    (fuel : Nat) → (first : Bool) → ρ → Reader (Except Problem ρ)
  | 0, _, r => pure (.ok r)
  | fuel + 1, first, r => do
    if ← hasMember first then
      let key ← Reader.text
      match fields.find? (·.name = key) with
      | none =>
        colon
        ignore
        readMembers fields room fuel false r
      | some f =>
        if f.seen r then pure (.error (.duplicateField key)) else
        colon
        let update ← f.decoder.read room
        readMembers fields room fuel false (update r)
    else pure (.ok r)

def itemsOfJson {ρ : Type} (name : String) (count : Nat) :
    List (Field ρ) → (index : Nat) → List Json → ρ → Except Problem (ρ × List Json)
  | [], _, rest, r => .ok (r, rest)
  | f :: fs, index, v :: rest, r => do
    let update ← f.decoder.ofJson v
    itemsOfJson name count fs (index + 1) rest (update r)
  | f :: fs, index, [], r =>
    match firstRequired (f :: fs) index with
    | none => .ok (r, [])
    | some i => .error (.wrongLength i (elements name count))

def membersOfJson {ρ : Type} (fields : List (Field ρ)) :
    List (String × Json) → ρ → Except Problem ρ
  | [], r => .ok r
  | (key, v) :: rest, r =>
    match fields.find? (·.name = key) with
    | none => membersOfJson fields rest r
    | some f => do
      let update ← f.decoder.ofJson v
      membersOfJson fields rest (update r)

/-- A record with these fields, filled in from a blank one. -/
def record {ρ α : Type} (name : String) (fields : List (Field ρ)) (blank : ρ)
    (finish : ρ → Except Problem α) : Decoder α where
  read room := do
    match ← ahead? with
    | none => failAhead .endOfValue
    | some c =>
      if c = '{' then
        enter room fun room => do
          let r ← readMembers fields room ((← remaining) + 1) true blank
          settle closeObject (r.bind finish)
      else if c = '[' then
        enter room fun room => do
          let r ← readItems name fields.length room fields 0 blank
          settle closeList (r.bind finish)
      else mismatch ("struct " ++ name)
  ofJson
    | .obj members => (membersOfJson fields members blank).bind finish
    | .arr values => do
      let (r, rest) ← itemsOfJson name fields.length fields 0 values blank
      let a ← finish r
      if rest.isEmpty then pure a
      else .error (.wrongLength values.length "fewer elements in array")
    | v => .error (.wrongType (Json.found v) ("struct " ++ name))

def ofText {α : Type} (d : Decoder α) (text : String) : Except DecodeError α :=
  (d.read depthLimit).whole? text

def ofValue {α : Type} (d : Decoder α) (v : Json) : Except DecodeError α :=
  match d.ofJson v with
  | .ok a => .ok a
  | .error p => .error ⟨p, none⟩

end Decoder

end MessageRelay.Json
